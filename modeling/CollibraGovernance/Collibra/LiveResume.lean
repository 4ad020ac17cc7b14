import CollibraGovernance.Collibra.LiveSpec
import CollibraGovernance.Collibra.MockConvergence

/-! A live apply that breaks off while creating assets, and the apply that follows it. -/
namespace CollibraGovernance.Collibra

/-- The asset an action creates, if it creates one. -/
def SyncAction.createdAsset (x : SyncAction) : Option CollibraAssetSpec :=
  match x.request with
  | some (.createAsset a) => some a
  | _ => none

@[simp] theorem SyncAction.createdAsset_eq_some {x : SyncAction} {a : CollibraAssetSpec} :
    x.createdAsset = some a ↔ x.request = some (.createAsset a) := by
  unfold SyncAction.createdAsset
  cases x.request with
  | none => simp
  | some q => cases q <;> simp

namespace LiveCollibraAdapter
open Library Domain

/-- The assets a plan creates, in the executor's order. -/
def createOrder (desired : CollibraDesiredState) (remote : CollibraRemoteState) :
    List CollibraAssetSpec :=
  (plannedMutations desired remote).filterMap SyncAction.createdAsset

/-- Assets of the managed domain that were posted for a local id. -/
def createdFor (config : CollibraMappingConfig) (s : LiveSession) (l : String) : List LiveAsset :=
  s.server.assets.filter (fun a => a.domainId = config.domainRef ∧ (l, a.id) ∈ s.posted)

/-- Each asset posted to the managed domain before the failing call is recognised by what was posted by then. -/
def Recoverable (config : CollibraMappingConfig) (desired : CollibraDesiredState)
    (remote : CollibraRemoteState) (k : Nat) : Prop :=
  ∀ p ∈ progress k (createOrder desired remote), p.1.domainRef = config.domainRef →
    ∃ q ∈ progress k (createOrder desired remote), recognisedFrom config q = some p.1.localId

section Creates
variable {desired : CollibraDesiredState} {remote : CollibraRemoteState}

/-- The created local ids are the desired ones without a match, each once. -/
theorem createOrder_localIds : ((createOrder desired remote).map CollibraAssetSpec.localId).Perm
    ((desiredAssetIndex desired).keys.filter
      (fun l => (remoteAssetIndex remote).get? l = none)) := by
  have hplan : (createOrder desired remote).Perm
      ((buildSyncPlan desired remote).actions.filterMap SyncAction.createdAsset) := by
    have hordered := orderedMutatingActions_perm (buildSyncPlan desired remote)
    unfold createOrder plannedMutations
    refine (hordered.filterMap _).trans (List.Perm.of_eq ?_)
    have hdrop : ∀ t k, (t = SyncActionType.update ∨ k = SyncObjectKind.relationship) →
        (ofKind t k (buildSyncPlan desired remote).actions).filterMap SyncAction.createdAsset = [] := by
      intro t k htk
      rw [List.filterMap_eq_nil_iff]
      intro x hx
      obtain ⟨-, ht, hk⟩ := mem_ofKind.mp hx
      rw [Option.eq_none_iff_forall_ne_some]
      intro a ha
      obtain ⟨ht', hk', -⟩ := request_createAsset.mp (SyncAction.createdAsset_eq_some.mp ha)
      rcases htk with rfl | rfl
      · rw [ht] at ht'; cases ht'
      · rw [hk] at hk'; cases hk'
    rw [List.filterMap_append, List.filterMap_append, hdrop _ _ (.inl rfl), hdrop _ _ (.inr rfl),
      List.append_nil, List.append_nil, ofKind, List.filterMap_filter]
    apply List.filterMap_congr
    intro x _
    split_ifs with h
    · rfl
    · rw [eq_comm, Option.eq_none_iff_forall_ne_some]
      intro a ha
      obtain ⟨ht, hk, -⟩ := request_createAsset.mp (SyncAction.createdAsset_eq_some.mp ha)
      simp [ht, hk] at h
  have hactions := (buildSyncPlan_perm desired remote).filterMap SyncAction.createdAsset
  have hrels : (relationshipActions desired remote).filterMap SyncAction.createdAsset = [] := by
    rw [List.filterMap_eq_nil_iff]
    intro x hx
    rw [Option.eq_none_iff_forall_ne_some]
    intro a ha
    obtain ⟨-, hk, -⟩ := request_createAsset.mp (SyncAction.createdAsset_eq_some.mp ha)
    rw [objectKind_of_mem_relationshipActions hx] at hk
    cases hk
  rw [List.filterMap_append, hrels, List.append_nil] at hactions
  refine ((hplan.trans hactions).map _).trans (List.Perm.of_eq ?_)
  unfold assetActions Dict.keys
  have hremote : (((remoteAssetIndex remote).entries.filter
      (fun e => !(desiredAssetIndex desired).contains e.1)).map
      (fun e => SyncAction.remoteOnlyAsset e.1 e.2)).filterMap SyncAction.createdAsset = [] := by
    rw [List.filterMap_map, List.filterMap_eq_nil_iff]
    intro e _
    rfl
  rw [List.filterMap_append, hremote, List.append_nil, List.filterMap_map, List.map_filterMap,
    List.filter_map, ← List.filterMap_eq_map, List.filterMap_filter]
  apply List.filterMap_congr
  intro e he
  have hlocal := (mem_desiredAssetIndex he).2
  simp only [Function.comp_apply, desiredAssetAction, SyncAction.createdAsset]
  cases hr : (remoteAssetIndex remote).get? e.1 with
  | none => simp [SyncAction.request, SyncAction.createAsset, hlocal]
  | some r =>
    simp only [decide_eq_true_eq, reduceCtorEq, if_false]
    by_cases hdiff : assetChangedFields e.2 r = []
    · simp [hdiff, SyncAction.request, SyncAction.unchangedAsset]
    · simp [hdiff, SyncAction.request, SyncAction.updateAsset]

theorem createOrder_nodup : ((createOrder desired remote).map CollibraAssetSpec.localId).Nodup := by
  rw [createOrder_localIds.nodup_iff]
  exact (Dict.keys_nodup _).filter _

theorem mem_createOrder {a : CollibraAssetSpec} (h : a ∈ createOrder desired remote) :
    a ∈ desired.assets ∧ Unmatched remote a := by
  obtain ⟨x, hx, hreq⟩ := List.mem_filterMap.mp h
  obtain ⟨q, hq, hplanned⟩ := plannedMutations_planned hx
  rw [SyncAction.createdAsset_eq_some, hq, Option.some_inj] at hreq
  subst hreq
  cases hplanned with
  | create ha hnew => exact ⟨ha, hnew⟩

/-- What is created for a local id is what the desired state has under it. -/
lemma createOrder_asked {a : CollibraAssetSpec} (h : a ∈ createOrder desired remote) :
    (desiredAssetIndex desired).get? a.localId = some a := by
  obtain ⟨x, hx, hreq⟩ := List.mem_filterMap.mp h
  obtain ⟨-, hkind, hasset⟩ := request_createAsset.mp (SyncAction.createdAsset_eq_some.mp hreq)
  have hmem := (mem_plannedMutations.mp hx).1
  rcases List.mem_append.mp hmem with hmem | hmem
  · rcases List.mem_append.mp hmem with hmem | hmem <;> obtain ⟨e, he, rfl⟩ := List.mem_map.mp hmem
    · rw [desiredAssetAction_desiredAsset, Option.some_inj] at hasset
      rw [← hasset, (mem_desiredAssetIndex he).2]
      exact Dict.get?_eq_some.mpr he
    · cases hasset
  · rw [objectKind_of_mem_relationshipActions hmem] at hkind
    cases hkind

/-- The domain in which an asset of a local id is created. -/
def askedDomain (desired : CollibraDesiredState) (l : String) : String :=
  (((desiredAssetIndex desired).get? l).map CollibraAssetSpec.domainRef).getD ""

lemma askedDomain_of_asked {a : CollibraAssetSpec} (h : (desiredAssetIndex desired).get? a.localId = some a) :
    askedDomain desired a.localId = a.domainRef := by
  rw [askedDomain, h]
  rfl

/-- The executor starts with the creates. -/
lemma plannedMutations_split : ∃ creates rest, plannedMutations desired remote = creates ++ rest ∧
    (∀ x ∈ creates, ∃ a, x.request = some (.createAsset a)) ∧
    creates.filterMap SyncAction.createdAsset = createOrder desired remote := by
  refine ⟨sortBy assetRank (ofKind .create .asset (mutatingActions (buildSyncPlan desired remote))),
    sortBy (fun a => a.localId.getD "")
      (ofKind .update .asset (mutatingActions (buildSyncPlan desired remote))) ++
    sortBy (fun a => a.localId.getD "")
      (ofKind .create .relationship (mutatingActions (buildSyncPlan desired remote))), ?_, ?_, ?_⟩
  · rw [plannedMutations, orderedMutatingActions, List.append_assoc]
  · intro x hx
    obtain ⟨-, ht, hk⟩ := mem_ofKind.mp (mem_sortBy.mp hx)
    obtain ⟨a, ha⟩ := x.create_asset_isSome ht hk
    exact ⟨a, request_createAsset.mpr ⟨ht, hk, ha⟩⟩
  · rw [createOrder, plannedMutations, orderedMutatingActions, List.append_assoc,
      List.filterMap_append, List.self_eq_append_right, List.filterMap_eq_nil_iff]
    intro x hx
    rw [Option.eq_none_iff_forall_ne_some]
    intro a ha
    obtain ⟨ht, hk, -⟩ := request_createAsset.mp (SyncAction.createdAsset_eq_some.mp ha)
    rcases List.mem_append.mp hx with hx | hx
    · rw [(mem_ofKind.mp (mem_sortBy.mp hx)).2.1] at ht
      cases ht
    · rw [(mem_ofKind.mp (mem_sortBy.mp hx)).2.2] at hk
      cases hk

end Creates

section FirstApply
variable {config : CollibraMappingConfig} {ids : IdSource} {fault : CollibraAdapterError}

lemma foldl_post_remaining (posts : List (CollibraAssetSpec × List CollibraAttributeSpec))
    (s : LiveSession) (r : Option Nat) :
    posts.foldl (post ids) { s with remaining := r } =
      { posts.foldl (post ids) s with remaining := r } := by
  induction posts generalizing s with
  | nil => rfl
  | cons p rest ih => exact ih (post ids s p)

/-- With too few calls left, a run stops within its creates, having posted what it could. -/
theorem runActions_creates {creates rest : List SyncAction}
    (hcreates : ∀ x ∈ creates, ∃ a, x.request = some (.createAsset a))
    {m : Dict String String} {applied n : Nat} {s : LiveSession} (hn : s.remaining = some n)
    (hlt : n < createCalls (creates.filterMap SyncAction.createdAsset)) :
    (runActions (adapter config ids fault) m applied (creates ++ rest) s).2 =
      { (progress n (creates.filterMap SyncAction.createdAsset)).foldl (post ids) s with
        remaining := some 0 } := by
  induction creates generalizing m applied n s with
  | nil => simp [createCalls] at hlt
  | cons x creates ih =>
    obtain ⟨a, ha⟩ := hcreates x (List.mem_cons_self ..)
    have hx : x.createdAsset = some a := SyncAction.createdAsset_eq_some.mpr ha
    rw [List.filterMap_cons_some hx] at hlt ⊢
    simp only [List.cons_append, runActions, performAction, ha]
    cases n with
    | zero =>
      have hcall : (adapter config ids fault).createAsset a s = _ := createAsset_exhausted a s hn
      rw [hcall]
      obtain ⟨server, remaining, posted⟩ := s
      cases hn
      rfl
    | succ n =>
      have hcall : (adapter config ids fault).createAsset a s = _ := createAsset_budget a s n hn
      rw [hcall]
      by_cases hshort : n < a.attributes.length
      · simp only [if_pos hshort, progress, List.foldl_cons, List.foldl_nil]
      · simp only [if_neg hshort, progress, List.foldl_cons]
        simp only [createCalls] at hlt
        rw [ih (fun y hy => hcreates y (List.mem_cons_of_mem _ hy)) rfl (by omega),
          foldl_post_remaining]

lemma progress_sublist (n : Nat) (assets : List CollibraAssetSpec) :
    ((progress n assets).map Prod.fst).Sublist assets := by
  induction assets generalizing n with
  | nil => cases n <;> simp [progress]
  | cons a rest ih =>
    cases n with
    | zero => simp [progress]
    | succ n =>
      simp only [progress]
      split_ifs
      · simp
      · exact (ih _).cons_cons a

lemma posted_foldl (posts : List (CollibraAssetSpec × List CollibraAttributeSpec))
    (s : LiveSession) : (posts.foldl (post ids) s).posted.map Prod.fst =
      s.posted.map Prod.fst ++ posts.map (fun p => p.1.localId) := by
  induction posts generalizing s with
  | nil => simp
  | cons p rest ih =>
    rw [List.foldl_cons, ih]
    simp [post]

end FirstApply

section Ownership
variable {config : CollibraMappingConfig} {ids : IdSource} {fault : CollibraAdapterError}
variable {desired : CollibraDesiredState}

/-- Remote id and domain of every stored asset. -/
def placement (server : LiveServer) : List (String × String) :=
  server.assets.map (fun a => (a.id, a.domainId))

/-- Each posted id names one stored asset, in the domain that is desired for its local id. -/
structure Owned (desired : CollibraDesiredState) (s : LiveSession) : Prop where
  nodup : (s.posted.map Prod.snd).Nodup
  stored : (placement s.server).filter (fun v => v.1 ∈ s.posted.map Prod.snd) =
    s.posted.map (fun e => (e.2, askedDomain desired e.1))

lemma owned_start (server : LiveServer) (remaining : Option Nat) :
    Owned desired ⟨server, remaining, []⟩ := ⟨List.nodup_nil, by simp⟩

lemma Owned.of_same {s s' : LiveSession} (h : Owned desired s) (hposted : s'.posted = s.posted)
    (hplaced : placement s'.server = placement s.server) : Owned desired s' :=
  ⟨by rw [hposted]; exact h.nodup, by rw [hposted, hplaced]; exact h.stored⟩

lemma Owned.post {s : LiveSession} (h : Owned desired s) {p : CollibraAssetSpec × List CollibraAttributeSpec}
    (hasked : (desiredAssetIndex desired).get? p.1.localId = some p.1) : Owned desired (post ids s p) := by
  obtain ⟨added, hserver, -⟩ := @post_server ids s p
  have hfresh : ∀ v ∈ placement s.server, v.1 ≠ ids.pick s.server.ids := by
    intro v hv
    obtain ⟨item, hitem, rfl⟩ := List.mem_map.mp hv
    exact (pick_fresh s.server).1 item hitem
  have hnew : ids.pick s.server.ids ∉ s.posted.map Prod.snd := by
    intro hmem
    obtain ⟨e, he, hid⟩ := List.mem_map.mp hmem
    have hv : (e.2, askedDomain desired e.1) ∈
        (placement s.server).filter (fun v => v.1 ∈ s.posted.map Prod.snd) := by
      rw [h.stored]
      exact List.mem_map_of_mem (f := fun e : String × String => (e.2, askedDomain desired e.1)) he
    exact hfresh _ (List.mem_of_mem_filter hv) hid
  have hposted : (LiveCollibraAdapter.post ids s p).posted.map Prod.snd =
      s.posted.map Prod.snd ++ [ids.pick s.server.ids] := by
    simp [LiveCollibraAdapter.post]
  have hplaced : placement (LiveCollibraAdapter.post ids s p).server =
      placement s.server ++ [(ids.pick s.server.ids, askedDomain desired p.1.localId)] := by
    rw [placement, hserver, List.map_append, placement]
    simp [newAsset, askedDomain_of_asked hasked]
  refine ⟨?_, ?_⟩
  · rw [hposted, List.nodup_append]
    refine ⟨h.nodup, List.nodup_singleton _, ?_⟩
    rintro id hid _ hsingle rfl
    rw [List.mem_singleton.mp hsingle] at hid
    exact hnew hid
  · have hlog : (LiveCollibraAdapter.post ids s p).posted =
        s.posted ++ [(p.1.localId, ids.pick s.server.ids)] := rfl
    rw [hposted, hplaced, hlog, List.filter_append, List.map_append, ← h.stored]
    congr 1
    · apply List.filter_congr
      intro v hv
      simp [hfresh v hv]
    · simp

lemma Owned.posts {posts : List (CollibraAssetSpec × List CollibraAttributeSpec)}
    (hasked : ∀ p ∈ posts, (desiredAssetIndex desired).get? p.1.localId = some p.1) {s : LiveSession}
    (h : Owned desired s) : Owned desired (posts.foldl (LiveCollibraAdapter.post ids) s) := by
  induction posts generalizing s with
  | nil => exact h
  | cons p rest ih =>
    exact ih (fun q hq => hasked q (List.mem_cons_of_mem _ hq))
      (h.post (hasked p (List.mem_cons_self ..)))

/-- The assets posted for a local id are counted by the log, if its domain is the managed one. -/
theorem length_createdFor {s : LiveSession} (h : Owned desired s) (l : String) :
    (createdFor config s l).length =
      if askedDomain desired l = config.domainRef then (s.posted.map Prod.fst).count l else 0 := by
  have hview : (createdFor config s l).length =
      ((placement s.server).filter (fun v => v.2 = config.domainRef ∧ (l, v.1) ∈ s.posted)).length := by
    rw [placement, List.filter_map, List.length_map]
    rfl
  have hinner : (placement s.server).filter
        (fun v => v.2 = config.domainRef ∧ (l, v.1) ∈ s.posted) =
      ((placement s.server).filter (fun v => v.1 ∈ s.posted.map Prod.snd)).filter
        (fun v => v.2 = config.domainRef ∧ (l, v.1) ∈ s.posted) := by
    rw [List.filter_filter]
    apply List.filter_congr
    intro v _
    rw [Bool.eq_iff_iff]
    simp only [decide_eq_true_eq, Bool.and_eq_true, iff_self_and]
    rintro ⟨-, hmem⟩
    exact List.mem_map_of_mem (f := Prod.snd) hmem
  have hsame : ∀ e ∈ s.posted, ((l, e.2) ∈ s.posted ↔ e.1 = l) := by
    rintro ⟨l', id⟩ hp
    constructor
    · intro hmem
      exact congrArg Prod.fst (List.inj_on_of_nodup_map h.nodup hp hmem rfl)
    · rintro rfl
      exact hp
  rw [hview, hinner, h.stored, List.filter_map, List.length_map]
  split_ifs with hdomain
  · rw [List.count_eq_countP, List.countP_map, List.countP_eq_length_filter]
    congr 1
    apply List.filter_congr
    intro e he
    rw [Bool.eq_iff_iff]
    simp only [Function.comp_apply, decide_eq_true_eq, beq_iff_eq, hsame e he]
    exact ⟨And.right, fun hl => ⟨by rw [hl, hdomain], hl⟩⟩
  · rw [List.length_eq_zero_iff, List.filter_eq_nil_iff]
    intro e he
    simp only [Function.comp_apply, decide_eq_true_eq, hsame e he]
    rintro ⟨hmanaged, rfl⟩
    exact hdomain hmanaged

lemma placement_patchAsset {server server' : LiveServer} {remoteId : String}
    {name displayName : Option String}
    (h : patchAsset server remoteId name displayName = .ok server') :
    placement server' = placement server := by
  unfold patchAsset at h
  split at h
  · cases h
    simp only [placement, List.map_map]
    apply List.map_congr_left
    intro a _
    simp only [Function.comp_apply]
    split_ifs <;> rfl
  · cases h

lemma placement_updateAttribute {remoteId : String}
    {existing : Dict String CollibraRemoteAttribute} {a : CollibraAttributeSpec}
    {server server' : LiveServer}
    (h : updateAttribute config ids remoteId existing a server = .ok server') :
    placement server' = placement server := by
  unfold updateAttribute at h
  split at h
  · cases h; rfl
  · split at h
    · cases h; rfl
    · split at h
      · cases h; rfl
      · split at h
        · cases h
        · cases h; rfl

lemma placement_updateAttributes {remoteId : String}
    {existing : Dict String CollibraRemoteAttribute} (attributes : List CollibraAttributeSpec)
    (server : LiveServer) :
    placement (updateAttributes config ids remoteId existing attributes server).2 =
      placement server := by
  induction attributes generalizing server with
  | nil => rfl
  | cons a rest ih =>
    simp only [updateAttributes]
    cases hone : updateAttribute config ids remoteId existing a server with
    | error e => rfl
    | ok server' =>
      simp only
      rw [ih, placement_updateAttribute hone]

/-- An update posts no asset and moves none. -/
lemma updateAsset_places {remoteId : String} {asset : CollibraAssetSpec} {pn pd : Bool}
    {s s' : LiveSession} {u : Unit}
    (h : updateAsset config ids remoteId asset pn pd s = (.ok u, s')) :
    s'.posted = s.posted ∧ s'.remaining = s.remaining ∧
      placement s'.server = placement s.server := by
  unfold updateAsset at h
  cases hnames : updateNames remoteId asset pn pd s.server with
  | error e =>
    simp only [hnames] at h
    cases h
  | ok server =>
    have hplaced : placement server = placement s.server := by
      unfold updateNames at hnames
      simp only at hnames
      split_ifs at hnames
      all_goals first
        | exact placement_patchAsset hnames
        | cases hnames; rfl
    simp only [hnames] at h
    cases hlist : listManagedAttributesForAsset config server remoteId with
    | error e =>
      simp only [hlist] at h
      cases h
    | ok existing =>
      simp only [hlist, Prod.mk.injEq] at h
      obtain ⟨-, rfl⟩ := h
      exact ⟨rfl, rfl, by rw [placement_updateAttributes, hplaced]⟩

end Ownership

section SecondApply
variable {config : CollibraMappingConfig} {ids : IdSource} {fault : CollibraAdapterError}
variable {desired : CollibraDesiredState} {remote : CollibraRemoteState}

/-- What holds between two passes of an apply in which no call fails. -/
structure Resuming (desired : CollibraDesiredState) (total : List String) (rest : List SyncAction)
    (s : LiveSession) : Prop where
  unlimited : s.remaining = none
  owned : Owned desired s
  asked : ∀ a ∈ rest.filterMap SyncAction.createdAsset, (desiredAssetIndex desired).get? a.localId = some a
  total : s.posted.map Prod.fst ++
    (rest.filterMap SyncAction.createdAsset).map CollibraAssetSpec.localId = total

theorem resuming_step {total : List String} {m m' : Dict String String} {x : SyncAction} {rest : List SyncAction}
    {n : Nat} {s s' : LiveSession} (h : Resuming desired total (x :: rest) s)
    (hx : performAction (adapter config ids fault) m x s = (.ok (m', n), s')) : Resuming desired total rest s' := by
  have hasked := h.asked
  have hother : (∀ a, x.request ≠ some (.createAsset a)) →
      (x :: rest).filterMap SyncAction.createdAsset = rest.filterMap SyncAction.createdAsset := by
    intro hne
    apply List.filterMap_cons_none
    rw [Option.eq_none_iff_forall_ne_some]
    intro a ha
    exact hne a (SyncAction.createdAsset_eq_some.mp ha)
  have htotal := h.total
  rcases performAction_cases hx with ⟨a, id, hreq, hcall, -⟩ | ⟨id, a, pn, pd, hreq, hcall, -⟩ |
    ⟨rel, source, target, id, hreq, -, -, hcall, -⟩ | ⟨hreq, -, rfl⟩
  · rw [List.filterMap_cons_some (SyncAction.createdAsset_eq_some.mpr hreq)] at hasked htotal
    have hpost : createAsset ids fault a s = _ := createAsset_unlimited a s h.unlimited
    rw [show (adapter config ids fault).createAsset a s = createAsset ids fault a s from rfl, hpost,
      Prod.mk.injEq] at hcall
    obtain ⟨-, rfl⟩ := hcall
    refine ⟨h.unlimited, h.owned.post (hasked a (List.mem_cons_self ..)),
      fun b hb => hasked b (List.mem_cons_of_mem _ hb), ?_⟩
    rw [← htotal]
    simp [post]
  · obtain ⟨hposted, hremaining, hplaced⟩ := updateAsset_places hcall
    rw [hother (by simp [hreq])] at hasked htotal
    exact ⟨by rw [hremaining, h.unlimited], h.owned.of_same hposted hplaced, hasked, by rw [hposted, htotal]⟩
  · rw [hother (by simp [hreq])] at hasked htotal
    have hlink : createRelationship ids rel source target s = (.ok id, s') := hcall
    unfold createRelationship at hlink
    simp only [Prod.mk.injEq] at hlink
    obtain ⟨-, rfl⟩ := hlink
    exact ⟨h.unlimited, h.owned.of_same rfl rfl, hasked, htotal⟩
  · rw [hother (by simp [hreq])] at hasked htotal
    exact ⟨h.unlimited, h.owned, hasked, htotal⟩

/-- An apply that succeeds posts one asset for each unmatched desired one. -/
theorem apply_posts {s s' : LiveSession} (hremaining : s.remaining = none) (howned : Owned desired s)
    {result : SyncResult}
    (hrun : executeSyncPlan (adapter config ids fault) (buildSyncPlan desired remote) true s =
      (result, s')) (hok : result.success = true) :
    Owned desired s' ∧ s'.posted.map Prod.fst = s.posted.map Prod.fst ++
      (createOrder desired remote).map CollibraAssetSpec.localId := by
  rw [applySyncPlanMutations_eq] at hrun
  simp only [Prod.mk.injEq] at hrun
  obtain ⟨rfl, rfl⟩ := hrun
  simp only [Option.isNone_iff_eq_none] at hok
  obtain ⟨m, hend⟩ := runActions_induction
    (motive := fun _ rest s => Resuming desired _ rest s)
    (fun m x rest s m' n s' h hx => resuming_step h hx)
    ⟨hremaining, howned, fun a ha => createOrder_asked ha, rfl⟩ hok
  refine ⟨hend.owned, ?_⟩
  have htotal := hend.total
  rw [List.filterMap_nil, List.map_nil, List.append_nil] at htotal
  exact htotal

end SecondApply

section Main
variable {config : CollibraMappingConfig} {ids : IdSource} {fault : CollibraAdapterError}
variable {desired : CollibraDesiredState} {remote remote' : CollibraRemoteState}

/-- The session in which an apply starts whose `k`-th create-path call fails. -/
def failingAt (server : LiveServer) (k : Nat) : LiveSession := ⟨server, some k, []⟩

/-- The session after the posts that an apply makes before its `k`-th call fails. -/
def brokenOff (ids : IdSource) (server : LiveServer) (k : Nat) (assets : List CollibraAssetSpec) :
    LiveSession :=
  { (progress k assets).foldl (post ids) (failingAt server k) with remaining := some 0 }

lemma brokenOff_server (server : LiveServer) (k : Nat) (assets : List CollibraAssetSpec) :
    (brokenOff ids server k assets).server =
      ((progress k assets).foldl (post ids) (failingAt server k)).server := rfl

lemma brokenOff_posted (server : LiveServer) (k : Nat) (assets : List CollibraAssetSpec) :
    (brokenOff ids server k assets).posted.map Prod.fst =
      (progress k assets).map (fun p => p.1.localId) :=
  posted_foldl (progress k assets) (failingAt server k)

lemma brokenOff_owned {server : LiveServer} {k : Nat} {assets : List CollibraAssetSpec}
    (hasked : ∀ p ∈ progress k assets, (desiredAssetIndex desired).get? p.1.localId = some p.1)
    (remaining : Option Nat) : Owned desired { brokenOff ids server k assets with remaining := remaining } := by
  have howned := @Owned.posts ids desired _ hasked (failingAt server k) (owned_start server (some k))
  exact ⟨howned.nodup, howned.stored⟩

/-- The first apply ends with the posts before its failing call, and nothing else. -/
theorem firstApply_posts {server : LiveServer} {s : LiveSession} {k : Nat}
    (hk : k < createCalls (createOrder desired remote)) {result : SyncResult}
    (hrun : executeSyncPlan (adapter config ids fault) (buildSyncPlan desired remote) true
      (failingAt server k) = (result, s)) :
    s = brokenOff ids server k (createOrder desired remote) := by
  obtain ⟨creates, rest, hsplit, hcreates, horder⟩ := @plannedMutations_split desired remote
  rw [applySyncPlanMutations_eq] at hrun
  have hstate := congrArg Prod.snd hrun
  simp only at hstate
  rw [← hstate, ← horder]
  rw [← horder] at hk
  have hcreated := @runActions_creates config ids fault creates rest hcreates
    (seedRemoteIdsFromPlan (buildSyncPlan desired remote)) 0 k (failingAt server k) rfl hk
  rw [← hsplit] at hcreated
  exact hcreated

/-- An asset posted by the first apply is unmatched for the second exactly when nothing that was
posted makes it recognisable. -/
theorem unmatched_after_posts (s s' : LiveSession)
    {posts : List (CollibraAssetSpec × List CollibraAttributeSpec)}
    (hread : readRemoteState config s.server = .ok remote)
    (hserver : s'.server = (posts.foldl (post ids) s).server)
    (hread' : readRemoteState config s'.server = .ok remote')
    {a : CollibraAssetSpec} (hnew : Unmatched remote a) :
    Unmatched remote' a ↔ ¬ ∃ q ∈ posts, recognisedFrom config q = some a.localId := by
  have hbefore := (unmatched_iff hread a.localId).mp hnew
  have hgrown := @recognised_posts config ids s posts a.localId
  rw [hserver] at hread'
  refine (unmatched_iff hread' a.localId).trans ?_
  constructor
  · intro hnone hrec
    obtain ⟨item, hitem, hitemrec⟩ := hgrown.mpr (.inr hrec)
    exact hnone item hitem hitemrec
  · intro hnone item hitem hrec
    rcases hgrown.mp ⟨item, hitem, hrec⟩ with ⟨old, hold, holdrec⟩ | hq
    · exact hbefore old hold holdrec
    · exact hnone hq

/-- An apply breaks off on its `k`-th create-path call; the remote side is read and planned again
and the second apply succeeds. No desired asset is left with two remote ones exactly when the first
apply was recoverable. -/
theorem reapply_no_duplicates_iff {server : LiveServer} {k : Nat} {result result' : SyncResult}
    {s₁ s₂ : LiveSession} (hread : readRemoteState config server = .ok remote)
    (hk : k < createCalls (createOrder desired remote))
    (hrun : executeSyncPlan (adapter config ids fault) (buildSyncPlan desired remote) true
      (failingAt server k) = (result, s₁))
    (hread' : readRemoteState config s₁.server = .ok remote')
    (hrun' : executeSyncPlan (adapter config ids fault) (buildSyncPlan desired remote') true
      { s₁ with remaining := none } = (result', s₂))
    (hok : result'.success = true) :
    (∀ l, (createdFor config s₂ l).length ≤ 1) ↔ Recoverable config desired remote k := by
  have hsub := progress_sublist k (createOrder desired remote)
  have hmem : ∀ p ∈ progress k (createOrder desired remote), p.1 ∈ createOrder desired remote :=
    fun p hp => hsub.subset (List.mem_map_of_mem hp)
  have hfirst := firstApply_posts hk hrun
  subst hfirst
  have hmatched : ∀ p ∈ progress k (createOrder desired remote), Unmatched remote' p.1 ↔
      ¬ ∃ q ∈ progress k (createOrder desired remote), recognisedFrom config q = some p.1.localId :=
    fun p hp => unmatched_after_posts (failingAt server k) (brokenOff ids server k (createOrder desired remote)) hread
      (brokenOff_server server k _) hread' (mem_createOrder (hmem p hp)).2
  obtain ⟨howned, hposted⟩ := apply_posts rfl
    (brokenOff_owned (fun p hp => createOrder_asked (hmem p hp)) none) hrun' hok
  have hearly : ((progress k (createOrder desired remote)).map (fun p => p.1.localId)).Nodup := by
    have := (@createOrder_nodup desired remote).sublist (hsub.map CollibraAssetSpec.localId)
    rwa [List.map_map] at this
  have hlate := @createOrder_nodup desired remote'
  -- A local id is counted twice when both applies post it; other domains than the managed one are not counted.
  have hcount : ∀ l, (createdFor config s₂ l).length ≤ 1 ↔ (askedDomain desired l = config.domainRef →
      l ∈ (progress k (createOrder desired remote)).map (fun p => p.1.localId) →
        l ∉ (createOrder desired remote').map CollibraAssetSpec.localId) := by
    intro l
    rw [length_createdFor howned, hposted, brokenOff_posted, List.count_append, hearly.count, hlate.count]
    by_cases hmanaged : askedDomain desired l = config.domainRef
    · rw [if_pos hmanaged]
      by_cases hfirst : l ∈ (progress k (createOrder desired remote)).map (fun p => p.1.localId) <;>
        by_cases hsecond : l ∈ (createOrder desired remote').map CollibraAssetSpec.localId <;>
        simp only [hmanaged, hfirst, hsecond, if_true, if_false, true_imp_iff, not_true, not_false_eq_true, false_imp_iff] <;>
        decide
    · rw [if_neg hmanaged]
      exact iff_of_true (Nat.zero_le 1) fun h => absurd h hmanaged
  simp only [hcount]
  constructor
  · intro hone p hp hmanaged
    by_contra hnone
    have hnew : (remoteAssetIndex remote').get? p.1.localId = none := (hmatched p hp).mpr hnone
    have hasked := createOrder_asked (hmem p hp)
    refine hone p.1.localId ((askedDomain_of_asked hasked).trans hmanaged) (List.mem_map_of_mem hp) ?_
    rw [createOrder_localIds.mem_iff, List.mem_filter]
    exact ⟨Dict.mem_keys_iff.mpr ⟨p.1, hasked⟩, decide_eq_true hnew⟩
  · intro hrec l hmanaged hpost hagain
    obtain ⟨p, hp, rfl⟩ := List.mem_map.mp hpost
    obtain ⟨a, ha, hlocal⟩ := List.mem_map.mp hagain
    have hnew : Unmatched remote' p.1 := by
      rw [Unmatched, ← hlocal]
      exact (mem_createOrder ha).2
    rw [askedDomain_of_asked (createOrder_asked (hmem p hp))] at hmanaged
    exact (hmatched p hp).mp hnew (hrec p hp hmanaged)

end Main

section Districts
/-! Two databases without schemas. -/
open MockCollibraAdapter (shortMappingConfig bareModel bareDatabase bareAsset nothingRemote)

def totalLength : List String → Nat
  | [] => 0
  | s :: rest => s.length + totalLength rest

lemma length_le_totalLength {used : List String} {s : String} (h : s ∈ used) :
    s.length ≤ totalLength used := by
  induction used with
  | nil => cases h
  | cons t rest ih =>
    rw [totalLength]
    rcases List.mem_cons.mp h with rfl | h
    · omega
    · have := ih h
      omega

/-- Numbers a record with a string longer than every one in use. -/
def unaryId (used : List String) : String :=
  String.ofList (List.replicate (totalLength used + 1) 'i')

lemma unaryId_fresh (used : List String) : unaryId used ∉ used := by
  intro hmem
  have hle := length_le_totalLength hmem
  have hlength : (unaryId used).length = totalLength used + 1 := by
    simp [unaryId, String.length]
  omega

lemma unaryId_nonblank (used : List String) : isBlank (unaryId used) = false := by
  rw [isBlank, unaryId, String.toList_ofList, List.replicate_succ, List.all_cons]
  rfl

def unaryIds : IdSource := ⟨unaryId, unaryId_fresh, unaryId_nonblank⟩

def districts : GovernanceModel :=
  bareModel [bareDatabase "db:n" "n" (by decide) (by decide),
    bareDatabase "db:s" "s" (by decide) (by decide)] (by decide)

def districtsDesired : CollibraDesiredState :=
  CollibraDesiredState.create [bareAsset "db:n" "n" (by decide) (by decide),
    bareAsset "db:s" "s" (by decide) (by decide)] []

lemma districts_mapped : mapToDesiredState districts shortMappingConfig = .ok districtsDesired :=
  toOption_eq_some.mp (by decide +kernel)

def emptyServer : LiveServer := ⟨[], [], []⟩

def timeout : CollibraAdapterError := ⟨"timed out", "post", none, none, none, none, none⟩

/-- An apply of the two databases to an empty server, broken off on its `k`-th create-path call. -/
def districtsApply (k : Nat) : SyncResult × LiveSession :=
  executeSyncPlan (adapter shortMappingConfig unaryIds timeout)
    (buildSyncPlan districtsDesired nothingRemote) true (failingAt emptyServer k)

/-- The apply after it, of the plan for what was read in between. -/
def districtsReapply (k : Nat) (remote : CollibraRemoteState) : SyncResult × LiveSession :=
  executeSyncPlan (adapter shortMappingConfig unaryIds timeout)
    (buildSyncPlan districtsDesired remote) true { (districtsApply k).2 with remaining := none }

lemma districtsApply_eq (k : Nat) :
    executeSyncPlan (adapter shortMappingConfig unaryIds timeout)
      (buildSyncPlan districtsDesired nothingRemote) true (failingAt emptyServer k) =
      ((districtsApply k).1, (districtsApply k).2) := by
  unfold districtsApply
  exact (Prod.eta _).symm

lemma districtsReapply_eq (k : Nat) (remote : CollibraRemoteState) :
    executeSyncPlan (adapter shortMappingConfig unaryIds timeout)
      (buildSyncPlan districtsDesired remote) true { (districtsApply k).2 with remaining := none } =
      ((districtsReapply k remote).1, (districtsReapply k remote).2) := by
  unfold districtsReapply
  exact (Prod.eta _).symm

lemma emptyServer_read : readRemoteState shortMappingConfig emptyServer = .ok nothingRemote :=
  toOption_eq_some.mp (by decide +kernel)

theorem broken_off_between_assets : ∃ remote,
    readRemoteState shortMappingConfig (districtsApply 2).2.server = .ok remote ∧
      ∀ l, (createdFor shortMappingConfig (districtsReapply 2 remote).2 l).length ≤ 1 := by
  have hreadable : (readRemoteState shortMappingConfig
      (districtsApply 2).2.server).toOption.isSome = true := by
    decide +kernel
  obtain ⟨remote, hread⟩ := exists_ok hreadable
  have hok : (readRemoteState shortMappingConfig (districtsApply 2).2.server).toOption.map
      (fun remote => (districtsReapply 2 remote).1.success) = some true := by
    decide +kernel
  rw [hread] at hok
  have hrecoverable : Recoverable shortMappingConfig districtsDesired nothingRemote 2 := by
    unfold Recoverable
    decide +kernel
  exact ⟨remote, hread, (reapply_no_duplicates_iff emptyServer_read
    (by decide +kernel) (districtsApply_eq 2) hread (districtsReapply_eq 2 remote)
    (Option.some_inj.mp hok)).mpr hrecoverable⟩

/-- The asset was posted and its local id was not; the next apply posts it a second time. -/
theorem broken_off_within_asset :
    mapToDesiredState districts shortMappingConfig = .ok districtsDesired ∧
    readRemoteState shortMappingConfig emptyServer = .ok nothingRemote ∧ ∃ remote,
    readRemoteState shortMappingConfig (districtsApply 1).2.server = .ok remote ∧
      (districtsReapply 1 remote).1.success = true ∧
      (createdFor shortMappingConfig (districtsReapply 1 remote).2 "db:n").length = 2 := by
  have hreadable : (readRemoteState shortMappingConfig
      (districtsApply 1).2.server).toOption.isSome = true := by
    decide +kernel
  obtain ⟨remote, hread⟩ := exists_ok hreadable
  have hrun : (readRemoteState shortMappingConfig (districtsApply 1).2.server).toOption.map
      (fun remote => decide ((districtsReapply 1 remote).1.success = true ∧
        (createdFor shortMappingConfig (districtsReapply 1 remote).2 "db:n").length = 2)) =
          some true := by
    decide +kernel
  rw [hread] at hrun
  exact ⟨districts_mapped, emptyServer_read, remote, hread,
    of_decide_eq_true (Option.some_inj.mp hrun)⟩

end Districts
end LiveCollibraAdapter
end CollibraGovernance.Collibra
