import CollibraGovernance.Collibra.PlanSpec
import CollibraGovernance.Plans.RemoteIdentity
import Mathlib.Data.List.Count

/-! Remote objects against a plan: each is accounted for once, in whatever order a server lists
them, exactly when the identifiers keep the objects apart. -/
namespace CollibraGovernance.Plans
open Library Collibra Identity

/-- Plan entries about one remote asset. -/
def remoteAssetEntries (plan : SyncPlan) (remoteId : String) : Nat :=
  plan.actions.countP (fun a => a.objectKind = .asset ∧ a.remoteId = some remoteId)

/-- Plan entries about one remote relationship. -/
def remoteRelationshipEntries (plan : SyncPlan) (remoteId : String) : Nat :=
  plan.actions.countP (fun a => a.objectKind = .relationship ∧ a.remoteId = some remoteId)

/-- The state a server's listing gives when the same objects come in another order. -/
def relisted (remote : CollibraRemoteState) (assets : List CollibraRemoteAsset)
    (relationships : List CollibraRemoteRelationship) : CollibraRemoteState :=
  CollibraRemoteState.create assets relationships remote.unmanagedAssetsIgnored
    remote.unmanagedRelationshipsIgnored

/-- Each remote object has exactly one plan entry, and neither the entries nor the state's identity
depend on the listing order. -/
structure AccountedOnce (desired : CollibraDesiredState) (remote : CollibraRemoteState) : Prop where
  asset_once : ∀ a ∈ remote.assets,
    remoteAssetEntries (buildSyncPlan desired remote) a.remoteId = 1
  relationship_once : ∀ r ∈ remote.relationships,
    remoteRelationshipEntries (buildSyncPlan desired remote) r.remoteId = 1
  actions_unordered : ∀ assets relationships, assets.Perm remote.assets →
    relationships.Perm remote.relationships →
    (buildSyncPlan desired (relisted remote assets relationships)).actions.Perm
      (buildSyncPlan desired remote).actions
  identity_unordered : ∀ assets relationships, assets.Perm remote.assets →
    relationships.Perm remote.relationships → ∀ sha256,
    remoteStateIdentity sha256
        (remoteStateIdentityProjection (relisted remote assets relationships)) =
      remoteStateIdentity sha256 (remoteStateIdentityProjection remote)

section Erasure

def eraseAttributeId (attr : CollibraRemoteAttribute) : CollibraRemoteAttribute :=
  { attr with remoteAttributeId := none }

/-- The asset without its attributes' remote ids, which neither the planner nor the identity reads. -/
def eraseAttributeIds (asset : CollibraRemoteAsset) : CollibraRemoteAsset :=
  { asset with
    managedAttributes := asset.managedAttributes.map eraseAttributeId
    attributes_sorted := (SortedBy.map (fun _ => rfl)).mpr asset.attributes_sorted }

/-- The whole state without attribute ids. -/
def eraseState (remote : CollibraRemoteState) : CollibraRemoteState :=
  { remote with
    assets := remote.assets.map eraseAttributeIds
    assets_sorted := (SortedBy.map (fun _ => rfl)).mpr remote.assets_sorted }

lemma attributeProjection_inj {a b : CollibraRemoteAttribute} :
    attributeProjection a = attributeProjection b ↔ eraseAttributeId a = eraseAttributeId b := by
  simp [attributeProjection, eraseAttributeId]

/-- Mapped lists agree under one function as soon as they agree under one that tells no more. -/
lemma map_eq_of_map_eq {α β γ : Type*} {f : α → β} {g : α → γ} (h : ∀ a b, f a = f b → g a = g b)
    {xs ys : List α} (hf : xs.map f = ys.map f) : xs.map g = ys.map g := by
  induction xs generalizing ys with
  | nil =>
    cases ys with
    | nil => rfl
    | cons y ys => cases hf
  | cons x xs ih =>
    cases ys with
    | nil => cases hf
    | cons y ys =>
      simp only [List.map_cons, List.cons.injEq] at hf ⊢
      exact ⟨h x y hf.1, ih hf.2⟩

/-- The projection of an asset tells everything but the attribute ids. -/
theorem assetProjection_inj {a b : CollibraRemoteAsset} :
    assetProjection a = assetProjection b ↔ eraseAttributeIds a = eraseAttributeIds b := by
  constructor
  · intro h
    simp only [assetProjection, Json.obj.injEq, List.cons.injEq, Prod.mk.injEq, Json.str.injEq,
      optStr_inj, Json.arr.injEq, true_and, and_true] at h
    obtain ⟨htype, hdisplay, hdomain, hlocal, hattrs, hname, hid⟩ := h
    have herase := map_eq_of_map_eq (fun _ _ => attributeProjection_inj.mp) hattrs
    simp only [eraseAttributeIds, CollibraRemoteAsset.mk.injEq]
    exact ⟨hid, hlocal, hname, htype, hdomain, hdisplay, herase⟩
  · intro h
    simp only [eraseAttributeIds, CollibraRemoteAsset.mk.injEq] at h
    obtain ⟨hid, hlocal, hname, htype, hdomain, hdisplay, hattrs⟩ := h
    have hproj := map_eq_of_map_eq (fun _ _ => attributeProjection_inj.mpr) hattrs
    simp only [assetProjection, hid, hlocal, hname, htype, hdomain, hdisplay, hproj]

theorem relationshipProjection_inj {r s : CollibraRemoteRelationship} :
    relationshipProjection r = relationshipProjection s ↔ r = s := by
  obtain ⟨r1, r2, r3, r4, r5, r6, r7⟩ := r
  obtain ⟨s1, s2, s3, s4, s5, s6, s7⟩ := s
  simp only [relationshipProjection, Json.obj.injEq, List.cons.injEq, Prod.mk.injEq,
    Json.str.injEq, optStr_inj, true_and, and_true, CollibraRemoteRelationship.mk.injEq]
  tauto

lemma assetProjection_erase (a : CollibraRemoteAsset) :
    assetProjection (eraseAttributeIds a) = assetProjection a :=
  assetProjection_inj.mpr (by simp [eraseAttributeIds, eraseAttributeId, Function.comp_def])

lemma remoteAttributeMap_erase (attrs : List CollibraRemoteAttribute) :
    remoteAttributeMap (attrs.map eraseAttributeId) = remoteAttributeMap attrs := by
  unfold remoteAttributeMap
  rw [Dict.index_map]
  rfl

lemma assetChangedFields_erase (asset : CollibraAssetSpec) (remote : CollibraRemoteAsset) :
    assetChangedFields asset (eraseAttributeIds remote) = assetChangedFields asset remote := by
  have hmap : remoteAttributeMap (eraseAttributeIds remote).managedAttributes =
      remoteAttributeMap remote.managedAttributes := remoteAttributeMap_erase _
  unfold assetChangedFields
  rw [hmap]
  rfl

lemma remoteAssetIndex_erase (remote : CollibraRemoteState) :
    remoteAssetIndex (eraseState remote) = (remoteAssetIndex remote).mapValues eraseAttributeIds := by
  unfold remoteAssetIndex eraseState
  rw [Dict.index_map, ← Dict.index_mapValues]
  rfl

/-- The planner does not read attribute ids. -/
theorem buildSyncPlan_erase (desired : CollibraDesiredState) (remote : CollibraRemoteState) :
    buildSyncPlan desired (eraseState remote) = buildSyncPlan desired remote := by
  have haction : desiredAssetAction (remoteAssetIndex (eraseState remote)) =
      desiredAssetAction (remoteAssetIndex remote) := by
    funext e
    unfold desiredAssetAction
    rw [remoteAssetIndex_erase, Dict.get?_mapValues]
    cases (remoteAssetIndex remote).get? e.1 with
    | none => rfl
    | some r =>
      simp only [Option.map_some, assetChangedFields_erase]
      split <;> rfl
  have hrest : ((remoteAssetIndex (eraseState remote)).entries.filter
        (fun e => !(desiredAssetIndex desired).contains e.1)).map
        (fun e => SyncAction.remoteOnlyAsset e.1 e.2) =
      ((remoteAssetIndex remote).entries.filter
        (fun e => !(desiredAssetIndex desired).contains e.1)).map
        (fun e => SyncAction.remoteOnlyAsset e.1 e.2) := by
    rw [remoteAssetIndex_erase]
    unfold Dict.mapValues
    rw [List.filter_map, List.map_map]
    rfl
  unfold buildSyncPlan plannedActions
  rw [haction, hrest]
  rfl

/-- The identity does not read attribute ids. -/
theorem projection_erase (remote : CollibraRemoteState) :
    remoteStateIdentityProjection (eraseState remote) = remoteStateIdentityProjection remote := by
  have hassets : (sortBy CollibraRemoteAsset.localId (eraseState remote).assets).map
      assetProjection = (sortBy CollibraRemoteAsset.localId remote.assets).map assetProjection := by
    simp only [eraseState]
    rw [← map_sortBy eraseAttributeIds CollibraRemoteAsset.localId CollibraRemoteAsset.localId
      (fun _ => rfl), List.map_map]
    exact List.map_congr_left (fun a _ => assetProjection_erase a)
  unfold remoteStateIdentityProjection
  rw [hassets]
  rfl

end Erasure

section Projection

lemma normalize_attributeProjection (attr : CollibraRemoteAttribute) :
    (attributeProjection attr).normalize = attributeProjection attr := by
  have hkeys : SortedBy id ["attribute_type_ref", "value"] := by decide
  unfold attributeProjection
  rw [Json.normalize_obj_of_sorted]
  swap
  · exact hkeys
  rfl

lemma normalize_assetProjection (asset : CollibraRemoteAsset) :
    (assetProjection asset).normalize = assetProjection asset := by
  have hkeys : SortedBy id ["asset_type_ref", "display_name", "domain_ref",
    "local_id", "managed_attributes", "name", "remote_id"] := by decide
  unfold assetProjection
  rw [Json.normalize_obj_of_sorted]
  swap
  · exact hkeys
  simp only [List.map_cons, List.map_nil, Json.normalize_arr, List.map_map, normalize_optStr]
  have hattrs : asset.managedAttributes.map (Json.normalize ∘ attributeProjection) =
      asset.managedAttributes.map attributeProjection :=
    List.map_congr_left (fun t _ => normalize_attributeProjection t)
  rw [hattrs]
  rfl

lemma normalize_relationshipProjection (rel : CollibraRemoteRelationship) :
    (relationshipProjection rel).normalize = relationshipProjection rel := by
  have hkeys : SortedBy id ["local_key", "relation_type_ref", "remote_id",
    "source_local_id", "source_remote_id", "target_local_id", "target_remote_id"] := by decide
  unfold relationshipProjection
  rw [Json.normalize_obj_of_sorted]
  swap
  · exact hkeys
  simp only [List.map_cons, List.map_nil, normalize_optStr]
  rfl

/-- The projection is already in canonical order. -/
theorem normalize_projection (remote : CollibraRemoteState) :
    (remoteStateIdentityProjection remote).normalize = remoteStateIdentityProjection remote := by
  have hkeys : SortedBy id ["assets", "relationships"] := by decide
  unfold remoteStateIdentityProjection
  rw [Json.normalize_obj_of_sorted]
  swap
  · exact hkeys
  simp only [List.map_cons, List.map_nil, Json.normalize_arr, List.map_map]
  have hassets : ∀ assets : List CollibraRemoteAsset,
      assets.map (Json.normalize ∘ assetProjection) = assets.map assetProjection :=
    fun _ => List.map_congr_left (fun a _ => normalize_assetProjection a)
  have hrels : ∀ rels : List CollibraRemoteRelationship,
      rels.map (Json.normalize ∘ relationshipProjection) = rels.map relationshipProjection :=
    fun _ => List.map_congr_left (fun r _ => normalize_relationshipProjection r)
  rw [hassets, hrels]

/-- Identities that agree under every digest hash the same projection. -/
theorem projection_eq_of_identity {remote remote' : CollibraRemoteState}
    (h : ∀ sha256, remoteStateIdentity sha256 (remoteStateIdentityProjection remote) =
      remoteStateIdentity sha256 (remoteStateIdentityProjection remote')) :
    remoteStateIdentityProjection remote = remoteStateIdentityProjection remote' := by
  have hnorm := normalize_eq_of_identity (fun heq => heq) (h id)
  rwa [normalize_projection, normalize_projection] at hnorm

end Projection

/-- The relationship the planner keeps for its triple: the last one in the state's order. -/
def Latest (remote : CollibraRemoteState) (w : CollibraRemoteRelationship) : Prop :=
  w ∈ remote.relationships ∧ ∀ v ∈ remote.relationships, remoteKey v = remoteKey w →
    remoteRelationshipSortKey v ≤ remoteRelationshipSortKey w

/-- The identifiers keep remote objects apart: assets that share a local or a remote id agree,
relationships that sort equal are equal, and every relationship id belongs to the latest
relationship of exactly one triple. -/
structure IdentifiersSeparated (remote : CollibraRemoteState) : Prop where
  assets : ∀ a ∈ remote.assets, ∀ b ∈ remote.assets,
    a.localId = b.localId ∨ a.remoteId = b.remoteId → eraseAttributeIds a = eraseAttributeIds b
  ties : ∀ r ∈ remote.relationships, ∀ s ∈ remote.relationships,
    remoteRelationshipSortKey r = remoteRelationshipSortKey s → r = s
  latest : ∀ r ∈ remote.relationships, ∃! w, Latest remote w ∧ w.remoteId = r.remoteId

section Coverage
variable (desired : CollibraDesiredState) {remote : CollibraRemoteState}

lemma mem_remoteAssetIndex {e : String × CollibraRemoteAsset}
    (h : e ∈ (remoteAssetIndex remote).entries) : e.2.localId = e.1 ∧ e.2 ∈ remote.assets := by
  obtain ⟨a, ha, hk, rfl⟩ := Dict.exists_of_mem_index h
  exact ⟨hk, ha⟩

/-- A remote asset id has one plan entry exactly when one indexed asset carries it. -/
theorem remoteAssetEntries_eq_one_iff (remoteId : String) :
    remoteAssetEntries (buildSyncPlan desired remote) remoteId = 1 ↔
      ∃! e, e ∈ (remoteAssetIndex remote).entries ∧ e.2.remoteId = remoteId := by
  have hcount := countP_asset desired remote (fun x => x.remoteId = some remoteId)
  have hmap : (assetActions desired remote).countP (fun x => x.remoteId = some remoteId) =
      (remoteAssetIndex remote).entries.countP (fun e => e.2.remoteId = remoteId) := by
    have hids := (assetActions_remoteIds desired remote).count_eq remoteId
    rw [List.count_filterMap, Dict.values, List.map_map, List.count_eq_countP,
      List.countP_map] at hids
    refine Eq.trans (List.countP_congr ?_) (hids.trans (List.countP_congr ?_)) <;> simp
  simp only [decide_eq_true_eq] at hcount
  unfold remoteAssetEntries
  rw [hcount, hmap, countP_eq_one_iff (Dict.entries_nodup _)]
  simp only [decide_eq_true_eq]

lemma mem_remoteRelationshipIndex {e : (String × String × String) × CollibraRemoteRelationship} :
    e ∈ (remoteRelationshipIndex remote).entries ↔
      (remote.relationships.filter (fun r => remoteKey r = e.1)).getLast? = some e.2 := by
  obtain ⟨k, w⟩ := e
  rw [← Dict.get?_eq_some, remoteRelationshipIndex, Dict.get?_index]
  simp

/-- Without ties the index keeps the latest relationship of each triple. -/
theorem mem_remoteRelationshipIndex_iff
    (hties : ∀ r ∈ remote.relationships, ∀ s ∈ remote.relationships,
      remoteRelationshipSortKey r = remoteRelationshipSortKey s → r = s)
    {e : (String × String × String) × CollibraRemoteRelationship} :
    e ∈ (remoteRelationshipIndex remote).entries ↔ Latest remote e.2 ∧ remoteKey e.2 = e.1 := by
  obtain ⟨k, w⟩ := e
  have hsorted := remote.relationships_sorted.filter (fun r => remoteKey r = k)
  rw [mem_remoteRelationshipIndex]
  simp only
  constructor
  · intro h
    obtain ⟨hw, hk⟩ := List.mem_filter.mp (List.mem_of_getLast? h)
    have hk : remoteKey w = k := by simpa using hk
    refine ⟨⟨hw, fun v hv hvk => ?_⟩, hk⟩
    exact hsorted.le_getLast h v (List.mem_filter.mpr ⟨hv, by simp [hvk, hk]⟩)
  · rintro ⟨⟨hw, hmax⟩, rfl⟩
    have hmem : w ∈ remote.relationships.filter (fun r => remoteKey r = remoteKey w) :=
      List.mem_filter.mpr ⟨hw, by simp⟩
    have hne := List.ne_nil_of_mem hmem
    rw [List.getLast?_eq_some_getLast hne, Option.some_inj]
    have hlast := List.mem_filter.mp (List.getLast_mem hne)
    refine hties _ hlast.1 _ hw (le_antisymm (hmax _ hlast.1 (by simpa using hlast.2)) ?_)
    exact hsorted.le_getLast (List.getLast?_eq_some_getLast hne) w hmem

/-- A remote relationship id has one plan entry exactly when one latest relationship carries it. -/
theorem remoteRelationshipEntries_eq_one_iff
    (hties : ∀ r ∈ remote.relationships, ∀ s ∈ remote.relationships,
      remoteRelationshipSortKey r = remoteRelationshipSortKey s → r = s) (remoteId : String) :
    remoteRelationshipEntries (buildSyncPlan desired remote) remoteId = 1 ↔
      ∃! w, Latest remote w ∧ w.remoteId = remoteId := by
  have hcount := countP_relationship desired remote (fun x => x.remoteId = some remoteId)
  have hmap : (relationshipActions desired remote).countP (fun x => x.remoteId = some remoteId) =
      (remoteRelationshipIndex remote).entries.countP (fun e => e.2.remoteId = remoteId) := by
    have hids := (relationshipActions_remoteIds desired remote).count_eq remoteId
    rw [List.count_filterMap, Dict.values, List.map_map, List.count_eq_countP,
      List.countP_map] at hids
    refine Eq.trans (List.countP_congr ?_) (hids.trans (List.countP_congr ?_)) <;> simp
  simp only [decide_eq_true_eq] at hcount
  unfold remoteRelationshipEntries
  rw [hcount, hmap, countP_eq_one_iff (Dict.entries_nodup _)]
  simp only [decide_eq_true_eq, mem_remoteRelationshipIndex_iff hties]
  constructor
  · rintro ⟨e, ⟨⟨hl, hk⟩, hid⟩, huniq⟩
    refine ⟨e.2, ⟨hl, hid⟩, fun w hw => ?_⟩
    exact congrArg Prod.snd (huniq (remoteKey w, w) ⟨⟨hw.1, rfl⟩, hw.2⟩)
  · rintro ⟨w, ⟨hl, hid⟩, huniq⟩
    refine ⟨(remoteKey w, w), ⟨⟨hl, rfl⟩, hid⟩, fun e he => ?_⟩
    have hw := huniq e.2 ⟨he.1.1, he.2⟩
    exact Prod.ext (by rw [← he.1.2, hw]) hw

end Coverage

section Order
variable {desired : CollibraDesiredState} {remote : CollibraRemoteState}

/-- Separated objects give one state in whatever order they are listed. -/
theorem eraseState_relisted (h : IdentifiersSeparated remote)
    {assets : List CollibraRemoteAsset} {relationships : List CollibraRemoteRelationship}
    (hassets : assets.Perm remote.assets) (hrels : relationships.Perm remote.relationships) :
    eraseState (relisted remote assets relationships) = eraseState remote := by
  have hsort : ∀ xs : List CollibraRemoteAsset, (sortBy CollibraRemoteAsset.localId xs).map
      eraseAttributeIds = sortBy CollibraRemoteAsset.localId (xs.map eraseAttributeIds) :=
    map_sortBy eraseAttributeIds _ _ (fun _ => rfl)
  have hlisted : (sortBy CollibraRemoteAsset.localId assets).map eraseAttributeIds =
      remote.assets.map eraseAttributeIds := by
    rw [← sortBy_eq_self remote.assets_sorted, hsort, hsort]
    refine sortBy_congr_perm (hassets.map _) ?_
    intro x hx y hy hxy
    obtain ⟨a, ha, rfl⟩ := List.mem_map.mp hx
    obtain ⟨b, hb, rfl⟩ := List.mem_map.mp hy
    exact h.assets a (hassets.mem_iff.mp ha) b (hassets.mem_iff.mp hb) (.inl hxy)
  have hrelisted : sortBy remoteRelationshipSortKey relationships = remote.relationships := by
    rw [← sortBy_eq_self remote.relationships_sorted]
    refine sortBy_congr_perm hrels ?_
    intro r hr s hs
    exact h.ties r (hrels.mem_iff.mp hr) s (hrels.mem_iff.mp hs)
  simp only [eraseState, relisted, CollibraRemoteState.create, hlisted, hrelisted]

lemma perm_cons_cons {α : Type*} [DecidableEq α] {xs : List α} {a b : α} (ha : a ∈ xs)
    (hb : b ∈ xs) (hab : a ≠ b) : ∃ rest, (a :: b :: rest).Perm xs := by
  have hb' : b ∈ xs.erase a := (List.mem_erase_of_ne (Ne.symm hab)).mpr hb
  exact ⟨(xs.erase a).erase b,
    ((List.perm_cons_erase hb').symm.cons a).trans (List.perm_cons_erase ha).symm⟩

/-- An order-free identity cannot tell assets with one local id apart. -/
lemma AccountedOnce.asset_local (h : AccountedOnce desired remote) {a b : CollibraRemoteAsset}
    (ha : a ∈ remote.assets) (hb : b ∈ remote.assets) (hab : a.localId = b.localId) :
    eraseAttributeIds a = eraseAttributeIds b := by
  by_cases hne : a = b
  · rw [hne]
  · obtain ⟨rest, hperm⟩ := perm_cons_cons ha hb hne
    have hfirst := projection_eq_of_identity (h.identity_unordered _ _ hperm (List.Perm.refl _))
    have hsecond := projection_eq_of_identity (h.identity_unordered _ _
      ((List.Perm.swap a b rest).trans hperm) (List.Perm.refl _))
    have heq := hfirst.trans hsecond.symm
    simp only [remoteStateIdentityProjection, relisted, CollibraRemoteState.create, sortBy_idem,
      Json.obj.injEq, List.cons.injEq, Prod.mk.injEq, Json.arr.injEq, true_and, and_true] at heq
    have hlists := map_eq_of_map_eq (fun _ _ => assetProjection_inj.mp) heq
    have hview : ∀ x, (eraseAttributeIds x).localId = x.localId := fun _ => rfl
    exact eq_of_swap hview hab hlists

/-- An order-free identity cannot tell tied relationships apart. -/
lemma AccountedOnce.ties (h : AccountedOnce desired remote) {r s : CollibraRemoteRelationship}
    (hr : r ∈ remote.relationships) (hs : s ∈ remote.relationships)
    (hrs : remoteRelationshipSortKey r = remoteRelationshipSortKey s) : r = s := by
  by_contra hne
  obtain ⟨rest, hperm⟩ := perm_cons_cons hr hs hne
  have hfirst := projection_eq_of_identity (h.identity_unordered _ _ (List.Perm.refl _) hperm)
  have hsecond := projection_eq_of_identity (h.identity_unordered _ _ (List.Perm.refl _)
    ((List.Perm.swap r s rest).trans hperm))
  have heq := hfirst.trans hsecond.symm
  simp only [remoteStateIdentityProjection, relisted, CollibraRemoteState.create, sortBy_idem,
    Json.obj.injEq, List.cons.injEq, Prod.mk.injEq, Json.arr.injEq, true_and, and_true] at heq
  have hsame : ∀ x y, relationshipProjection x = relationshipProjection y → id x = id y :=
    fun _ _ => relationshipProjection_inj.mp
  have hview : ∀ x, remoteRelationshipSortKey (id x) = remoteRelationshipSortKey x := fun _ => rfl
  exact hne (eq_of_swap hview hrs (map_eq_of_map_eq hsame heq))

end Order

section Main
variable {desired : CollibraDesiredState} {remote : CollibraRemoteState}

lemma AccountedOnce.separated (h : AccountedOnce desired remote) : IdentifiersSeparated remote := by
  have hties : ∀ r ∈ remote.relationships, ∀ s ∈ remote.relationships,
      remoteRelationshipSortKey r = remoteRelationshipSortKey s → r = s :=
    fun r hr s hs => h.ties hr hs
  refine ⟨?_, hties, fun r hr => ?_⟩
  · intro a ha b hb hab
    by_cases hlocal : a.localId = b.localId
    · exact h.asset_local ha hb hlocal
    · -- two indexed assets would carry the shared remote id
      have hremote := hab.resolve_left hlocal
      have hindexed : ∀ c ∈ remote.assets, ∃ e ∈ (remoteAssetIndex remote).entries,
          e.1 = c.localId ∧ e.2.remoteId = c.remoteId := by
        intro c hc
        have hkey : c.localId ∈ (remoteAssetIndex remote).keys :=
          Dict.mem_keys_index.mpr ⟨c, hc, rfl⟩
        obtain ⟨w, hw⟩ := Dict.mem_keys_iff.mp hkey
        have hentry := Dict.get?_eq_some.mp hw
        obtain ⟨hwl, hwm⟩ := mem_remoteAssetIndex hentry
        have hid := congrArg CollibraRemoteAsset.remoteId (h.asset_local hwm hc hwl)
        exact ⟨_, hentry, rfl, hid⟩
      obtain ⟨e, he, hek, heid⟩ := hindexed a ha
      obtain ⟨f, hf, hfk, hfid⟩ := hindexed b hb
      have honce := (remoteAssetEntries_eq_one_iff desired a.remoteId).mp (h.asset_once a ha)
      have hef := honce.unique ⟨he, heid⟩ ⟨hf, hfid.trans hremote.symm⟩
      exact absurd (hek.symm.trans (congrArg Prod.fst hef |>.trans hfk)) hlocal
  · exact (remoteRelationshipEntries_eq_one_iff desired hties r.remoteId).mp
      (h.relationship_once r hr)

lemma IdentifiersSeparated.accounted (h : IdentifiersSeparated remote) :
    AccountedOnce desired remote := by
  refine ⟨fun a ha => ?_, fun r hr => ?_, fun assets rels hassets hrels => ?_,
    fun assets rels hassets hrels sha256 => ?_⟩
  · rw [remoteAssetEntries_eq_one_iff]
    have hmem : a.localId ∈ (remoteAssetIndex remote).keys :=
      Dict.mem_keys_index.mpr ⟨a, ha, rfl⟩
    obtain ⟨w, hw⟩ := Dict.mem_keys_iff.mp hmem
    have hentry := Dict.get?_eq_some.mp hw
    obtain ⟨hwl, hwm⟩ := mem_remoteAssetIndex hentry
    have hwa := congrArg CollibraRemoteAsset.remoteId (h.assets w hwm a ha (.inl hwl))
    refine ⟨_, ⟨hentry, hwa⟩, fun e he => ?_⟩
    obtain ⟨hel, hem⟩ := mem_remoteAssetIndex he.1
    have hea := congrArg CollibraRemoteAsset.localId (h.assets e.2 hem a ha (.inr he.2))
    have hkey : e.1 = a.localId := hel.symm.trans hea
    have hget := Dict.get?_eq_some.mpr he.1
    rw [hkey, hw] at hget
    exact Prod.ext hkey (Option.some_inj.mp hget).symm
  · exact (remoteRelationshipEntries_eq_one_iff desired h.ties r.remoteId).mpr (h.latest r hr)
  · rw [← buildSyncPlan_erase, eraseState_relisted h hassets hrels, buildSyncPlan_erase]
  · rw [← projection_erase, eraseState_relisted h hassets hrels, projection_erase]

/-- Every remote object is accounted for once and nothing depends on the listing order exactly when
the identifiers keep the remote objects apart. -/
theorem accounted_once_iff (desired : CollibraDesiredState) (remote : CollibraRemoteState) :
    AccountedOnce desired remote ↔ IdentifiersSeparated remote :=
  ⟨AccountedOnce.separated, IdentifiersSeparated.accounted⟩

/-- When remote ids identify relationships, separation leaves one relationship for each triple. -/
theorem separated_triples (h : IdentifiersSeparated remote)
    (hids : ∀ r ∈ remote.relationships, ∀ s ∈ remote.relationships,
      r.remoteId = s.remoteId → r = s)
    {r s : CollibraRemoteRelationship} (hr : r ∈ remote.relationships)
    (hs : s ∈ remote.relationships) (hrs : remoteKey r = remoteKey s) : r = s := by
  have hlatest : ∀ t ∈ remote.relationships, Latest remote t := by
    intro t ht
    obtain ⟨w, ⟨hw, hid⟩, -⟩ := h.latest t ht
    rw [← hids w hw.1 t ht hid]
    exact hw
  exact h.ties r hr s hs (le_antisymm ((hlatest s hs).2 r hr hrs) ((hlatest r hr).2 s hs hrs.symm))

end Main

section Duplicate

/-- One table as the server lists it under a remote id. -/
def listedTable (remoteId : String) (h : isBlank remoteId = false) : CollibraRemoteAsset :=
  ⟨remoteId, "tbl:a", "a", "T", "D", none, [], h, by decide, by decide, by decide, by decide,
    List.Pairwise.nil⟩

/-- Two remote assets that carry the same local id. -/
def duplicatedTable : CollibraRemoteState :=
  ⟨[listedTable "r-1" (by decide), listedTable "r-2" (by decide)], [], 0, 0, by decide,
    List.Pairwise.nil⟩

/-- The planner drops the first of two remote assets that share a local id. -/
theorem duplicated_table_unaccounted :
    ¬ AccountedOnce (CollibraDesiredState.create [] []) duplicatedTable := by
  intro h
  have hfirst : listedTable "r-1" (by decide) ∈ duplicatedTable.assets := by simp [duplicatedTable]
  have hsecond : listedTable "r-2" (by decide) ∈ duplicatedTable.assets := by simp [duplicatedTable]
  have hsame := h.asset_local hfirst hsecond (by simp [listedTable])
  simp [eraseAttributeIds, listedTable] at hsame

end Duplicate

end CollibraGovernance.Plans
