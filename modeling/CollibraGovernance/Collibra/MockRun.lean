import CollibraGovernance.Collibra.MappedModel
import CollibraGovernance.Collibra.MockSpec
import CollibraGovernance.Collibra.PlannedMutations

/-! The executor over the mock: what each pass does to the store and what holds between passes. -/
namespace CollibraGovernance.Collibra.MockCollibraAdapter
open Library Domain

section Identity
variable {config : CollibraMappingConfig} {uuid5 : String → BitVec 128}

/-- The last attribute of the identity type is the local id itself. -/
def CarriesIdentity (config : CollibraMappingConfig) (a : CollibraAssetSpec) : Prop :=
  (attributeMap a.attributes).get? config.attributeTypeRefs.localId = some a.localId

lemma managedLocalId_createdAsset {a : CollibraAssetSpec} (hmapped : MappedAsset config a)
    (hid : CarriesIdentity config a) (seq : Nat) :
    managedLocalId config (createdAsset uuid5 a seq) = some a.localId := by
  rw [managedLocalId_eq_some]
  refine ⟨hmapped.domain, hmapped.type, ?_, a.localId_nonblank⟩
  rw [createdAsset, valueAt_storeAttributes]
  exact hid

lemma valueAt_updatedAsset {a : CollibraAssetSpec} (hmapped : MappedAsset config a) {id : String}
    {pn pd : Bool} {stored : StoredAsset} {seq : Nat} (t : String) :
    valueAt (updatedAsset config id a pn pd stored seq).attributes t =
      ((attributeMap a.attributes).get? t).or (valueAt stored.attributes t) :=
  valueAt_merge id a.attributes hmapped.attributes _ t

lemma managedLocalId_updatedAsset {a : CollibraAssetSpec} (hmapped : MappedAsset config a)
    (hid : CarriesIdentity config a) {id : String} {pn pd : Bool} {stored : StoredAsset} {seq : Nat}
    (hstored : managedLocalId config stored = some a.localId) :
    managedLocalId config (updatedAsset config id a pn pd stored seq) = some a.localId := by
  rw [managedLocalId_eq_some] at hstored ⊢
  refine ⟨hstored.1, hstored.2.1, ?_, a.localId_nonblank⟩
  rw [valueAt_updatedAsset hmapped, hid]
  rfl

end Identity

section Effects
variable {config : CollibraMappingConfig} {uuid5 : String → BitVec 128}
variable {desired : CollibraDesiredState} {remote : CollibraRemoteState} {s₀ : MockStore}

lemma remoteToLocal_of_holder {s : MockStore} {l id : String} (h : holder config s l = some id) :
    remoteToLocal config s id = some l := by
  obtain ⟨e, he, rfl⟩ := Option.map_eq_some_iff.mp h
  obtain ⟨hmem, hl⟩ := List.mem_filter.mp (List.mem_of_getLast? he)
  exact remoteToLocal_eq_some.mpr ⟨e.2, Dict.get?_eq_some.mpr hmem, by simpa using hl⟩

lemma holder_of_remoteToLocal {s : MockStore} {l id : String}
    (h : remoteToLocal config s id = some l) : ∃ id', holder config s l = some id' := by
  obtain ⟨asset, hget, hl⟩ := remoteToLocal_eq_some.mp h
  have hmem : (id, asset) ∈ s.assets.entries.filter (fun e => managedLocalId config e.2 = some l) :=
    List.mem_filter.mpr ⟨Dict.get?_eq_some.mp hget, by simpa using hl⟩
  rw [holder, List.getLast?_eq_some_getLast (List.ne_nil_of_mem hmem)]
  exact ⟨_, rfl⟩

lemma remoteAssetIndex_source {l : String} {r : CollibraRemoteAsset}
    (h : (remoteAssetIndex remote).get? l = some r) : r ∈ remote.assets ∧ r.localId = l := by
  obtain ⟨x, hx, hk, hv⟩ := Dict.exists_of_mem_index (Dict.get?_eq_some.mp h)
  cases hv
  exact ⟨hx, hk⟩

/-- What one pass does to the store, in terms of the ids a read recognises. -/
inductive Effect (config : CollibraMappingConfig) (uuid5 : String → BitVec 128)
    (desired : CollibraDesiredState) (remote : CollibraRemoteState) (x : SyncAction)
    (m m' : Dict String String) (s s' : MockStore) : Prop
  | create (a : CollibraAssetSpec) (request : x.request = some (.createAsset a))
    (desired : a ∈ desired.assets) (unmatched : Unmatched remote a)
    (fresh : s.assets.get? (mockRemoteId uuid5 a.localId) = none)
    (assets : s'.assets = s.assets.set (mockRemoteId uuid5 a.localId)
      (createdAsset uuid5 a s.attrSeq))
    (ids : ∀ id, remoteToLocal config s' id =
      if id = mockRemoteId uuid5 a.localId then some a.localId else remoteToLocal config s id)
    (holders : ∀ l, holder config s' l =
      if l = a.localId then some (mockRemoteId uuid5 a.localId) else holder config s l)
    (relationships : s'.relationships = s.relationships) (relSeq : s'.relSeq = s.relSeq)
    (known : m' = m.set a.localId (mockRemoteId uuid5 a.localId))
  | update (a : CollibraAssetSpec) (r : CollibraRemoteAsset) (stored : StoredAsset)
    (request : x.request = some (.updateAsset r.remoteId a (a.name ≠ r.name)
      (orNone a.displayName ≠ orNone r.displayName)))
    (desired : a ∈ desired.assets) (matched : (remoteAssetIndex remote).get? a.localId = some r)
    (target : s.assets.get? r.remoteId = some stored)
    (managed : managedLocalId config stored = some a.localId)
    (assets : s'.assets = s.assets.set r.remoteId (updatedAsset config r.remoteId a
      (a.name ≠ r.name) (orNone a.displayName ≠ orNone r.displayName) stored s.attrSeq))
    (ids : ∀ id, remoteToLocal config s' id = remoteToLocal config s id)
    (holders : ∀ l, holder config s' l = holder config s l)
    (relationships : s'.relationships = s.relationships) (relSeq : s'.relSeq = s.relSeq)
    (known : m' = m.set a.localId r.remoteId)
  | link (rel : CollibraRelationshipSpec) (source target : String)
    (request : x.request = some (.createRelationship rel)) (desired : rel ∈ desired.relationships)
    (missing : Missing remote rel) (source_known : m.get? rel.sourceLocalId = some source)
    (target_known : m.get? rel.targetLocalId = some target) (assets : s'.assets = s.assets)
    (relationships : s'.relationships = s.relationships.set (relId s.relSeq)
      ⟨source, target, rel.relationTypeRef, some rel.localKey⟩)
    (relSeq : s'.relSeq = s.relSeq + 1) (known : m' = m)

/-- What holds between two passes of the executor over the mock. -/
structure Between (config : CollibraMappingConfig) (uuid5 : String → BitVec 128)
    (desired : CollibraDesiredState) (remote : CollibraRemoteState) (s₀ : MockStore)
    (m : Dict String String) (rest : List SyncAction) (s : MockStore) : Prop where
  planned : ∀ x ∈ rest, ∃ q, x.request = some q ∧ Planned desired remote q
  kept : ∀ id l, remoteToLocal config s₀ id = some l → remoteToLocal config s id = some l
  origin : ∀ id l, remoteToLocal config s id = some l → remoteToLocal config s₀ id = some l ∨
    ∃ a ∈ desired.assets, Unmatched remote a ∧ id = mockRemoteId uuid5 a.localId ∧ l = a.localId
  holders : ∀ l, (∀ a ∈ desired.assets, Unmatched remote a → a.localId ≠ l) →
    holder config s l = holder config s₀ l
  known : ∀ l id, m.get? l = some id → remoteToLocal config s id = some l
  named : ∀ id asset l, s.assets.get? id = some asset → managedLocalId config asset = some l →
    isBlank id = false ∧ isBlank asset.name = false
  types : ∀ id t, (∃ asset, s₀.assets.get? id = some asset ∧ valueAt asset.attributes t ≠ none) →
    ∃ asset, s.assets.get? id = some asset ∧ valueAt asset.attributes t ≠ none
  created : ∀ a ∈ desired.assets, Unmatched remote a →
    (∃ x ∈ rest, x.request = some (.createAsset a)) ∨
      remoteToLocal config s (mockRemoteId uuid5 a.localId) = some a.localId
  failNext : s.failNext = s₀.failNext

end Effects

section Steps
variable {config : CollibraMappingConfig} {uuid5 : String → BitVec 128}
variable {desired : CollibraDesiredState} {remote : CollibraRemoteState}

lemma ids_created {a : CollibraAssetSpec} {s s' : MockStore} {id : String} {asset : StoredAsset}
    (hmanaged : managedLocalId config asset = some a.localId)
    (hassets : s'.assets = s.assets.set id asset) (id' : String) :
    remoteToLocal config s' id' = if id' = id then some a.localId else remoteToLocal config s id' := by
  unfold remoteToLocal
  rw [hassets, Dict.get?_set]
  split_ifs
  · exact hmanaged
  · rfl

lemma holder_created {a : CollibraAssetSpec} {s s' : MockStore} {id : String} {asset : StoredAsset}
    (hmanaged : managedLocalId config asset = some a.localId) (hfresh : s.assets.get? id = none)
    (hassets : s'.assets = s.assets.set id asset) (l : String) :
    holder config s' l = if l = a.localId then some id else holder config s l := by
  unfold holder
  rw [hassets, Dict.entries_set_of_notMem _ (Dict.get?_eq_none.mp hfresh), List.filter_append]
  by_cases hl : l = a.localId
  · simp [hmanaged, hl]
  · simp [hmanaged, hl, Ne.symm hl]

lemma holder_updated {a : CollibraAssetSpec} {s s' : MockStore} {id : String}
    {stored asset : StoredAsset} (htarget : s.assets.get? id = some stored)
    (hstored : managedLocalId config stored = some a.localId)
    (hmanaged : managedLocalId config asset = some a.localId)
    (hassets : s'.assets = s.assets.set id asset) (l : String) :
    holder config s' l = holder config s l := by
  unfold holder
  rw [hassets, ← List.getLast?_map, ← List.getLast?_map,
    Dict.map_fst_filter_set htarget (by simp [hmanaged, hstored])]

variable {s₀ : MockStore} (hread : readStore config s₀ = .ok remote)
variable (hmapped : ∀ a ∈ desired.assets, MappedAsset config a)
variable (hident : ∀ a ∈ desired.assets, CarriesIdentity config a)
include hread hmapped hident

/-- Every pass that succeeds has one of the three effects. -/
theorem performAction_effect {m m' : Dict String String} {x : SyncAction} {rest : List SyncAction}
    {n : Nat} {s s' : MockStore} (h : Between config uuid5 desired remote s₀ m (x :: rest) s)
    (hx : performAction (adapter config uuid5) m x s = (.ok (m', n), s')) :
    Effect config uuid5 desired remote x m m' s s' ∧ s'.failNext = s.failNext := by
  obtain ⟨q, hq, hplanned⟩ := h.planned x (List.mem_cons_self ..)
  rcases performAction_cases hx with ⟨asset, id, hreq, hcall, rfl⟩ |
    ⟨id, asset, pn, pd, hreq, hcall, rfl⟩ | ⟨rel, source, target, id, hreq, hs, ht, hcall, rfl⟩ |
    ⟨hreq, -, -⟩
  · rw [hq, Option.some_inj] at hreq
    subst hreq
    cases hplanned with
    | create ha hnew =>
      obtain ⟨rfl, hfresh, hassets, hrels, hseq, hfail⟩ := createAsset_ok hcall
      have hmanaged : managedLocalId config (createdAsset uuid5 asset s.attrSeq) =
          some asset.localId :=
        managedLocalId_createdAsset (hmapped asset ha) (hident asset ha) s.attrSeq
      exact ⟨.create asset hq ha hnew hfresh hassets (ids_created hmanaged hassets)
        (holder_created hmanaged hfresh hassets) hrels hseq rfl, hfail⟩
  · rw [hq, Option.some_inj] at hreq
    subst hreq
    cases hplanned with
    | @update _ r ha hr hdiff =>
      obtain ⟨stored, htarget, hassets, hrels, hseq, hfail⟩ := updateAsset_ok hcall
      have hstored : managedLocalId config stored = some asset.localId := by
        obtain ⟨hmem, hlocal⟩ := remoteAssetIndex_source hr
        obtain ⟨asset₀, hget₀, hreads⟩ := readStore_asset hread hmem
        have hkept := h.kept r.remoteId r.localId
          (remoteToLocal_eq_some.mpr ⟨asset₀, hget₀, hreads.managed⟩)
        rw [remoteToLocal, htarget, hlocal] at hkept
        exact hkept
      have hmanaged : managedLocalId config (updatedAsset config r.remoteId asset
          (asset.name ≠ r.name) (orNone asset.displayName ≠ orNone r.displayName) stored s.attrSeq) =
            some asset.localId :=
        managedLocalId_updatedAsset (hmapped asset ha) (hident asset ha) hstored
      refine ⟨.update asset r stored hq ha hr htarget hstored hassets ?_
        (holder_updated htarget hstored hmanaged hassets) hrels hseq rfl, hfail⟩
      intro id'
      rw [ids_created hmanaged hassets]
      split_ifs with hid
      · rw [hid, remoteToLocal, htarget]
        exact hstored.symm
      · rfl
  · rw [hq, Option.some_inj] at hreq
    subst hreq
    cases hplanned with
    | link hrel hnew =>
      obtain ⟨hrels, hassets, hseq, hfail⟩ := createRelationship_ok hcall
      exact ⟨.link rel source target hq hrel hnew hs ht hassets hrels hseq rfl, hfail⟩
  · rw [hq] at hreq
    cases hreq

omit hmapped hident in
/-- The ids the planner matched are the ids a read recognises. -/
lemma remoteToLocal_matched {l : String} {r : CollibraRemoteAsset}
    (hr : (remoteAssetIndex remote).get? l = some r) :
    remoteToLocal config s₀ r.remoteId = some l := by
  obtain ⟨hmem, rfl⟩ := remoteAssetIndex_source hr
  obtain ⟨asset₀, hget₀, hreads⟩ := readStore_asset hread hmem
  exact remoteToLocal_eq_some.mpr ⟨asset₀, hget₀, hreads.managed⟩

omit hmapped hident in
theorem between_start (hids : (desired.assets.map CollibraAssetSpec.localId).Nodup) :
    Between config uuid5 desired remote s₀
      (seedRemoteIdsFromPlan (buildSyncPlan desired remote)) (plannedMutations desired remote) s₀ where
  planned _ hx := plannedMutations_planned hx
  kept _ _ h := h
  origin _ _ h := .inl h
  holders _ _ := rfl
  known l id h := by
    obtain ⟨r, hr, rfl⟩ := seed_remote h
    exact remoteToLocal_matched hread hr
  named _ _ _ hget hl := readStore_managed hread hget hl
  types _ _ h := h
  created _ ha hnew := .inl (exists_create hids ha hnew)
  failNext := rfl

omit hread hmapped hident in
lemma pending_tail {x : SyncAction} {rest : List SyncAction} {q : MutationRequest}
    (h : ∃ y ∈ x :: rest, y.request = some q) :
    x.request = some q ∨ ∃ y ∈ rest, y.request = some q := by
  obtain ⟨y, hy, hreq⟩ := h
  rcases List.mem_cons.mp hy with rfl | hy
  · exact .inl hreq
  · exact .inr ⟨y, hy, hreq⟩

omit hread hmapped hident in
/-- A pass that creates no asset keeps the ids, hence most of what holds between passes. -/
lemma Between.of_same_ids {m m' : Dict String String} {x : SyncAction} {rest : List SyncAction}
    {s s' : MockStore} (h : Between config uuid5 desired remote s₀ m (x :: rest) s)
    (hreq : ∀ a, x.request ≠ some (.createAsset a)) (hfail : s'.failNext = s.failNext)
    (hidsEq : ∀ id, remoteToLocal config s' id = remoteToLocal config s id)
    (hholders : ∀ l, holder config s' l = holder config s l)
    (hknown : ∀ l id, m'.get? l = some id → remoteToLocal config s id = some l)
    (hnamed : ∀ id asset l, s'.assets.get? id = some asset → managedLocalId config asset = some l →
      isBlank id = false ∧ isBlank asset.name = false)
    (htypes : ∀ id t, (∃ asset, s.assets.get? id = some asset ∧ valueAt asset.attributes t ≠ none) →
      ∃ asset, s'.assets.get? id = some asset ∧ valueAt asset.attributes t ≠ none) :
    Between config uuid5 desired remote s₀ m' rest s' where
  planned y hy := h.planned y (List.mem_cons_of_mem _ hy)
  kept id l hl := by
    rw [hidsEq]
    exact h.kept id l hl
  origin id l hl := by
    rw [hidsEq] at hl
    exact h.origin id l hl
  holders l hl := by
    rw [hholders]
    exact h.holders l hl
  known l id hget := by
    rw [hidsEq]
    exact hknown l id hget
  named := hnamed
  types id t ht := htypes id t (h.types id t ht)
  created b hb hbnew := by
    rw [hidsEq]
    rcases h.created b hb hbnew with hpend | hdone
    · rcases pending_tail hpend with hhead | htail
      · exact absurd hhead (hreq b)
      · exact .inl htail
    · exact .inr hdone
  failNext := hfail.trans h.failNext

omit hread hmapped hident in
lemma Between.create {m m' : Dict String String} {x : SyncAction} {rest : List SyncAction}
    {s s' : MockStore} (h : Between config uuid5 desired remote s₀ m (x :: rest) s)
    (hfail : s'.failNext = s.failNext) {a : CollibraAssetSpec}
    (hreq : x.request = some (.createAsset a)) (ha : a ∈ desired.assets)
    (hnew : Unmatched remote a) {id₁ : String} (hid₁ : mockRemoteId uuid5 a.localId = id₁)
    {asset₁ : StoredAsset} (hname : asset₁.name = a.name) (hfresh : s.assets.get? id₁ = none)
    (hassets : s'.assets = s.assets.set id₁ asset₁)
    (hidsEq : ∀ id, remoteToLocal config s' id =
      if id = id₁ then some a.localId else remoteToLocal config s id)
    (hholders : ∀ l, holder config s' l =
      if l = a.localId then some id₁ else holder config s l)
    (hm : m' = m.set a.localId id₁) : Between config uuid5 desired remote s₀ m' rest s' := by
  have hother : ∀ id l, remoteToLocal config s id = some l → id ≠ id₁ := by
    rintro _ l hl rfl
    rw [remoteToLocal, hfresh] at hl
    cases hl
  have hgrow : ∀ id l, remoteToLocal config s id = some l → remoteToLocal config s' id = some l := by
    intro id l hl
    rw [hidsEq, if_neg (hother id l hl), hl]
  refine ⟨fun y hy => h.planned y (List.mem_cons_of_mem _ hy), fun id l hl => hgrow id l (h.kept id l hl),
    ?_, ?_, ?_, ?_, ?_, ?_, hfail.trans h.failNext⟩
  · intro id l hl
    rw [hidsEq] at hl
    split_ifs at hl with hid
    · exact .inr ⟨a, ha, hnew, hid.trans hid₁.symm, (Option.some_inj.mp hl).symm⟩
    · exact h.origin id l hl
  · intro l hl
    rw [hholders, if_neg (Ne.symm (hl a ha hnew))]
    exact h.holders l hl
  · intro l id hget
    rw [hm, Dict.get?_set] at hget
    split_ifs at hget with hl
    · rw [hidsEq, if_pos (Option.some_inj.mp hget).symm, hl]
    · exact hgrow id l (h.known l id hget)
  · intro id asset l hget hl
    rw [hassets, Dict.get?_set] at hget
    split_ifs at hget with hid
    · rw [Option.some_inj] at hget
      rw [hid, ← hid₁, ← hget, hname]
      exact ⟨mockRemoteId_nonblank _, a.name_nonblank⟩
    · exact h.named id asset l hget hl
  · intro id t ht
    obtain ⟨asset, hget, hvalue⟩ := h.types id t ht
    refine ⟨asset, ?_, hvalue⟩
    rw [hassets, Dict.get?_set_of_ne _ _ ?_, hget]
    rintro rfl
    rw [hfresh] at hget
    cases hget
  · intro b hb hbnew
    rcases h.created b hb hbnew with hpend | hdone
    · rcases pending_tail hpend with hhead | htail
      · rw [hreq, Option.some_inj, MutationRequest.createAsset.injEq] at hhead
        right
        rw [hidsEq, ← hhead, if_pos hid₁]
      · exact .inl htail
    · exact .inr (hgrow _ _ hdone)

/-- Every pass keeps what holds between passes. -/
theorem between_step {m m' : Dict String String} {x : SyncAction} {rest : List SyncAction} {n : Nat}
    {s s' : MockStore} (h : Between config uuid5 desired remote s₀ m (x :: rest) s)
    (hx : performAction (adapter config uuid5) m x s = (.ok (m', n), s')) :
    Between config uuid5 desired remote s₀ m' rest s' := by
  obtain ⟨heffect, hfail⟩ := performAction_effect hread hmapped hident h hx
  cases heffect with
  | create a hreq ha hnew hfresh hassets hidsEq hholders hrels hseq hm =>
    exact h.create hfail hreq ha hnew rfl rfl hfresh hassets hidsEq hholders hm
  | update a r stored hreq ha hr htarget hstored hassets hidsEq hholders hrels hseq hm =>
    refine h.of_same_ids (by simp [hreq]) hfail hidsEq hholders ?_ ?_ ?_
    · intro l id hget
      rw [hm, Dict.get?_set] at hget
      split_ifs at hget with hl
      · rw [← Option.some_inj.mp hget, remoteToLocal, htarget, hl]
        exact hstored
      · exact h.known l id hget
    · intro id asset l hget hl
      rw [hassets, Dict.get?_set] at hget
      split_ifs at hget with hid
      · obtain ⟨hidOk, hnameOk⟩ := h.named _ stored a.localId htarget hstored
        rw [hid, ← Option.some_inj.mp hget]
        refine ⟨hidOk, ?_⟩
        simp only [updatedAsset]
        split_ifs
        · exact a.name_nonblank
        · exact hnameOk
      · exact h.named id asset l hget hl
    · rintro id t ⟨asset, hget, hvalue⟩
      rw [hassets, Dict.get?_set]
      split_ifs with hid
      · rw [hid, htarget, Option.some_inj] at hget
        refine ⟨_, rfl, ?_⟩
        rw [valueAt_updatedAsset (hmapped a ha), ne_eq, Option.or_eq_none_iff, hget]
        exact fun hnone => hvalue hnone.2
      · exact ⟨asset, hget, hvalue⟩
  | link rel source target hreq hrel hnew hsource htarget hassets hrels hseq hm =>
    refine h.of_same_ids (by simp [hreq]) hfail ?_ ?_ ?_ ?_ ?_
    · intro id
      rw [remoteToLocal, hassets]
      rfl
    · intro l
      rw [holder, hassets]
      rfl
    · intro l id hget
      rw [hm] at hget
      exact h.known l id hget
    · intro id asset l hget hl
      rw [hassets] at hget
      exact h.named id asset l hget hl
    · intro id t ht
      rw [hassets]
      exact ht

end Steps

end CollibraGovernance.Collibra.MockCollibraAdapter
