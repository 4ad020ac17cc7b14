import CollibraGovernance.Collibra.MockRun

/-! Whether a second synchronisation with the mock finds nothing left to do. -/
namespace CollibraGovernance.Collibra.MockCollibraAdapter
open Library Domain

/-- A fresh read succeeds and the plan built from it has nothing to create or update. -/
def Converges (config : CollibraMappingConfig) (desired : CollibraDesiredState) (s : MockStore) :
    Prop :=
  ∃ remote, (readRemoteState config s).1 = .ok remote ∧ (buildSyncPlan desired remote).Settled

/-- Ids that the next relationships will be stored under. -/
def upcomingIds (s : MockStore) (n : Nat) : List String :=
  (List.range n).map (fun i => relId (s.relSeq + i))

section Condition
variable (config : CollibraMappingConfig) (uuid5 : String → BitVec 128)
variable (desired : CollibraDesiredState) (remote : CollibraRemoteState) (s : MockStore)

/-- The remote id is managed, or will be once the unmatched assets are created. -/
def WillBeManaged (id : String) : Prop :=
  (remoteToLocal config s id).isSome = true ∨
    ∃ a ∈ desired.assets, Unmatched remote a ∧ id = mockRemoteId uuid5 a.localId

/-- What a store and a desired state need for one synchronisation to be enough. -/
structure Reconcilable : Prop where
  /-- No desired asset lets another attribute take the place of its local id. -/
  identity : ∀ a ∈ desired.assets, CarriesIdentity config a
  /-- A matched asset has no managed attribute that the desired asset lacks. -/
  covered : ∀ a ∈ desired.assets, ∀ r ∈ (remoteAssetIndex remote).get? a.localId,
    ∀ t ∈ (remoteAttributeMap r.managedAttributes).keys, t ∈ (attributeMap a.attributes).keys
  /-- A matched relationship is not stored only under ids that new ones will overwrite. -/
  survives : ∀ rel ∈ desired.relationships, ¬ Missing remote rel →
    ∃ r ∈ remote.relationships, remoteKey r = desiredKey rel ∧
      r.remoteId ∉ upcomingIds s (missingLinks desired remote).length
  /-- No relationship under a blank id is about to become managed. -/
  readable : ∀ e ∈ s.relationships.entries, isBlank e.1 = true →
    e.2.relationTypeRef ∈ config.relationTypeRefs.values →
    ¬ (WillBeManaged config uuid5 desired remote s e.2.sourceRemoteId ∧
      WillBeManaged config uuid5 desired remote s e.2.targetRemoteId)

end Condition

section Assets
variable {config : CollibraMappingConfig} {uuid5 : String → BitVec 128}
variable {desired : CollibraDesiredState} {remote : CollibraRemoteState} {s₀ : MockStore}

/-- The stored asset shows no difference from the desired one. -/
structure Current (config : CollibraMappingConfig) (a : CollibraAssetSpec) (asset : StoredAsset) :
    Prop where
  name : asset.name = a.name
  displayName : orNone asset.displayName = orNone a.displayName
  attributes : ∀ t ∈ config.attributeTypeRefs.values,
    valueAt asset.attributes t = (attributeMap a.attributes).get? t

/-- The desired asset is found, and found as it should be. -/
def Done (config : CollibraMappingConfig) (s : MockStore) (a : CollibraAssetSpec) : Prop :=
  ∃ id asset, holder config s a.localId = some id ∧ s.assets.get? id = some asset ∧
    Current config a asset

/-- The desired asset's own mutation is still to come and its match is untouched. -/
def Pending (remote : CollibraRemoteState) (s₀ : MockStore) (rest : List SyncAction)
    (s : MockStore) (a : CollibraAssetSpec) : Prop :=
  (Unmatched remote a ∧ ∃ x ∈ rest, x.request = some (.createAsset a)) ∨
  ∃ r, (remoteAssetIndex remote).get? a.localId = some r ∧
    s.assets.get? r.remoteId = s₀.assets.get? r.remoteId ∧
    ∃ x ∈ rest, x.request = some (.updateAsset r.remoteId a (a.name ≠ r.name)
      (orNone a.displayName ≠ orNone r.displayName))

lemma current_createdAsset (a : CollibraAssetSpec) (seq : Nat) :
    Current config a (createdAsset uuid5 a seq) :=
  ⟨rfl, rfl, fun t _ => valueAt_storeAttributes _ _ _ t⟩

/-- An update with the planned patch flags leaves nothing to update. -/
lemma current_updatedAsset {a : CollibraAssetSpec} (hmapped : MappedAsset config a)
    {r : CollibraRemoteAsset} {stored : StoredAsset} {id : String} {seq : Nat}
    (hreads : ReadsAs config stored r)
    (hcovered : ∀ t ∈ (remoteAttributeMap r.managedAttributes).keys,
      t ∈ (attributeMap a.attributes).keys) :
    Current config a (updatedAsset config id a (a.name ≠ r.name)
      (orNone a.displayName ≠ orNone r.displayName) stored seq) := by
  refine ⟨?_, ?_, fun t ht => ?_⟩
  · simp only [updatedAsset, ne_eq, decide_not, Bool.not_eq_true', decide_eq_false_iff_not]
    split_ifs with hn
    · rw [← hreads.name, hn]
    · rfl
  · simp only [updatedAsset, ne_eq, decide_not, Bool.not_eq_true', decide_eq_false_iff_not]
    split_ifs with hn
    · rw [← hreads.displayName, hn]
    · rfl
  · rw [valueAt_updatedAsset hmapped]
    cases hdesired : (attributeMap a.attributes).get? t with
    | some v => rfl
    | none =>
      rw [Option.none_or]
      cases hstored : valueAt stored.attributes t with
      | none => rfl
      | some v =>
        have hremote : (remoteAttributeMap r.managedAttributes).get? t = some v := by
          rw [hreads.attributes, if_pos ht, hstored]
        have hmem := hcovered t (Dict.mem_keys_iff.mpr ⟨v, hremote⟩)
        exact absurd hmem (Dict.get?_eq_none.mp hdesired)

lemma current_updatedAsset_of_current {a : CollibraAssetSpec} (hmapped : MappedAsset config a)
    {stored : StoredAsset} {id : String} {pn pd : Bool} {seq : Nat}
    (hcurrent : Current config a stored) :
    Current config a (updatedAsset config id a pn pd stored seq) := by
  refine ⟨?_, ?_, fun t ht => ?_⟩
  · simp only [updatedAsset]
    split_ifs
    · rfl
    · exact hcurrent.name
  · simp only [updatedAsset]
    split_ifs
    · rfl
    · exact hcurrent.displayName
  · rw [valueAt_updatedAsset hmapped, hcurrent.attributes t ht]
    cases (attributeMap a.attributes).get? t <;> rfl

/-- A current asset reads as one with nothing changed. -/
lemma changedFields_of_current {a : CollibraAssetSpec} (hmapped : MappedAsset config a)
    {r : CollibraRemoteAsset} {asset : StoredAsset} (hreads : ReadsAs config asset r)
    (hcurrent : Current config a asset) : assetChangedFields a r = [] := by
  rw [assetChangedFields_eq_nil]
  refine ⟨by rw [hreads.name, hcurrent.name],
    by rw [hreads.displayName, hcurrent.displayName], fun t => ?_⟩
  rw [hreads.attributes]
  split_ifs with ht
  · exact (hcurrent.attributes t ht).symm
  · rw [Dict.get?_eq_none]
    intro hmem
    obtain ⟨x, hx, rfl⟩ := Dict.mem_keys_index.mp hmem
    exact ht (hmapped.attributes x hx)

lemma current_of_changedFields {a : CollibraAssetSpec} {r : CollibraRemoteAsset}
    {asset : StoredAsset} (hreads : ReadsAs config asset r) (h : assetChangedFields a r = []) :
    Current config a asset := by
  obtain ⟨hname, hdisplay, hattrs⟩ := assetChangedFields_eq_nil.mp h
  refine ⟨by rw [hname, hreads.name], by rw [hdisplay, hreads.displayName], fun t ht => ?_⟩
  rw [hattrs t, hreads.attributes, if_pos ht]

variable (hread : readStore config s₀ = .ok remote)
variable (hids : (desired.assets.map CollibraAssetSpec.localId).Nodup)
variable (hmapped : ∀ a ∈ desired.assets, MappedAsset config a)
variable (hident : ∀ a ∈ desired.assets, CarriesIdentity config a)
variable (hcovered : ∀ a ∈ desired.assets, ∀ r ∈ (remoteAssetIndex remote).get? a.localId,
  ∀ t ∈ (remoteAttributeMap r.managedAttributes).keys, t ∈ (attributeMap a.attributes).keys)

include hread hids in
lemma pending_or_done_start {a : CollibraAssetSpec} (ha : a ∈ desired.assets) :
    Pending remote s₀ (plannedMutations desired remote) s₀ a ∨ Done config s₀ a := by
  cases hr : (remoteAssetIndex remote).get? a.localId with
  | none => exact .inl (.inl ⟨hr, exists_create hids ha hr⟩)
  | some r =>
    by_cases hdiff : assetChangedFields a r = []
    · obtain ⟨hmem, hlocal⟩ := remoteAssetIndex_source hr
      obtain ⟨asset, hget, hreads⟩ := readStore_asset hread hmem
      have hholder := remoteAssetIndex_holder hread a.localId
      rw [hr] at hholder
      exact .inr ⟨r.remoteId, asset, hholder.symm, hget, current_of_changedFields hreads hdiff⟩
    · exact .inl (.inr ⟨r, hr, rfl, exists_update hids ha hr hdiff⟩)

include hread hids hmapped hident hcovered in
/-- A pass settles its own asset and leaves the others where they are. -/
theorem pending_or_done_step {m m' : Dict String String} {x : SyncAction} {rest : List SyncAction}
    {n : Nat} {s s' : MockStore} (h : Between config uuid5 desired remote s₀ m (x :: rest) s)
    (hx : performAction (adapter config uuid5) m x s = (.ok (m', n), s')) {a : CollibraAssetSpec}
    (ha : a ∈ desired.assets) (hstate : Pending remote s₀ (x :: rest) s a ∨ Done config s a) :
    Pending remote s₀ rest s' a ∨ Done config s' a := by
  obtain ⟨heffect, -⟩ := performAction_effect hread hmapped hident h hx
  cases heffect with
  | create b hreq hb hnew hfresh hassets hidsEq hholders hrels hseq hm =>
    have hkeep : ∀ id asset, s.assets.get? id = some asset → s'.assets.get? id = some asset := by
      intro id asset hget
      rw [hassets, Dict.get?_set_of_ne _ _ ?_, hget]
      rintro rfl
      rw [hfresh] at hget
      cases hget
    by_cases hab : a.localId = b.localId
    · have heq := List.inj_on_of_nodup_map hids ha hb hab
      right
      refine ⟨mockRemoteId uuid5 b.localId, createdAsset uuid5 b s.attrSeq, ?_, ?_, ?_⟩
      · rw [hholders, if_pos hab]
      · rw [hassets, Dict.get?_set_self]
      · rw [heq]
        exact current_createdAsset b s.attrSeq
    · rcases hstate with (⟨hnew', hpend⟩ | ⟨r, hr, hsame, hpend⟩) | ⟨id, asset, hholder, hget, hcur⟩
      · rcases pending_tail hpend with hhead | htail
        · rw [hreq, Option.some_inj, MutationRequest.createAsset.injEq] at hhead
          exact absurd (by rw [hhead]) hab
        · exact .inl (.inl ⟨hnew', htail⟩)
      · rcases pending_tail hpend with hhead | htail
        · rw [hreq] at hhead
          cases hhead
        · refine .inl (.inr ⟨r, hr, ?_, htail⟩)
          obtain ⟨asset, hget, -⟩ := remoteToLocal_eq_some.mp (remoteToLocal_matched hread hr)
          rw [hkeep _ _ (hsame.trans hget), hget]
      · exact .inr ⟨id, asset, by rw [hholders, if_neg hab, hholder], hkeep id asset hget, hcur⟩
  | update b rb stored hreq hb hrb htarget hstored hassets hidsEq hholders hrels hseq hm =>
    by_cases hab : a.localId = b.localId
    · have heq := List.inj_on_of_nodup_map hids ha hb hab
      subst heq
      have hself : holder config s' a.localId = some rb.remoteId := by
        rw [hholders, h.holders _ ?_, ← remoteAssetIndex_holder hread, hrb]
        · rfl
        · intro c hc hcnew hlocal
          rw [Unmatched, hlocal, hrb] at hcnew
          cases hcnew
      right
      refine ⟨rb.remoteId, _, hself, by rw [hassets, Dict.get?_set_self], ?_⟩
      rcases hstate with (⟨hnew, -⟩ | ⟨r, hr, hsame, -⟩) | ⟨id, asset, hholder, hget, hcur⟩
      · rw [Unmatched, hrb] at hnew
        cases hnew
      · obtain ⟨hmem, -⟩ := remoteAssetIndex_source hrb
        obtain ⟨asset, hget, hreads⟩ := readStore_asset hread hmem
        rw [hr, Option.some_inj] at hrb
        subst hrb
        rw [htarget, hget, Option.some_inj] at hsame
        subst hsame
        exact current_updatedAsset (hmapped a ha) hreads (hcovered a ha r hr)
      · rw [hholders, hholder, Option.some_inj] at hself
        rw [hself, htarget, Option.some_inj] at hget
        subst hget
        exact current_updatedAsset_of_current (hmapped a ha) hcur
    · have hother : ∀ id, remoteToLocal config s id = some a.localId → id ≠ rb.remoteId := by
        rintro _ hl rfl
        rw [remoteToLocal, htarget, Option.bind_some, hstored, Option.some_inj] at hl
        exact hab hl.symm
      rcases hstate with (⟨hnew', hpend⟩ | ⟨r, hr, hsame, hpend⟩) | ⟨id, asset, hholder, hget, hcur⟩
      · rcases pending_tail hpend with hhead | htail
        · rw [hreq] at hhead
          cases hhead
        · exact .inl (.inl ⟨hnew', htail⟩)
      · rcases pending_tail hpend with hhead | htail
        · rw [hreq, Option.some_inj, MutationRequest.updateAsset.injEq] at hhead
          exact absurd (by rw [hhead.2.1]) hab
        · refine .inl (.inr ⟨r, hr, ?_, htail⟩)
          rw [hassets, Dict.get?_set_of_ne _ _ ?_, hsame]
          exact hother _ (h.kept _ _ (remoteToLocal_matched hread hr))
      · refine .inr ⟨id, asset, by rw [hholders, hholder], ?_, hcur⟩
        rw [hassets, Dict.get?_set_of_ne _ _ (hother _ (remoteToLocal_of_holder hholder)), hget]
  | link rel source target hreq hrel hnew hsource htarget hassets hrels hseq hm =>
    rcases hstate with (⟨hnew', hpend⟩ | ⟨r, hr, hsame, hpend⟩) | ⟨id, asset, hholder, hget, hcur⟩
    · rcases pending_tail hpend with hhead | htail
      · rw [hreq] at hhead
        cases hhead
      · exact .inl (.inl ⟨hnew', htail⟩)
    · rcases pending_tail hpend with hhead | htail
      · rw [hreq] at hhead
        cases hhead
      · exact .inl (.inr ⟨r, hr, by rw [hassets, hsame], htail⟩)
    · exact .inr ⟨id, asset, by rw [holder, hassets]; exact hholder, by rw [hassets, hget], hcur⟩

end Assets

section Links
variable {config : CollibraMappingConfig} {uuid5 : String → BitVec 128}
variable {desired : CollibraDesiredState} {remote : CollibraRemoteState} {s₀ : MockStore}

/-- A relationship with this key is stored under one of the ids handed out since the start. -/
def Linked (config : CollibraMappingConfig) (s₀ s : MockStore) (k : String × String × String) :
    Prop :=
  ∃ i, s₀.relSeq ≤ i ∧ i < s.relSeq ∧ ∃ stored, s.relationships.get? (relId i) = some stored ∧
    managedKey config s stored = some k

/-- How the stored relationships relate to those of the start. -/
structure LinksBetween (config : CollibraMappingConfig) (desired : CollibraDesiredState)
    (remote : CollibraRemoteState) (s₀ : MockStore) (rest : List SyncAction) (s : MockStore) :
    Prop where
  started : s₀.relSeq ≤ s.relSeq
  remaining : s.relSeq + rest.countP (fun a => a.actionType = .create ∧
    a.objectKind = .relationship) = s₀.relSeq + (missingLinks desired remote).length
  old : ∀ id, (∀ i, s₀.relSeq ≤ i → i < s.relSeq → id ≠ relId i) →
    s.relationships.get? id = s₀.relationships.get? id
  new : ∀ i, s₀.relSeq ≤ i → i < s.relSeq → ∃ rel ∈ desired.relationships, Missing remote rel ∧
    ∃ stored, s.relationships.get? (relId i) = some stored ∧
      managedKey config s stored = some (desiredKey rel)
  pending : ∀ rel ∈ desired.relationships, Missing remote rel →
    (∃ x ∈ rest, ∃ rel', x.request = some (.createRelationship rel') ∧
      desiredKey rel' = desiredKey rel) ∨ Linked config s₀ s (desiredKey rel)

theorem links_start : LinksBetween config desired remote s₀ (plannedMutations desired remote) s₀ where
  started := le_refl _
  remaining := by rw [countP_links]
  old _ _ := rfl
  new i hle hlt := by omega
  pending _ hrel hnew := .inl (exists_link hrel hnew)

/-- Recognised ids keep a relationship managed under its key. -/
lemma managedKey_mono {s s' : MockStore}
    (hgrow : ∀ id l, remoteToLocal config s id = some l → remoteToLocal config s' id = some l)
    {stored : StoredRelationship} {k : String × String × String}
    (h : managedKey config s stored = some k) : managedKey config s' stored = some k := by
  obtain ⟨htype, hsource, htarget, hk⟩ := managedKey_eq_some.mp h
  exact managedKey_eq_some.mpr ⟨htype, hgrow _ _ hsource, hgrow _ _ htarget, hk⟩

lemma LinksBetween.of_same {x : SyncAction} {rest : List SyncAction} {s s' : MockStore}
    (h : LinksBetween config desired remote s₀ (x :: rest) s)
    (hreq : ∀ rel, x.request ≠ some (.createRelationship rel))
    (hrels : s'.relationships = s.relationships) (hseq : s'.relSeq = s.relSeq)
    (hgrow : ∀ id l, remoteToLocal config s id = some l → remoteToLocal config s' id = some l) :
    LinksBetween config desired remote s₀ rest s' where
  started := by rw [hseq]; exact h.started
  remaining := by
    have hcount := h.remaining
    rw [List.countP_cons_of_neg] at hcount
    · rw [hseq, hcount]
    · simp only [decide_eq_true_eq]
      rintro ⟨ht, hk⟩
      obtain ⟨rel, hrel⟩ := x.create_relationship_isSome ht hk
      exact hreq rel (request_createRelationship.mpr ⟨ht, hk, hrel⟩)
  old id hid := by
    rw [hseq] at hid
    rw [hrels, h.old id hid]
  new i hle hlt := by
    rw [hseq] at hlt
    obtain ⟨rel, hrel, hnew, stored, hget, hkey⟩ := h.new i hle hlt
    exact ⟨rel, hrel, hnew, stored, by rw [hrels, hget], managedKey_mono hgrow hkey⟩
  pending rel hrel hnew := by
    rcases h.pending rel hrel hnew with ⟨y, hy, rel', hyreq, hkey⟩ | ⟨i, hle, hlt, stored, hget, hkey⟩
    · rcases List.mem_cons.mp hy with rfl | hy
      · exact absurd hyreq (hreq rel')
      · exact .inl ⟨y, hy, rel', hyreq, hkey⟩
    · exact .inr ⟨i, hle, by rw [hseq]; exact hlt, stored, by rw [hrels, hget],
        managedKey_mono hgrow hkey⟩

lemma LinksBetween.link {x : SyncAction} {rest : List SyncAction} {s s' : MockStore}
    (h : LinksBetween config desired remote s₀ (x :: rest) s) {rel : CollibraRelationshipSpec}
    (hreq : x.request = some (.createRelationship rel)) (hrel : rel ∈ desired.relationships)
    (hnew : Missing remote rel) {stored : StoredRelationship}
    (hrels : s'.relationships = s.relationships.set (relId s.relSeq) stored)
    (hseq : s'.relSeq = s.relSeq + 1) (hassets : s'.assets = s.assets)
    (hkey : managedKey config s stored = some (desiredKey rel)) :
    LinksBetween config desired remote s₀ rest s' := by
  have hkeys : ∀ st, managedKey config s' st = managedKey config s st := by
    intro st
    unfold managedKey remoteToLocal
    rw [hassets]
  have hstart := h.started
  have hself : s'.relationships.get? (relId s.relSeq) = some stored := by
    rw [hrels, Dict.get?_set_self]
  have hbefore : ∀ i, i < s.relSeq →
      s'.relationships.get? (relId i) = s.relationships.get? (relId i) := by
    intro i hi
    rw [hrels, Dict.get?_set_of_ne _ _ (fun he => by have := relId_inj he; omega)]
  refine ⟨by omega, ?_, ?_, ?_, ?_⟩
  · have hcount := h.remaining
    obtain ⟨ht, hk, -⟩ := request_createRelationship.mp hreq
    rw [List.countP_cons_of_pos (by simp [ht, hk])] at hcount
    omega
  · intro id hid
    rw [hrels, Dict.get?_set_of_ne _ _ (hid s.relSeq hstart (by omega))]
    exact h.old id (fun i hle hlt => hid i hle (by omega))
  · intro i hle hlt
    rcases Nat.lt_or_ge i s.relSeq with hi | hi
    · obtain ⟨rel', hrel', hnew', st, hget, hst⟩ := h.new i hle hi
      exact ⟨rel', hrel', hnew', st, by rw [hbefore i hi, hget], by rw [hkeys, hst]⟩
    · have hi : i = s.relSeq := by omega
      subst hi
      exact ⟨rel, hrel, hnew, stored, hself, by rw [hkeys, hkey]⟩
  · intro rel' hrel' hnew'
    rcases h.pending rel' hrel' hnew' with ⟨y, hy, rel'', hyreq, hk⟩ | ⟨i, hle, hlt, st, hget, hst⟩
    · rcases List.mem_cons.mp hy with rfl | hy
      · rw [hreq, Option.some_inj, MutationRequest.createRelationship.injEq] at hyreq
        subst hyreq
        exact .inr ⟨s.relSeq, hstart, by omega, stored, hself, by rw [hkeys, hkey, hk]⟩
      · exact .inl ⟨y, hy, rel'', hyreq, hk⟩
    · exact .inr ⟨i, hle, by omega, st, by rw [hbefore i hlt, hget], by rw [hkeys, hst]⟩

variable (hread : readStore config s₀ = .ok remote)
variable (hmapped : ∀ a ∈ desired.assets, MappedAsset config a)
variable (hident : ∀ a ∈ desired.assets, CarriesIdentity config a)
variable (htypes : ∀ rel ∈ desired.relationships,
  rel.relationTypeRef ∈ config.relationTypeRefs.values)

include hread hmapped hident htypes in
/-- A pass stores the relationship it creates under a fresh id and keeps the others. -/
theorem links_step {m m' : Dict String String} {x : SyncAction} {rest : List SyncAction} {n : Nat}
    {s s' : MockStore} (h : Between config uuid5 desired remote s₀ m (x :: rest) s)
    (hlinks : LinksBetween config desired remote s₀ (x :: rest) s)
    (hx : performAction (adapter config uuid5) m x s = (.ok (m', n), s')) :
    LinksBetween config desired remote s₀ rest s' := by
  obtain ⟨heffect, -⟩ := performAction_effect hread hmapped hident h hx
  cases heffect with
  | create b hreq hb hnew hfresh hassets hidsEq hholders hrels hseq hm =>
    refine hlinks.of_same (by simp [hreq]) hrels hseq ?_
    intro id l hl
    rw [hidsEq, if_neg ?_, hl]
    rintro rfl
    rw [remoteToLocal, hfresh] at hl
    cases hl
  | update b rb stored hreq hb hrb htarget hstored hassets hidsEq hholders hrels hseq hm =>
    exact hlinks.of_same (by simp [hreq]) hrels hseq (fun id l hl => by rw [hidsEq, hl])
  | link rel source target hreq hrel hnew hsource htarget hassets hrels hseq hm =>
    refine hlinks.link hreq hrel hnew hrels hseq hassets ?_
    exact managedKey_eq_some.mpr ⟨htypes rel hrel, h.known _ _ hsource, h.known _ _ htarget, rfl⟩

end Links

section Run
variable {config : CollibraMappingConfig} {uuid5 : String → BitVec 128}
variable {desired : CollibraDesiredState} {remote : CollibraRemoteState} {s₀ s : MockStore}
variable (hread : readStore config s₀ = .ok remote)
variable (hids : (desired.assets.map CollibraAssetSpec.localId).Nodup)
variable (hmapped : ∀ a ∈ desired.assets, MappedAsset config a)
variable (hident : ∀ a ∈ desired.assets, CarriesIdentity config a)
variable (htypes : ∀ rel ∈ desired.relationships,
  rel.relationTypeRef ∈ config.relationTypeRefs.values)

/-- A finished run: no mutation is left. -/
structure Finished (config : CollibraMappingConfig) (uuid5 : String → BitVec 128)
    (desired : CollibraDesiredState) (remote : CollibraRemoteState) (s₀ s : MockStore) : Prop where
  between : ∃ m, Between config uuid5 desired remote s₀ m [] s
  links : LinksBetween config desired remote s₀ [] s
  assets : (∀ a ∈ desired.assets, ∀ r ∈ (remoteAssetIndex remote).get? a.localId,
    ∀ t ∈ (remoteAttributeMap r.managedAttributes).keys, t ∈ (attributeMap a.attributes).keys) →
    ∀ a ∈ desired.assets, Done config s a

include hread hids hmapped hident htypes in
/-- A run that ends without a failure is finished. -/
theorem run_finished
    (hok : (executeSyncPlan (adapter config uuid5) (buildSyncPlan desired remote) true s₀).1.success
      = true) :
    Finished config uuid5 desired remote s₀
      (executeSyncPlan (adapter config uuid5) (buildSyncPlan desired remote) true s₀).2 := by
  rw [applySyncPlanMutations_eq] at hok ⊢
  simp only [Option.isNone_iff_eq_none] at hok ⊢
  obtain ⟨m, hbetween, hlinks, hassets⟩ := runActions_induction
    (motive := fun m rest s => Between config uuid5 desired remote s₀ m rest s ∧
      LinksBetween config desired remote s₀ rest s ∧
      ((∀ a ∈ desired.assets, ∀ r ∈ (remoteAssetIndex remote).get? a.localId,
        ∀ t ∈ (remoteAttributeMap r.managedAttributes).keys, t ∈ (attributeMap a.attributes).keys) →
        ∀ a ∈ desired.assets, Pending remote s₀ rest s a ∨ Done config s a))
    (fun m x rest s m' n s' h hx => ⟨between_step hread hmapped hident h.1 hx,
      links_step hread hmapped hident htypes h.1 h.2.1 hx,
      fun hcovered a ha => pending_or_done_step hread hids hmapped hident hcovered h.1 hx ha
        (h.2.2 hcovered a ha)⟩)
    ⟨between_start hread hids, links_start,
      fun _ a ha => pending_or_done_start hread hids ha⟩ hok
  refine ⟨⟨m, hbetween⟩, hlinks, fun hcovered a ha => ?_⟩
  rcases hassets hcovered a ha with (⟨-, x, hx, -⟩ | ⟨r, -, -, x, hx, -⟩) | hdone
  · cases hx
  · cases hx
  · exact hdone

lemma mem_upcomingIds {n : Nat} {id : String} :
    id ∈ upcomingIds s₀ n ↔ ∃ i, s₀.relSeq ≤ i ∧ i < s₀.relSeq + n ∧ id = relId i := by
  simp only [upcomingIds, List.mem_map, List.mem_range]
  constructor
  · rintro ⟨i, hi, rfl⟩
    exact ⟨s₀.relSeq + i, by omega, by omega, rfl⟩
  · rintro ⟨i, hle, hlt, rfl⟩
    exact ⟨i - s₀.relSeq, by omega, by rw [Nat.add_sub_cancel' hle]⟩

lemma Finished.relSeq (h : Finished config uuid5 desired remote s₀ s) :
    s.relSeq = s₀.relSeq + (missingLinks desired remote).length := by
  have := h.links.remaining
  simpa using this

/-- Apart from the upcoming ids, the relationships are those of the start. -/
lemma Finished.old (h : Finished config uuid5 desired remote s₀ s) {id : String}
    (hid : id ∉ upcomingIds s₀ (missingLinks desired remote).length) :
    s.relationships.get? id = s₀.relationships.get? id := by
  refine h.links.old id ?_
  rintro i hle hlt rfl
  rw [h.relSeq] at hlt
  exact hid (mem_upcomingIds.mpr ⟨i, hle, hlt, rfl⟩)

lemma not_upcoming_of_blank {n : Nat} {id : String} (h : isBlank id = true) :
    id ∉ upcomingIds s₀ n := by
  intro hmem
  obtain ⟨i, -, -, rfl⟩ := mem_upcomingIds.mp hmem
  rw [relId_nonblank] at h
  cases h

/-- After a finished run an id is recognised exactly when that was to be expected. -/
lemma Finished.willBeManaged (h : Finished config uuid5 desired remote s₀ s) (id : String) :
    WillBeManaged config uuid5 desired remote s₀ id ↔ ∃ l, remoteToLocal config s id = some l := by
  obtain ⟨m, hb⟩ := h.between
  constructor
  · rintro (hold | ⟨a, ha, hnew, rfl⟩)
    · obtain ⟨l, hl⟩ := Option.isSome_iff_exists.mp hold
      exact ⟨l, hb.kept id l hl⟩
    · rcases hb.created a ha hnew with ⟨x, hx, -⟩ | hdone
      · cases hx
      · exact ⟨_, hdone⟩
  · rintro ⟨l, hl⟩
    rcases hb.origin id l hl with hold | ⟨a, ha, hnew, rfl, -⟩
    · exact .inl (by rw [hold]; rfl)
    · exact .inr ⟨a, ha, hnew, rfl⟩

lemma Finished.readable_iff (h : Finished config uuid5 desired remote s₀ s) :
    (∃ remote', readStore config s = .ok remote') ↔
      ∀ e ∈ s₀.relationships.entries, isBlank e.1 = true →
        e.2.relationTypeRef ∈ config.relationTypeRefs.values →
        ¬ (WillBeManaged config uuid5 desired remote s₀ e.2.sourceRemoteId ∧
          WillBeManaged config uuid5 desired remote s₀ e.2.targetRemoteId) := by
  obtain ⟨m, hb⟩ := h.between
  constructor
  · rintro ⟨remote', hread'⟩ ⟨id, rel⟩ he hblank htype ⟨hsource, htarget⟩
    obtain ⟨ls, hls⟩ := (h.willBeManaged _).mp hsource
    obtain ⟨lt, hlt⟩ := (h.willBeManaged _).mp htarget
    have hget : s.relationships.get? id = some rel := by
      rw [h.old (not_upcoming_of_blank hblank)]
      exact Dict.get?_eq_some.mpr he
    have hkey : managedKey config s rel = some (ls, lt, rel.relationTypeRef) :=
      managedKey_eq_some.mpr ⟨htype, hls, hlt, rfl⟩
    obtain ⟨r, -, hid, -⟩ := exists_readStore_relationship hread' hget hkey
    have hnonblank := r.remoteId_nonblank
    rw [hid] at hnonblank
    rw [hblank] at hnonblank
    cases hnonblank
  · intro hsafe
    refine exists_readStore hb.named ?_
    intro id rel k hget hkey
    by_cases hup : id ∈ upcomingIds s₀ (missingLinks desired remote).length
    · obtain ⟨i, -, -, rfl⟩ := mem_upcomingIds.mp hup
      exact relId_nonblank i
    · rw [h.old hup] at hget
      obtain ⟨htype, hsource, htarget, -⟩ := managedKey_eq_some.mp hkey
      cases hblank : isBlank id with
      | false => rfl
      | true =>
        exact absurd ⟨(h.willBeManaged _).mpr ⟨_, hsource⟩, (h.willBeManaged _).mpr ⟨_, htarget⟩⟩
          (hsafe (id, rel) (Dict.get?_eq_some.mp hget) hblank htype)

include hread in
/-- A local id that was matched keeps its remote id. -/
lemma Finished.holder_matched (h : Finished config uuid5 desired remote s₀ s) {l : String}
    {r : CollibraRemoteAsset} (hr : (remoteAssetIndex remote).get? l = some r) :
    holder config s l = some r.remoteId := by
  obtain ⟨m, hb⟩ := h.between
  rw [hb.holders l ?_, ← remoteAssetIndex_holder hread, hr]
  · rfl
  · rintro a - hnew rfl
    rw [Unmatched, hr] at hnew
    cases hnew

/-- An unchanged match carries its own local id. -/
lemma carriesIdentity_of_unchanged {a : CollibraAssetSpec} {r : CollibraRemoteAsset}
    {asset : StoredAsset} (hreads : ReadsAs config asset r) (hlocal : r.localId = a.localId)
    (hsame : assetChangedFields a r = []) : CarriesIdentity config a := by
  have hvalue := (managedLocalId_eq_some.mp hreads.managed).2.2.1
  have hcurrent := (current_of_changedFields hreads hsame).attributes
    config.attributeTypeRefs.localId (by simp [AttributeTypeRefs.values])
  rw [CarriesIdentity, ← hcurrent, hvalue, hlocal]

include hread hids hmapped in
theorem Finished.converges (h : Finished config uuid5 desired remote s₀ s)
    (hfail : s₀.failNext ≠ some "read_remote_state")
    (hcond : Reconcilable config uuid5 desired remote s₀) : Converges config desired s := by
  obtain ⟨m, hb⟩ := h.between
  obtain ⟨remote', hread'⟩ := h.readable_iff.mpr hcond.readable
  refine ⟨remote', ?_, (settled_iff hids).mpr ⟨?_, ?_⟩⟩
  · rw [← hb.failNext] at hfail
    rw [readRemoteState_eq_ok.mpr ⟨hfail, hread', rfl⟩]
  · intro a ha
    obtain ⟨id, asset, hholder, hget, hcurrent⟩ := h.assets hcond.covered a ha
    rw [← remoteAssetIndex_holder hread'] at hholder
    obtain ⟨r, hr, rfl⟩ := Option.map_eq_some_iff.mp hholder
    obtain ⟨asset', hget', hreads⟩ := readStore_asset hread' (remoteAssetIndex_source hr).1
    rw [hget, Option.some_inj] at hget'
    subst hget'
    exact ⟨r, hr, changedFields_of_current (hmapped a ha) hreads hcurrent⟩
  · intro rel hrel
    rw [mem_remoteRelationshipIndex_keys hread']
    by_cases hnew : Missing remote rel
    · rcases h.links.pending rel hrel hnew with ⟨x, hx, -⟩ | ⟨i, -, -, stored, hget, hkey⟩
      · cases hx
      · exact ⟨relId i, stored, hget, hkey⟩
    · obtain ⟨r, hr, hkey, hid⟩ := hcond.survives rel hrel hnew
      obtain ⟨stored, hget, hstored⟩ := readStore_relationship hread hr
      refine ⟨r.remoteId, stored, by rw [h.old hid, hget], ?_⟩
      rw [← hkey]
      exact managedKey_mono hb.kept hstored

include hread in
/-- A triple that was present and still is has a relationship that no new one overwrote. -/
lemma Finished.survives (h : Finished config uuid5 desired remote s₀ s)
    {rel : CollibraRelationshipSpec} (hmatched : ¬ Missing remote rel)
    {id : String} {stored : StoredRelationship} (hget : s.relationships.get? id = some stored)
    (hkey : managedKey config s stored = some (desiredKey rel)) :
    ∃ r ∈ remote.relationships, remoteKey r = desiredKey rel ∧
      r.remoteId ∉ upcomingIds s₀ (missingLinks desired remote).length := by
  obtain ⟨m, hb⟩ := h.between
  have hpresent : desiredKey rel ∈ (remoteRelationshipIndex remote).keys := by
    by_contra hmiss
    exact hmatched (Dict.get?_eq_none.mpr hmiss)
  obtain ⟨id₀, stored₀, -, hkey₀⟩ := (mem_remoteRelationshipIndex_keys hread).mp hpresent
  have hup : id ∉ upcomingIds s₀ (missingLinks desired remote).length := by
    intro hup
    obtain ⟨i, hle, hlt, rfl⟩ := mem_upcomingIds.mp hup
    obtain ⟨rel', -, hnew, stored', hget', hkey'⟩ := h.links.new i hle (by rw [h.relSeq]; exact hlt)
    rw [hget, Option.some_inj] at hget'
    subst hget'
    rw [hkey, Option.some_inj] at hkey'
    rw [Missing, ← hkey'] at hnew
    exact hmatched hnew
  -- an endpoint recognised now was recognised at the start, for its local id was matched
  have hback : ∀ id id₁ l, remoteToLocal config s id = some l →
      remoteToLocal config s₀ id₁ = some l → remoteToLocal config s₀ id = some l := by
    intro id id₁ l hl hl₁
    rcases hb.origin id l hl with hold | ⟨a, -, hnew, -, rfl⟩
    · exact hold
    · obtain ⟨id', hid'⟩ := holder_of_remoteToLocal hl₁
      have hindex := remoteAssetIndex_holder hread a.localId
      rw [show (remoteAssetIndex remote).get? a.localId = none from hnew, hid'] at hindex
      cases hindex
  obtain ⟨htype, hsource, htarget, hk⟩ := managedKey_eq_some.mp hkey
  obtain ⟨-, hsource₀, htarget₀, -⟩ := managedKey_eq_some.mp hkey₀
  rw [h.old hup] at hget
  obtain ⟨r, hr, hid, hrkey⟩ := exists_readStore_relationship hread hget
    (managedKey_eq_some.mpr ⟨htype, hback _ _ _ hsource hsource₀, hback _ _ _ htarget htarget₀, hk⟩)
  exact ⟨r, hr, hrkey, by rw [hid]; exact hup⟩

include hread hids in
theorem Finished.reconcilable (h : Finished config uuid5 desired remote s₀ s)
    (hident : ∀ a ∈ desired.assets, CarriesIdentity config a)
    {remote' : CollibraRemoteState} (hread' : readStore config s = .ok remote')
    (hsettled : (buildSyncPlan desired remote').Settled) :
    Reconcilable config uuid5 desired remote s₀ := by
  obtain ⟨m, hb⟩ := h.between
  obtain ⟨hassets, hrels⟩ := (settled_iff hids).mp hsettled
  refine ⟨hident, ?_, ?_, h.readable_iff.mp ⟨remote', hread'⟩⟩
  · intro a ha r hr t ht
    obtain ⟨r', hr', hsame⟩ := hassets a ha
    have hholder := remoteAssetIndex_holder hread' a.localId
    rw [hr', h.holder_matched hread hr, Option.map_some, Option.some_inj] at hholder
    obtain ⟨asset', hget', hreads'⟩ := readStore_asset hread' (remoteAssetIndex_source hr').1
    obtain ⟨asset₀, hget₀, hreads₀⟩ := readStore_asset hread (remoteAssetIndex_source hr).1
    obtain ⟨v, hv⟩ := Dict.mem_keys_iff.mp ht
    rw [hreads₀.attributes] at hv
    split_ifs at hv with htype
    obtain ⟨asset, hget, hvalue⟩ := hb.types r.remoteId t ⟨asset₀, hget₀, by rw [hv]; simp⟩
    rw [hholder, hget, Option.some_inj] at hget'
    subst hget'
    obtain ⟨v', hv'⟩ := Option.ne_none_iff_exists'.mp hvalue
    have hcurrent := (current_of_changedFields hreads' hsame).attributes t htype
    exact Dict.mem_keys_iff.mpr ⟨v', by rw [← hcurrent, hv']⟩
  · intro rel hrel hmatched
    obtain ⟨id, stored, hget, hkey⟩ := (mem_remoteRelationshipIndex_keys hread').mp (hrels rel hrel)
    exact h.survives hread hmatched hget hkey

end Run

section Main
variable {config : CollibraMappingConfig} {uuid5 : String → BitVec 128}
variable {desired : CollibraDesiredState} {remote : CollibraRemoteState} {s s₁ s' : MockStore}

/-- A settled second plan means that every desired asset carries its own identity. -/
lemma Converges.identity (hids : (desired.assets.map CollibraAssetSpec.localId).Nodup)
    (h : Converges config desired s) : ∀ a ∈ desired.assets, CarriesIdentity config a := by
  obtain ⟨remote, hread, hsettled⟩ := h
  have hstore : readStore config s = .ok remote :=
    (readRemoteState_eq_ok.mp (Prod.ext hread rfl)).2.1
  intro a ha
  obtain ⟨r, hr, hsame⟩ := ((settled_iff hids).mp hsettled).1 a ha
  obtain ⟨hmem, hlocal⟩ := remoteAssetIndex_source hr
  obtain ⟨asset, -, hreads⟩ := readStore_asset hstore hmem
  exact carriesIdentity_of_unchanged hreads hlocal hsame

/-- After a synchronisation that succeeded, a second one has nothing to create or update exactly
when store and desired state were reconcilable. -/
theorem sync_converges_iff {model : GovernanceModel} {result : SyncResult}
    (hmap : mapToDesiredState model config = .ok desired)
    (hread : readRemoteState config s = (.ok remote, s₁))
    (hrun : executeSyncPlan (adapter config uuid5) (buildSyncPlan desired remote) true s₁ =
      (result, s')) (hok : result.success = true) :
    Converges config desired s' ↔ Reconcilable config uuid5 desired remote s := by
  obtain ⟨hfail, hstore, rfl⟩ := readRemoteState_eq_ok.mp hread
  have hrep := mapToDesiredState_represents hmap
  have hids : (desired.assets.map CollibraAssetSpec.localId).Nodup :=
    hrep.assets.nodup_iff.mpr hrep.ids_nodup
  have hfinished : (∀ a ∈ desired.assets, CarriesIdentity config a) →
      Finished config uuid5 desired remote s₁ s' := by
    intro hident
    have hrunOk : (executeSyncPlan (adapter config uuid5) (buildSyncPlan desired remote) true
        s₁).1.success = true := by
      rw [hrun]
      exact hok
    have hend := run_finished hstore hids hrep.mapped hident hrep.relationTypes hrunOk
    rwa [hrun] at hend
  constructor
  · intro hconv
    have hident := hconv.identity hids
    obtain ⟨remote', hread', hsettled⟩ := hconv
    have hstore' : readStore config s' = .ok remote' :=
      (readRemoteState_eq_ok.mp (Prod.ext hread' rfl)).2.1
    exact (hfinished hident).reconcilable hstore hids hident hstore' hsettled
  · intro hcond
    exact (hfinished hcond.identity).converges hstore hids hrep.mapped hfail hcond

end Main

section Warehouse
/-! Databases without schemas, mapped with short references. -/

def shortMappingConfig : CollibraMappingConfig where
  domainRef := "dom"
  assetTypeRefs := ⟨"db", "sc", "tb", "co"⟩
  relationTypeRefs := ⟨"ds", "st", "tc", "fk"⟩
  attributeTypeRefs := ⟨"li", "de", "ow", "dt", "nu", "op"⟩
  domainRef_nonblank := by decide
  assetTypeRefs_nonblank := by decide
  relationTypeRefs_nonblank := by decide
  attributeTypeRefs_nonblank := by decide

def bareDatabase (id name : String) (h : isBlank id = false) (h' : isBlank name = false) : Database :=
  ⟨id, name, "ds:w", [], .null, none, h, h', by decide, List.Pairwise.nil⟩

/-- A model of databases alone. -/
def bareModel (databases : List Database) (h : SortedBy Database.id databases) : GovernanceModel :=
  ⟨[⟨"ds:w", "wh", "sqlite", databases, .null, none, [], by decide, by decide, by decide, h⟩],
    [], List.cons_ne_nil _ _, List.pairwise_singleton _ _, List.Pairwise.nil⟩

/-- The desired asset of a database without schemas. -/
def bareAsset (id name : String) (h : isBlank id = false) (h' : isBlank name = false) :
    CollibraAssetSpec :=
  ⟨id, name, "db", "dom", some name, [⟨"li", id, by decide⟩], h, h', by decide, by decide,
    by simp [displayNamePresent, h'], List.pairwise_singleton _ _⟩

def warehouse : GovernanceModel :=
  bareModel [bareDatabase "db:w" "w" (by decide) (by decide)] (List.pairwise_singleton _ _)

def warehouseDesired : CollibraDesiredState :=
  CollibraDesiredState.create [bareAsset "db:w" "w" (by decide) (by decide)] []

def emptyStore : MockStore := ⟨Dict.empty, Dict.empty, none, 0, 0⟩

/-- The database as it was stored while it still had a description. -/
def describedStore : MockStore :=
  { emptyStore with
    assets := Dict.empty.set "r" ⟨"w", some "w", "db", "dom",
      (Dict.empty.set "li" ⟨"db:w", attrId 1 "r" "li"⟩).set "de" ⟨"sales", attrId 2 "r" "de"⟩⟩
    attrSeq := 2 }

/-- The identifier of the database's local id. -/
def warehouseUuid (_ : String) : BitVec 128 := 0x92a107aee7ac5475b8aaa21fbf7e9f07#128

example : (mapToDesiredState warehouse shortMappingConfig).toOption = some warehouseDesired := by decide +kernel

/-- Remote state of an empty store. -/
def nothingRemote : CollibraRemoteState := CollibraRemoteState.create [] [] 0 0

def branchSchema (id name : String) (h : isBlank id = false) (h' : isBlank name = false) : Schema :=
  ⟨id, name, "db:w", [], .null, none, h, h', (Eq.refl false), List.Pairwise.nil⟩

/-- A database with two schemas. -/
def branches : GovernanceModel :=
  bareModel [⟨"db:w", "w", "ds:w", [branchSchema "sch:n" "n" (Eq.refl false) (Eq.refl false),
      branchSchema "sch:s" "s" (Eq.refl false) (Eq.refl false)], .null, none, (Eq.refl false), (Eq.refl false),
      (Eq.refl false), by decide⟩]
    (List.pairwise_singleton _ _)

/-- The database under an old name, with the first of its schemas. -/
def branchStore : MockStore :=
  { emptyStore with
    assets := (Dict.empty.set
      "r-w" ⟨"old", some "old", "db", "dom", Dict.empty.set "li" ⟨"db:w", attrId 1 "r-w" "li"⟩⟩).set
      "r-n" ⟨"w.n", some "n", "sc", "dom", Dict.empty.set "li" ⟨"sch:n", attrId 2 "r-n" "li"⟩⟩
    relationships := Dict.empty.set (relId 0) ⟨"r-w", "r-n", "ds", "rel:contains:db:w->sch:n"⟩
    attrSeq := 2
    relSeq := 1 }

theorem branches_converge : ∃ desired remote, mapToDesiredState branches shortMappingConfig = .ok desired ∧
    readRemoteState shortMappingConfig branchStore = (.ok remote, branchStore) ∧
    (buildSyncPlan desired remote).actions.map (fun action => (action.actionType, action.localId)) =
      [(.create, some "sch:s"), (.create, some "rel:contains:db:w->sch:s"),
        (.unchanged, some "sch:n"), (.unchanged, some "rel:contains:db:w->sch:n"), (.update, some "db:w")] ∧
    Reconcilable shortMappingConfig warehouseUuid desired remote branchStore ∧
    Converges shortMappingConfig desired (executeSyncPlan (adapter shortMappingConfig warehouseUuid)
      (buildSyncPlan desired remote) true branchStore).2 := by
  have hrun : (mapToDesiredState branches shortMappingConfig).toOption.bind (fun desired =>
      (readStore shortMappingConfig branchStore).toOption.map fun remote =>
        let plan := buildSyncPlan desired remote
        let run := executeSyncPlan (adapter shortMappingConfig warehouseUuid) plan true branchStore
        (plan.actions.map (fun action => (action.actionType, action.localId)), run.1.success,
          (readRemoteState shortMappingConfig run.2).1.toOption.any (fun again =>
            decide (buildSyncPlan desired again).Settled))) =
      some ([(.create, some "sch:s"), (.create, some "rel:contains:db:w->sch:s"),
        (.unchanged, some "sch:n"), (.unchanged, some "rel:contains:db:w->sch:n"), (.update, some "db:w")],
        true, true) := by
    decide +kernel
  obtain ⟨desired, hmap, hrun⟩ := toOption_bind_eq_some.mp hrun
  obtain ⟨remote, hstore, hrun⟩ := toOption_map_eq_some.mp hrun
  have hread : readRemoteState shortMappingConfig branchStore = (.ok remote, branchStore) :=
    readRemoteState_eq_ok.mpr ⟨by decide, hstore, rfl⟩
  obtain ⟨hplan, hsuccess, hagain⟩ : _ ∧ _ ∧ _ := by simpa only [Prod.mk.injEq] using hrun
  have hconverges : Converges shortMappingConfig desired (executeSyncPlan (adapter shortMappingConfig warehouseUuid)
      (buildSyncPlan desired remote) true branchStore).2 := by
    obtain ⟨again, hagain, hsettled⟩ := (Option.any_eq_true _ _).mp hagain
    exact ⟨again, toOption_eq_some.mp hagain, of_decide_eq_true hsettled⟩
  exact ⟨desired, remote, hmap, hread, hplan, (sync_converges_iff hmap hread rfl hsuccess).mp hconverges, hconverges⟩

/-- A description that the model no longer has is reported as a change by every later plan. -/
theorem dropped_description_never_converges : ∃ remote,
    readRemoteState shortMappingConfig describedStore = (.ok remote, describedStore) ∧
    (executeSyncPlan (adapter shortMappingConfig warehouseUuid)
      (buildSyncPlan warehouseDesired remote) true describedStore).1.success = true ∧
    ¬ Converges shortMappingConfig warehouseDesired
      (executeSyncPlan (adapter shortMappingConfig warehouseUuid)
        (buildSyncPlan warehouseDesired remote) true describedStore).2 := by
  have hrun : (readStore shortMappingConfig describedStore).toOption.map (fun remote =>
      let run := executeSyncPlan (adapter shortMappingConfig warehouseUuid)
        (buildSyncPlan warehouseDesired remote) true describedStore
      run.1.success && (readRemoteState shortMappingConfig run.2).1.toOption.all (fun again =>
        decide (¬ (buildSyncPlan warehouseDesired again).Settled))) = some true := by
    decide +kernel
  obtain ⟨remote, hread, hrun⟩ := toOption_map_eq_some.mp hrun
  simp only [Bool.and_eq_true] at hrun
  refine ⟨remote, readRemoteState_eq_ok.mpr ⟨by decide, hread, rfl⟩, hrun.1, ?_⟩
  rintro ⟨again, hagain, hsettled⟩
  have hnot := hrun.2
  simp only [hagain, Except.toOption, Option.all_some, decide_eq_true_eq] at hnot
  exact hnot hsettled

end Warehouse

end CollibraGovernance.Collibra.MockCollibraAdapter
