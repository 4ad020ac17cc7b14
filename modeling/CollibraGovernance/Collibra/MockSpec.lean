import CollibraGovernance.Collibra.Mock

/-! What reading the mock shows of its store, and what each of its mutations changes. -/
namespace CollibraGovernance.Collibra
open Library

theorem CollibraRemoteRelationship.create_ok {remoteId sourceRemoteId targetRemoteId sourceLocalId
    targetLocalId relationTypeRef : String} {localKey : Option String}
    {r : CollibraRemoteRelationship} (h : create remoteId sourceRemoteId targetRemoteId
      sourceLocalId targetLocalId relationTypeRef localKey = .ok r) :
    r.remoteId = remoteId ∧ remoteKey r = (sourceLocalId, targetLocalId, relationTypeRef) := by
  obtain ⟨i, hi, h⟩ := bind_eq_ok.mp h
  obtain ⟨sr, hsr, h⟩ := bind_eq_ok.mp h
  obtain ⟨tr, htr, h⟩ := bind_eq_ok.mp h
  obtain ⟨sl, hsl, h⟩ := bind_eq_ok.mp h
  obtain ⟨tl, htl, h⟩ := bind_eq_ok.mp h
  obtain ⟨y, hy, h⟩ := bind_eq_ok.mp h
  cases pure_eq_ok.mp h
  simp only [remoteKey, requireNonEmpty_eq_ok hi, requireNonEmpty_eq_ok hsl,
    requireNonEmpty_eq_ok htl, requireNonEmpty_eq_ok hy, true_and]

namespace MockCollibraAdapter
variable {config : CollibraMappingConfig}

section Attributes

/-- The value a stored asset holds for an attribute type. -/
def valueAt (attributes : Dict String StoredAttribute) (t : String) : Option String :=
  (attributes.get? t).map StoredAttribute.value

theorem attributeMap_append_singleton (attributes : List CollibraAttributeSpec)
    (a : CollibraAttributeSpec) (t : String) :
    (attributeMap (attributes ++ [a])).get? t =
      if t = a.attributeTypeRef then some a.value else (attributeMap attributes).get? t := by
  unfold attributeMap
  rw [Dict.index_append_singleton, Dict.get?_set]

/-- A new asset stores exactly the desired attribute map. -/
theorem valueAt_storeAttributes (remoteId : String) (attributes : List CollibraAttributeSpec)
    (seq : Nat) (t : String) :
    valueAt (storeAttributes remoteId attributes seq).1 t = (attributeMap attributes).get? t := by
  induction attributes using List.reverseRecOn with
  | nil => rfl
  | append_singleton attributes a ih =>
    rw [attributeMap_append_singleton, ← ih]
    simp only [storeAttributes, List.foldl_append, List.foldl_cons, List.foldl_nil, valueAt,
      Dict.get?_set]
    split_ifs <;> rfl

theorem valueAt_mergeAttribute (remoteId : String) (acc : Dict String StoredAttribute × Nat)
    {a : CollibraAttributeSpec} (ha : a.attributeTypeRef ∈ config.attributeTypeRefs.values)
    (t : String) :
    valueAt (mergeAttribute config remoteId acc a).1 t =
      if t = a.attributeTypeRef then some a.value else valueAt acc.1 t := by
  unfold mergeAttribute
  rw [if_neg (not_not.mpr ha)]
  cases hg : acc.1.get? a.attributeTypeRef with
  | none =>
    simp only [valueAt, Dict.get?_set]
    split_ifs <;> rfl
  | some existing =>
    by_cases hv : existing.value = a.value
    · simp only [hv, ne_eq, not_true_eq_false, if_false]
      split_ifs with ht
      · rw [valueAt, ht, hg, Option.map_some, hv]
      · rfl
    · simp only [ne_eq, hv, not_false_eq_true, if_true, valueAt, Dict.get?_set]
      split_ifs <;> rfl

/-- An update lays the desired attribute map over the stored one and removes nothing. -/
theorem valueAt_merge (remoteId : String) (attributes : List CollibraAttributeSpec)
    (hattrs : ∀ a ∈ attributes, a.attributeTypeRef ∈ config.attributeTypeRefs.values)
    (acc : Dict String StoredAttribute × Nat) (t : String) :
    valueAt (attributes.foldl (mergeAttribute config remoteId) acc).1 t =
      ((attributeMap attributes).get? t).or (valueAt acc.1 t) := by
  induction attributes using List.reverseRecOn with
  | nil => rfl
  | append_singleton attributes a ih =>
    rw [List.foldl_append, List.foldl_cons, List.foldl_nil,
      valueAt_mergeAttribute _ _ (hattrs a (by simp)), attributeMap_append_singleton,
      ih (fun b hb => hattrs b (List.mem_append_left _ hb))]
    split_ifs <;> rfl

end Attributes

section ReadAsset

theorem readAttribute_ok {e : String × StoredAttribute} {a : CollibraRemoteAttribute}
    (h : readAttribute e = .ok a) : a.attributeTypeRef = e.1 ∧ a.value = e.2.value :=
  CollibraRemoteAttribute.create_ok h

theorem mem_managedAttributes {asset : StoredAsset} {e : String × StoredAttribute} :
    e ∈ managedAttributes config asset ↔
      asset.attributes.get? e.1 = some e.2 ∧ e.1 ∈ config.attributeTypeRefs.values := by
  rw [managedAttributes, List.mem_filter, mem_sortBy, Dict.get?_eq_some, decide_eq_true_eq]

theorem managedAttributes_nodup (asset : StoredAsset) :
    ((managedAttributes config asset).map Prod.fst).Nodup := by
  have hsorted : ((sortBy Prod.fst asset.attributes.entries).map Prod.fst).Nodup :=
    ((sortBy_perm Prod.fst asset.attributes.entries).map Prod.fst).nodup_iff.mpr asset.attributes.nodup
  exact hsorted.sublist (List.filter_sublist.map _)

/-- A read shows the stored values of the managed attribute types. -/
theorem remoteAttributeMap_read {asset : StoredAsset} {attributes : List CollibraRemoteAttribute}
    (h : (managedAttributes config asset).mapM readAttribute = .ok attributes) (t : String) :
    (remoteAttributeMap (sortBy CollibraRemoteAttribute.attributeTypeRef attributes)).get? t =
      if t ∈ config.attributeTypeRefs.values then valueAt asset.attributes t else none := by
  have htypes : attributes.map CollibraRemoteAttribute.attributeTypeRef =
      (managedAttributes config asset).map Prod.fst :=
    mapM_map (fun _ _ hread => (readAttribute_ok hread).1) h
  have hnodup : ((sortBy CollibraRemoteAttribute.attributeTypeRef attributes).map
      CollibraRemoteAttribute.attributeTypeRef).Nodup := by
    rw [((sortBy_perm _ attributes).map _).nodup_iff, htypes]
    exact managedAttributes_nodup asset
  obtain ⟨hfrom, hto⟩ := mapM_mem h
  unfold remoteAttributeMap
  by_cases ht : t ∈ config.attributeTypeRefs.values ∧ (asset.attributes.get? t).isSome
  · obtain ⟨htype, hsome⟩ := ht
    obtain ⟨stored, hstored⟩ := Option.isSome_iff_exists.mp hsome
    obtain ⟨a, ha, hread⟩ := hto (t, stored) (mem_managedAttributes.mpr ⟨hstored, htype⟩)
    obtain ⟨href, hvalue⟩ := readAttribute_ok hread
    have hindex : (Dict.index CollibraRemoteAttribute.attributeTypeRef CollibraRemoteAttribute.value
        (sortBy CollibraRemoteAttribute.attributeTypeRef attributes)).get? a.attributeTypeRef =
          some a.value :=
      Dict.get?_index_of_nodup hnodup (mem_sortBy.mpr ha)
    rw [href] at hindex
    rw [hindex, if_pos htype, valueAt, hstored, hvalue]
    rfl
  · have hnone : (Dict.index CollibraRemoteAttribute.attributeTypeRef CollibraRemoteAttribute.value
        (sortBy CollibraRemoteAttribute.attributeTypeRef attributes)).get? t = none := by
      rw [Dict.get?_eq_none, Dict.mem_keys_index]
      rintro ⟨a, ha, rfl⟩
      obtain ⟨e, he, hread⟩ := hfrom a (mem_sortBy.mp ha)
      rw [(readAttribute_ok hread).1] at ht
      obtain ⟨hstored, htype⟩ := mem_managedAttributes.mp he
      exact ht ⟨htype, by rw [hstored]; rfl⟩
    rw [hnone]
    split_ifs with htype
    · have hmiss : asset.attributes.get? t = none := by
        simpa [htype] using ht
      rw [valueAt, hmiss]
      rfl
    · rfl

/-- The record of a managed asset agrees with the store. -/
structure ReadsAs (config : CollibraMappingConfig) (asset : StoredAsset)
    (r : CollibraRemoteAsset) : Prop where
  managed : managedLocalId config asset = some r.localId
  name : r.name = asset.name
  displayName : r.displayName = asset.displayName
  attributes : ∀ t, (remoteAttributeMap r.managedAttributes).get? t =
    if t ∈ config.attributeTypeRefs.values then valueAt asset.attributes t else none

theorem readAsset_ids {e : String × StoredAsset × String} {r : CollibraRemoteAsset}
    (h : readAsset config e = .ok r) : r.remoteId = e.1 ∧ r.localId = e.2.2 := by
  obtain ⟨attributes, hattrs, h⟩ := bind_eq_ok.mp h
  obtain ⟨hid, hlocal, -⟩ := CollibraRemoteAsset.create_ok h
  exact ⟨hid, hlocal⟩

theorem readAsset_reads {e : String × StoredAsset × String} {r : CollibraRemoteAsset}
    (hmanaged : managedLocalId config e.2.1 = some e.2.2) (h : readAsset config e = .ok r) :
    ReadsAs config e.2.1 r := by
  obtain ⟨attributes, hattrs, h⟩ := bind_eq_ok.mp h
  obtain ⟨-, hlocal, hname, hdisplay, hmap⟩ := CollibraRemoteAsset.create_ok h
  refine ⟨by rw [hmanaged, hlocal], hname, hdisplay, fun t => ?_⟩
  rw [hmap]
  exact remoteAttributeMap_read hattrs t

theorem managedLocalId_eq_some {asset : StoredAsset} {l : String} :
    managedLocalId config asset = some l ↔ asset.domainRef = config.domainRef ∧
      asset.assetTypeRef ∈ config.assetTypeRefs.values ∧
      valueAt asset.attributes config.attributeTypeRefs.localId = some l ∧ isBlank l = false := by
  unfold managedLocalId valueAt
  by_cases hd : asset.domainRef = config.domainRef
  · by_cases ht : asset.assetTypeRef ∈ config.assetTypeRefs.values
    · simp only [hd, ht, ne_eq, not_true_eq_false, if_false, Option.filter_eq_some_iff, true_and,
        Bool.not_eq_true']
    · simp [ht]
  · simp [hd]

theorem exists_readAsset {e : String × StoredAsset × String}
    (hmanaged : managedLocalId config e.2.1 = some e.2.2) (hid : isBlank e.1 = false)
    (hname : isBlank e.2.1.name = false) : ∃ r, readAsset config e = .ok r := by
  obtain ⟨hdomain, htype, -, hlocal⟩ := managedLocalId_eq_some.mp hmanaged
  have hread : ∀ x ∈ managedAttributes config e.2.1, ∃ a, readAttribute x = .ok a := by
    intro x hx
    have hx := config.attributeTypeRefs_nonblank _ (mem_managedAttributes.mp hx).2
    exact ⟨_, bind_eq_ok.mpr ⟨_, requireNonEmpty_ok _ hx, rfl⟩⟩
  obtain ⟨attributes, hattrs⟩ := exists_mapM_ok hread
  have htype := config.assetTypeRefs_nonblank _ htype
  have hdomain : isBlank e.2.1.domainRef = false := by rw [hdomain]; exact config.domainRef_nonblank
  exact ⟨_, bind_eq_ok.mpr ⟨_, hattrs, bind_eq_ok.mpr ⟨_, requireNonEmpty_ok _ hid,
    bind_eq_ok.mpr ⟨_, requireNonEmpty_ok _ hlocal, bind_eq_ok.mpr ⟨_, requireNonEmpty_ok _ hname,
      bind_eq_ok.mpr ⟨_, requireNonEmpty_ok _ htype,
        bind_eq_ok.mpr ⟨_, requireNonEmpty_ok _ hdomain, rfl⟩⟩⟩⟩⟩⟩⟩

end ReadAsset

section ReadStore
variable {s : MockStore} {remote : CollibraRemoteState}

/-- The remote id under which a local id is found: the last managed asset that carries it. -/
def holder (config : CollibraMappingConfig) (s : MockStore) (l : String) : Option String :=
  ((s.assets.entries.filter (fun e => managedLocalId config e.2 = some l)).getLast?).map Prod.fst

theorem mem_managedAssets {e : String × StoredAsset × String} :
    e ∈ managedAssets config s ↔
      s.assets.get? e.1 = some e.2.1 ∧ managedLocalId config e.2.1 = some e.2.2 := by
  obtain ⟨id, asset, l⟩ := e
  simp only [managedAssets, List.mem_filterMap, Option.map_eq_some_iff, Dict.get?_eq_some]
  constructor
  · rintro ⟨x, hx, l', hl, heq⟩
    cases heq
    exact ⟨hx, hl⟩
  · rintro ⟨hx, hl⟩
    exact ⟨(id, asset), hx, l, hl, rfl⟩

theorem mem_managedRelationships {e : String × StoredRelationship × String × String × String} :
    e ∈ managedRelationships config s ↔
      s.relationships.get? e.1 = some e.2.1 ∧ managedKey config s e.2.1 = some e.2.2 := by
  obtain ⟨id, rel, k⟩ := e
  simp only [managedRelationships, List.mem_filterMap, Option.map_eq_some_iff, Dict.get?_eq_some]
  constructor
  · rintro ⟨x, hx, k', hk, heq⟩
    cases heq
    exact ⟨hx, hk⟩
  · rintro ⟨hx, hk⟩
    exact ⟨(id, rel), hx, k, hk, rfl⟩

theorem managedKey_eq_some {rel : StoredRelationship} {k : String × String × String} :
    managedKey config s rel = some k ↔ rel.relationTypeRef ∈ config.relationTypeRefs.values ∧
      remoteToLocal config s rel.sourceRemoteId = some k.1 ∧
      remoteToLocal config s rel.targetRemoteId = some k.2.1 ∧ rel.relationTypeRef = k.2.2 := by
  obtain ⟨source, target, type⟩ := k
  unfold managedKey
  by_cases ht : rel.relationTypeRef ∈ config.relationTypeRefs.values
  · rw [if_neg (not_not.mpr ht)]
    cases remoteToLocal config s rel.sourceRemoteId <;>
      cases remoteToLocal config s rel.targetRemoteId <;> simp [ht]
  · simp [ht]

theorem readRelationship_ok {e : String × StoredRelationship × String × String × String}
    {r : CollibraRemoteRelationship} (h : readRelationship e = .ok r) :
    r.remoteId = e.1 ∧ remoteKey r = (e.2.2.1, e.2.2.2.1, e.2.1.relationTypeRef) :=
  CollibraRemoteRelationship.create_ok h

lemma filter_localId (es : List (String × StoredAsset)) (l : String) :
    ((es.filterMap (fun e => (managedLocalId config e.2).map (fun l => (e.1, e.2, l)))).filter
        (fun e => e.2.2 = l)).map Prod.fst =
      (es.filter (fun e => managedLocalId config e.2 = some l)).map Prod.fst := by
  induction es with
  | nil => rfl
  | cons e rest ih =>
    cases hm : managedLocalId config e.2 with
    | none => simpa [hm] using ih
    | some l' =>
      by_cases hl : l' = l
      · subst hl
        simpa [hm] using ih
      · simpa [hm, hl] using ih

/-- The planner finds every local id at its holder. -/
theorem remoteAssetIndex_holder (h : readStore config s = .ok remote) (l : String) :
    ((remoteAssetIndex remote).get? l).map CollibraRemoteAsset.remoteId = holder config s l := by
  obtain ⟨assets, hassets, h⟩ := bind_eq_ok.mp h
  obtain ⟨rels, hrels, h⟩ := bind_eq_ok.mp h
  cases pure_eq_ok.mp h
  have hids : assets.map (fun r => (r.remoteId, r.localId)) =
      (managedAssets config s).map (fun e => (e.1, e.2.2)) :=
    mapM_map (fun e r hr => by rw [(readAsset_ids hr).1, (readAsset_ids hr).2]) hassets
  have hread : (assets.filter (fun r => r.localId = l)).map CollibraRemoteAsset.remoteId =
      ((assets.map (fun r => (r.remoteId, r.localId))).filter (fun p => p.2 = l)).map Prod.fst := by
    rw [List.filter_map, List.map_map]
    rfl
  have hstore : ((managedAssets config s).filter (fun e => e.2.2 = l)).map Prod.fst =
      (((managedAssets config s).map (fun e => (e.1, e.2.2))).filter (fun p => p.2 = l)).map
        Prod.fst := by
    rw [List.filter_map, List.map_map]
    rfl
  have hlist : (assets.filter (fun r => r.localId = l)).map CollibraRemoteAsset.remoteId =
      (s.assets.entries.filter (fun e => managedLocalId config e.2 = some l)).map Prod.fst := by
    rw [hread, hids, ← hstore]
    exact filter_localId s.assets.entries l
  unfold remoteAssetIndex holder CollibraRemoteState.create
  rw [Dict.get?_index, filter_key_sortBy, Option.map_map, Function.comp_id,
    ← List.getLast?_map, hlist, List.getLast?_map]

theorem readStore_asset (h : readStore config s = .ok remote) {r : CollibraRemoteAsset}
    (hr : r ∈ remote.assets) :
    ∃ asset, s.assets.get? r.remoteId = some asset ∧ ReadsAs config asset r := by
  obtain ⟨assets, hassets, h⟩ := bind_eq_ok.mp h
  obtain ⟨rels, hrels, h⟩ := bind_eq_ok.mp h
  cases pure_eq_ok.mp h
  obtain ⟨e, he, hread⟩ := (mapM_mem hassets).1 r (mem_sortBy.mp hr)
  obtain ⟨hget, hmanaged⟩ := mem_managedAssets.mp he
  exact ⟨e.2.1, by rw [(readAsset_ids hread).1, hget], readAsset_reads hmanaged hread⟩

theorem readStore_managed (h : readStore config s = .ok remote) {id : String} {asset : StoredAsset}
    {l : String} (hget : s.assets.get? id = some asset) (hl : managedLocalId config asset = some l) :
    isBlank id = false ∧ isBlank asset.name = false := by
  obtain ⟨assets, hassets, h⟩ := bind_eq_ok.mp h
  obtain ⟨r, -, hread⟩ := (mapM_mem hassets).2 (id, asset, l) (mem_managedAssets.mpr ⟨hget, hl⟩)
  have hid : r.remoteId = id := (readAsset_ids hread).1
  have hname : r.name = asset.name := (readAsset_reads hl hread).name
  rw [← hid, ← hname]
  exact ⟨r.remoteId_nonblank, r.name_nonblank⟩

theorem readStore_relationship (h : readStore config s = .ok remote)
    {r : CollibraRemoteRelationship} (hr : r ∈ remote.relationships) :
    ∃ rel, s.relationships.get? r.remoteId = some rel ∧
      managedKey config s rel = some (remoteKey r) := by
  obtain ⟨assets, hassets, h⟩ := bind_eq_ok.mp h
  obtain ⟨rels, hrels, h⟩ := bind_eq_ok.mp h
  cases pure_eq_ok.mp h
  obtain ⟨e, he, hread⟩ := (mapM_mem hrels).1 r (mem_sortBy.mp hr)
  obtain ⟨hget, hkey⟩ := mem_managedRelationships.mp he
  obtain ⟨hid, hk⟩ := readRelationship_ok hread
  refine ⟨e.2.1, by rw [hid, hget], ?_⟩
  rw [hkey, hk, (managedKey_eq_some.mp hkey).2.2.2]

theorem exists_readStore_relationship (h : readStore config s = .ok remote) {id : String}
    {rel : StoredRelationship} {k : String × String × String}
    (hget : s.relationships.get? id = some rel) (hk : managedKey config s rel = some k) :
    ∃ r ∈ remote.relationships, r.remoteId = id ∧ remoteKey r = k := by
  obtain ⟨assets, hassets, h⟩ := bind_eq_ok.mp h
  obtain ⟨rels, hrels, h⟩ := bind_eq_ok.mp h
  cases pure_eq_ok.mp h
  obtain ⟨r, hr, hread⟩ := (mapM_mem hrels).2 (id, rel, k) (mem_managedRelationships.mpr ⟨hget, hk⟩)
  obtain ⟨hid, hkey⟩ := readRelationship_ok hread
  refine ⟨r, mem_sortBy.mpr hr, hid, ?_⟩
  rw [hkey, (managedKey_eq_some.mp hk).2.2.2]

/-- The planner finds a relationship exactly when a managed one with its key is stored. -/
theorem mem_remoteRelationshipIndex_keys (h : readStore config s = .ok remote)
    {k : String × String × String} :
    k ∈ (remoteRelationshipIndex remote).keys ↔
      ∃ id rel, s.relationships.get? id = some rel ∧ managedKey config s rel = some k := by
  unfold remoteRelationshipIndex
  rw [Dict.mem_keys_index]
  constructor
  · rintro ⟨r, hr, rfl⟩
    obtain ⟨rel, hget, hkey⟩ := readStore_relationship h hr
    exact ⟨r.remoteId, rel, hget, hkey⟩
  · rintro ⟨id, rel, hget, hkey⟩
    obtain ⟨r, hr, -, hk⟩ := exists_readStore_relationship h hget hkey
    exact ⟨r, hr, hk⟩

lemma remoteToLocal_eq_some {id l : String} : remoteToLocal config s id = some l ↔
    ∃ asset, s.assets.get? id = some asset ∧ managedLocalId config asset = some l :=
  Option.bind_eq_some_iff

/-- A store can be read when no managed record of it has a blank id or name. -/
theorem exists_readStore
    (hassets : ∀ id asset l, s.assets.get? id = some asset →
      managedLocalId config asset = some l → isBlank id = false ∧ isBlank asset.name = false)
    (hrels : ∀ id rel k, s.relationships.get? id = some rel →
      managedKey config s rel = some k → isBlank id = false) :
    ∃ remote, readStore config s = .ok remote := by
  have endpoint : ∀ id l, remoteToLocal config s id = some l →
      isBlank id = false ∧ isBlank l = false := by
    intro id l hl
    obtain ⟨asset, hget, hmanaged⟩ := remoteToLocal_eq_some.mp hl
    exact ⟨(hassets id asset l hget hmanaged).1, (managedLocalId_eq_some.mp hmanaged).2.2.2⟩
  have readable : ∀ e ∈ managedAssets config s, ∃ r, readAsset config e = .ok r := by
    intro e he
    obtain ⟨hget, hmanaged⟩ := mem_managedAssets.mp he
    obtain ⟨hid, hname⟩ := hassets _ _ _ hget hmanaged
    exact exists_readAsset hmanaged hid hname
  have linkable : ∀ e ∈ managedRelationships config s, ∃ r, readRelationship e = .ok r := by
    intro e he
    obtain ⟨hget, hkey⟩ := mem_managedRelationships.mp he
    obtain ⟨htype, hsource, htarget, -⟩ := managedKey_eq_some.mp hkey
    obtain ⟨hs, hsl⟩ := endpoint _ _ hsource
    obtain ⟨ht, htl⟩ := endpoint _ _ htarget
    have hid := hrels _ _ _ hget hkey
    have htype := config.relationTypeRefs_nonblank _ htype
    exact ⟨_, bind_eq_ok.mpr ⟨_, requireNonEmpty_ok _ hid, bind_eq_ok.mpr ⟨_,
      requireNonEmpty_ok _ hs, bind_eq_ok.mpr ⟨_, requireNonEmpty_ok _ ht, bind_eq_ok.mpr ⟨_,
        requireNonEmpty_ok _ hsl, bind_eq_ok.mpr ⟨_, requireNonEmpty_ok _ htl,
          bind_eq_ok.mpr ⟨_, requireNonEmpty_ok _ htype, rfl⟩⟩⟩⟩⟩⟩⟩
  obtain ⟨as, has⟩ := exists_mapM_ok readable
  obtain ⟨rs, hrs⟩ := exists_mapM_ok linkable
  exact ⟨_, bind_eq_ok.mpr ⟨_, has, bind_eq_ok.mpr ⟨_, hrs, rfl⟩⟩⟩

/-- A read that succeeds leaves the store alone. -/
theorem readRemoteState_eq_ok {s' : MockStore} :
    readRemoteState config s = (.ok remote, s') ↔
      s.failNext ≠ some "read_remote_state" ∧ readStore config s = .ok remote ∧ s' = s := by
  unfold readRemoteState maybeFail
  by_cases hf : s.failNext = some "read_remote_state"
  · simp [hf]
  · simp only [hf, if_false, ne_eq, not_false_eq_true, true_and]
    cases hr : readStore config s with
    | error m => simp
    | ok r =>
      simp only [Prod.mk.injEq, Except.ok.injEq]
      exact ⟨fun h => ⟨h.1, h.2.symm⟩, fun h => ⟨h.1, h.2.symm⟩⟩

end ReadStore

section Operations
variable {uuid5 : String → BitVec 128} {s s' : MockStore}

/-- What `create_asset` stores for a desired asset. -/
def createdAsset (uuid5 : String → BitVec 128) (asset : CollibraAssetSpec) (seq : Nat) :
    StoredAsset :=
  ⟨asset.name, asset.displayName, asset.assetTypeRef, asset.domainRef,
    (storeAttributes (mockRemoteId uuid5 asset.localId) asset.attributes seq).1⟩

/-- What `update_asset` makes of a stored asset. -/
def updatedAsset (config : CollibraMappingConfig) (remoteId : String) (asset : CollibraAssetSpec)
    (patchName patchDisplayName : Bool) (stored : StoredAsset) (seq : Nat) : StoredAsset :=
  { stored with
    name := if patchName then asset.name else stored.name
    displayName := if patchDisplayName then asset.displayName else stored.displayName
    attributes := (asset.attributes.foldl (mergeAttribute config remoteId)
      (stored.attributes, seq)).1 }

theorem createAsset_ok {asset : CollibraAssetSpec} {remoteId : String}
    (h : createAsset uuid5 asset s = (.ok remoteId, s')) :
    remoteId = mockRemoteId uuid5 asset.localId ∧ s.assets.get? remoteId = none ∧
      s'.assets = s.assets.set remoteId (createdAsset uuid5 asset s.attrSeq) ∧
      s'.relationships = s.relationships ∧ s'.relSeq = s.relSeq ∧ s'.failNext = s.failNext := by
  unfold createAsset maybeFail at h
  by_cases hf : s.failNext = some "create_asset"
  · simp [hf] at h
  · simp only [hf, if_false] at h
    by_cases hc : s.assets.contains (mockRemoteId uuid5 asset.localId) = true
    · simp [hc] at h
    · simp only [hc, Bool.false_eq_true, if_false, Prod.mk.injEq, Except.ok.injEq] at h
      obtain ⟨rfl, rfl⟩ := h
      refine ⟨rfl, ?_, rfl, rfl, rfl, rfl⟩
      rw [Dict.get?_eq_none, ← Dict.contains_iff]
      exact hc

theorem updateAsset_ok {remoteId : String} {asset : CollibraAssetSpec} {pn pd : Bool} {u : Unit}
    (h : updateAsset config remoteId asset pn pd s = (.ok u, s')) :
    ∃ stored, s.assets.get? remoteId = some stored ∧
      s'.assets = s.assets.set remoteId
        (updatedAsset config remoteId asset pn pd stored s.attrSeq) ∧
      s'.relationships = s.relationships ∧ s'.relSeq = s.relSeq ∧ s'.failNext = s.failNext := by
  unfold updateAsset maybeFail at h
  by_cases hf : s.failNext = some "update_asset"
  · simp [hf] at h
  · simp only [hf, if_false] at h
    cases hg : s.assets.get? remoteId with
    | none => simp [hg] at h
    | some stored =>
      simp only [hg, Prod.mk.injEq] at h
      obtain ⟨-, rfl⟩ := h
      exact ⟨stored, rfl, rfl, rfl, rfl, rfl⟩

theorem createRelationship_ok {rel : CollibraRelationshipSpec} {source target remoteId : String}
    (h : createRelationship rel source target s = (.ok remoteId, s')) :
    s'.relationships = s.relationships.set (relId s.relSeq)
        ⟨source, target, rel.relationTypeRef, some rel.localKey⟩ ∧
      s'.assets = s.assets ∧ s'.relSeq = s.relSeq + 1 ∧ s'.failNext = s.failNext := by
  unfold createRelationship maybeFail at h
  by_cases hf : s.failNext = some "create_relationship"
  · simp [hf] at h
  · simp only [hf, if_false] at h
    split at h
    · cases h
    · cases h
      exact ⟨rfl, rfl, rfl, rfl⟩

theorem relId_nonblank (n : Nat) : isBlank (relId n) = false :=
  isBlank_append_eq_false_left (by decide)

theorem relId_inj {m n : Nat} (h : relId m = relId n) : m = n := by
  unfold relId at h
  exact toString_inj (String.append_right_inj _ |>.mp h)

theorem mockRemoteId_nonblank (localId : String) : isBlank (mockRemoteId uuid5 localId) = false :=
  uuidText_nonblank _

end Operations

end MockCollibraAdapter
end CollibraGovernance.Collibra
