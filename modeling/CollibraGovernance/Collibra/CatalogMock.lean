import CollibraGovernance.Collibra.CatalogRun
import CollibraGovernance.Collibra.MockSpec

/-! The mock as a catalog: its mutations act on the catalog that its store stands for, and a read shows that catalog. -/
namespace CollibraGovernance.Collibra.MockCollibraAdapter
open Library

section Catalog
variable (config : CollibraMappingConfig)

/-- What a catalog keeps of a stored asset. -/
def catalogAsset (a : StoredAsset) : CatalogAsset :=
  ⟨a.name, a.displayName, a.assetTypeRef, a.domainRef,
    fun t => if t ∈ config.attributeTypeRefs.values then valueAt a.attributes t else none⟩

def catalogLink (r : StoredRelationship) : CatalogLink := (r.sourceRemoteId, r.targetRemoteId, r.relationTypeRef)

/-- The catalog that a store stands for. -/
def catalog (s : MockStore) : Catalog :=
  ⟨fun id => (s.assets.get? id).map (catalogAsset config),
    Multiset.ofList (s.relationships.entries.map fun e => catalogLink e.2)⟩

/-- `update_asset` lays the desired values over the stored ones, and takes over an absent display name. -/
def patch : PatchRule := fun c a patchName patchDisplayName =>
  ⟨if patchName then a.name else c.name, if patchDisplayName then a.displayName else c.displayName, c.assetTypeRef,
    c.domainRef, fun t => (specValue config a t).or (c.value t)⟩

end Catalog

/-- The ids that the next relationships will get are not in use. -/
def Numbered (s : MockStore) : Prop := ∀ n, s.relSeq ≤ n → relId n ∉ s.relationships.keys

section Acts
variable {config : CollibraMappingConfig} {uuid5 : String → BitVec 128} {s s' : MockStore}

lemma numbered_of_eq (hs : Numbered s) (hrels : s'.relationships = s.relationships) (hseq : s'.relSeq = s.relSeq) :
    Numbered s' := by
  intro n hn
  rw [hrels]
  exact hs n (hseq ▸ hn)

lemma catalog_assets (id : String) : (catalog config s).assets id = (s.assets.get? id).map (catalogAsset config) := rfl

/-- One asset stored under an id is one asset put into the catalog. -/
lemma catalog_set {id : String} {a : StoredAsset} (hassets : s'.assets = s.assets.set id a)
    (hrels : s'.relationships = s.relationships) :
    catalog config s' = (catalog config s).put id (catalogAsset config a) := by
  rw [catalog, catalog, Catalog.put, hassets, hrels]
  congr 1
  funext id'
  rw [Dict.get?_set, Function.update_apply]
  split_ifs <;> rfl

lemma catalogAsset_created (a : CollibraAssetSpec) (seq : Nat) :
    catalogAsset config (createdAsset uuid5 a seq) = .ofSpec config a := by
  rw [catalogAsset, CatalogAsset.ofSpec]
  congr 1
  funext t
  rw [specValue, createdAsset, valueAt_storeAttributes]

/-- Attributes of managed types are laid over the stored ones, the others are passed over. -/
lemma valueAt_merge_managed (remoteId : String) (attributes : List CollibraAttributeSpec)
    (acc : Dict String StoredAttribute × Nat) {t : String} (ht : t ∈ config.attributeTypeRefs.values) :
    valueAt (attributes.foldl (mergeAttribute config remoteId) acc).1 t =
      ((attributeMap attributes).get? t).or (valueAt acc.1 t) := by
  induction attributes using List.reverseRecOn with
  | nil => rfl
  | append_singleton attributes a ih =>
    rw [List.foldl_append, List.foldl_cons, List.foldl_nil, attributeMap_append_singleton]
    by_cases ha : a.attributeTypeRef ∈ config.attributeTypeRefs.values
    · rw [valueAt_mergeAttribute _ _ ha, ih]
      split_ifs <;> rfl
    · rw [mergeAttribute, if_pos ha, ih, if_neg]
      intro heq
      exact ha (heq ▸ ht)

lemma catalogAsset_updated (id : String) (a : CollibraAssetSpec) (pn pd : Bool) (stored : StoredAsset) (seq : Nat) :
    catalogAsset config (updatedAsset config id a pn pd stored seq) =
      patch config (catalogAsset config stored) a pn pd := by
  rw [catalogAsset, patch]
  congr 1
  funext t
  rw [specValue, catalogAsset]
  by_cases ht : t ∈ config.attributeTypeRefs.values
  · simp only [if_pos ht]
    exact valueAt_merge_managed id a.attributes _ ht
  · simp only [if_neg ht]
    rfl

theorem mock_actsOn : ActsOn (adapter config uuid5) config (patch config) (catalog config) Numbered where
  create := by
    intro s s' a id hs h
    obtain ⟨rfl, hfresh, hassets, hrels, hseq, -⟩ := createAsset_ok h
    refine ⟨numbered_of_eq hs hrels hseq, ?_, ?_⟩
    · rw [catalog_assets, hfresh]
      rfl
    · rw [catalog_set hassets hrels, catalogAsset_created]
  update := by
    intro s s' a id pn pd c hs hc h
    obtain ⟨stored, hstored, hassets, hrels, hseq, -⟩ := updateAsset_ok h
    refine ⟨numbered_of_eq hs hrels hseq, ?_⟩
    rw [catalog_assets, hstored] at hc
    obtain rfl := Option.some.inj hc
    rw [catalog_set hassets hrels, catalogAsset_updated]
  link := by
    intro s s' rel source target id hs _ _ h
    obtain ⟨hrels, hassets, hseq, -⟩ := createRelationship_ok h
    constructor
    · intro n hn
      rw [hrels, Dict.mem_keys_set]
      rintro (hsame | hold)
      · have := relId_inj hsame
        omega
      · exact hs n (by omega) hold
    · rw [catalog, catalog, Catalog.link, hassets, hrels, Dict.entries_set_of_notMem _ (hs _ le_rfl), List.map_append]
      congr 1
      exact Multiset.coe_eq_coe.mpr (List.perm_append_singleton ..)

end Acts

section Shows
variable {config : CollibraMappingConfig} {s : MockStore} {remote : CollibraRemoteState}

lemma managedAs_catalogAsset (a : StoredAsset) :
    (catalogAsset config a).managedAs config = managedLocalId config a := by
  have hlocal : config.attributeTypeRefs.localId ∈ config.attributeTypeRefs.values := by
    simp [AttributeTypeRefs.values]
  unfold CatalogAsset.managedAs managedLocalId catalogAsset
  by_cases hdomain : a.domainRef = config.domainRef <;>
    by_cases htype : a.assetTypeRef ∈ config.assetTypeRefs.values <;> simp [hdomain, htype, hlocal, valueAt]

lemma localIdOf_catalog (id : String) : (catalog config s).localIdOf config id = remoteToLocal config s id := by
  unfold Catalog.localIdOf remoteToLocal
  rw [catalog_assets]
  cases s.assets.get? id with
  | none => rfl
  | some a => exact managedAs_catalogAsset a

lemma shownLink_catalog (r : StoredRelationship) : (catalog config s).shownLink config (catalogLink r) =
    (managedKey config s r).map fun k => (r.sourceRemoteId, r.targetRemoteId, k) := by
  unfold Catalog.shownLink managedKey catalogLink
  simp only [localIdOf_catalog]
  by_cases htype : r.relationTypeRef ∈ config.relationTypeRefs.values
  · rw [if_pos htype, if_neg (not_not.mpr htype)]
    cases remoteToLocal config s r.sourceRemoteId with
    | none => rfl
    | some source =>
      cases remoteToLocal config s r.targetRemoteId <;> rfl
  · rw [if_neg htype, if_pos htype]
    rfl

lemma readRelationship_view {e : String × StoredRelationship × String × String × String}
    (hkey : managedKey config s e.2.1 = some e.2.2) {r : CollibraRemoteRelationship} (h : readRelationship e = .ok r) :
    relationshipView r = (e.2.1.sourceRemoteId, e.2.1.targetRemoteId, e.2.2) := by
  obtain ⟨_, -, -, htype⟩ := managedKey_eq_some.mp hkey
  rw [relationshipView_create h, htype]

lemma readAsset_shows {id : String} {a : StoredAsset} {l : String} (hget : s.assets.get? id = some a)
    (hmanaged : managedLocalId config a = some l) {r : CollibraRemoteAsset} (h : readAsset config (id, a, l) = .ok r) :
    RecordShows config (catalog config s) r (catalogAsset config a) := by
  have hreads := readAsset_reads (e := (id, a, l)) hmanaged h
  have hid := (readAsset_ids (e := (id, a, l)) h).1
  obtain ⟨attributes, hattrs, h⟩ := bind_eq_ok.mp h
  obtain ⟨-, -, -, -, hmanagedAttributes⟩ := CollibraRemoteAsset.create_ok h
  refine ⟨?_, ?_, hreads.name, hreads.displayName, assetTypeRef_create h, ?_, fun t => ?_⟩
  · rw [catalog_assets, hid, hget]
    rfl
  · rw [managedAs_catalogAsset]
    exact hreads.managed
  · have htypes := mapM_map (fun _ _ hread => (readAttribute_ok hread).1) hattrs
    rw [hmanagedAttributes, ((sortBy_perm _ attributes).map _).nodup_iff, htypes]
    exact managedAttributes_nodup a
  · rw [hreads.attributes]
    split_ifs with ht
    · exact (if_pos ht).symm
    · rfl

lemma managedAssets_ids : (managedAssets config s).map Prod.fst =
    (s.assets.entries.filter fun e => (managedLocalId config e.2).isSome).map Prod.fst := by
  unfold managedAssets
  induction s.assets.entries with
  | nil => rfl
  | cons e rest ih =>
    cases hm : managedLocalId config e.2 <;> simp [hm, ih]

/-- A read of the mock shows the catalog of its store. -/
theorem shows_readStore (h : readStore config s = .ok remote) : Shows config (catalog config s) remote := by
  obtain ⟨assets, hassets, h⟩ := bind_eq_ok.mp h
  obtain ⟨rels, hrels, h⟩ := bind_eq_ok.mp h
  obtain rfl := pure_eq_ok.mp h
  obtain ⟨hfrom, hto⟩ := mapM_mem hassets
  refine ⟨?_, ?_, ?_, ?_⟩
  · have hids : assets.map CollibraRemoteAsset.remoteId = (managedAssets config s).map Prod.fst :=
      mapM_map (fun e r hr => (readAsset_ids hr).1) hassets
    change ((sortBy CollibraRemoteAsset.localId assets).map CollibraRemoteAsset.remoteId).Nodup
    rw [((sortBy_perm _ assets).map _).nodup_iff, hids, managedAssets_ids]
    exact (List.filter_sublist.map Prod.fst).nodup (Dict.keys_nodup _)
  · intro r hr
    obtain ⟨⟨id, a, l⟩, he, hread⟩ := hfrom r (mem_sortBy.mp hr)
    obtain ⟨hget, hmanaged⟩ := mem_managedAssets.mp he
    exact ⟨_, readAsset_shows hget hmanaged hread⟩
  · intro id l hl
    rw [localIdOf_catalog] at hl
    obtain ⟨a, hget, hmanaged⟩ := remoteToLocal_eq_some.mp hl
    obtain ⟨r, hr, hread⟩ := hto (id, a, l) (mem_managedAssets.mpr ⟨hget, hmanaged⟩)
    exact ⟨r, mem_sortBy.mpr hr, (readAsset_ids hread).1⟩
  · have hviews : rels.map relationshipView =
        (managedRelationships config s).map fun e => (e.2.1.sourceRemoteId, e.2.1.targetRemoteId, e.2.2) :=
      mapM_map_of_mem (fun e he r hr => readRelationship_view (mem_managedRelationships.mp he).2 hr) hrels
    have hstored : (managedRelationships config s).map (fun e => (e.2.1.sourceRemoteId, e.2.1.targetRemoteId, e.2.2)) =
        (s.relationships.entries.map fun e => catalogLink e.2).filterMap ((catalog config s).shownLink config) := by
      rw [managedRelationships, List.map_filterMap, List.filterMap_map]
      refine List.filterMap_congr fun e _ => ?_
      rw [Function.comp_apply, shownLink_catalog, Option.map_map]
      rfl
    change Multiset.ofList ((sortBy remoteRelationshipSortKey rels).map relationshipView) = _
    rw [Multiset.coe_eq_coe.mpr ((sortBy_perm _ rels).map _), hviews, hstored]
    exact (Multiset.filterMap_coe _ _).symm

end Shows

end CollibraGovernance.Collibra.MockCollibraAdapter
