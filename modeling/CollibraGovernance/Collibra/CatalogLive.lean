import CollibraGovernance.Collibra.CatalogRun
import CollibraGovernance.Collibra.LiveSpec
import CollibraGovernance.Library.JoinedNames

/-! The live server as a catalog: the calls of the adapter act on the catalog that the server stands for, and a read
shows that catalog. -/
namespace CollibraGovernance.Collibra.LiveCollibraAdapter
open Library

section Catalog
variable (config : CollibraMappingConfig)

/-- The value that a read finds for a managed type: the one listed last. -/
def listedValue (s : LiveServer) (assetId t : String) : Option String :=
  if t ∈ config.attributeTypeRefs.values then (listedValues s assetId t).getLast? else none

/-- What a catalog keeps of an asset of the server. -/
def catalogAsset (s : LiveServer) (a : LiveAsset) : CatalogAsset :=
  ⟨a.name, optionalStr a.displayName, a.typeId, a.domainId, listedValue config s a.id⟩

def catalogLink (r : LiveRelation) : CatalogLink := (r.sourceId, r.targetId, r.typeId)

/-- The catalog that a server stands for. -/
def catalog (s : LiveServer) : Catalog :=
  ⟨fun id => (s.assets.find? (fun a => a.id = id)).map (catalogAsset config s),
    Multiset.ofList (s.relations.map catalogLink)⟩

/-- The values that desired attributes list for a type, in order. -/
def specValues (attributes : List CollibraAttributeSpec) (t : String) : List String :=
  (attributes.filter (fun x => x.attributeTypeRef = t)).map CollibraAttributeSpec.value

/-- One value of an update: it is written unless it is what the asset had before the update. -/
def overlaid (old current : Option String) (v : String) : Option String := if old = some v then current else some v

/-- `update_asset` compares with what the asset had before, and keeps a display name where none is desired. -/
def patch : PatchRule := fun c a patchName patchDisplayName =>
  ⟨if patchName then a.name else c.name, (if patchDisplayName then a.displayName else none) <|> c.displayName,
    c.assetTypeRef, c.domainRef,
    fun t => if t ∈ config.attributeTypeRefs.values then (specValues a.attributes t).foldl (overlaid (c.value t)) (c.value t)
      else c.value t⟩

end Catalog

/-- A server keeps its records under distinct ids, none of them empty. -/
structure Kept (s : LiveServer) : Prop where
  assets : (s.assets.map LiveAsset.id).Nodup
  attributes : (s.attributes.map LiveAttribute.id).Nodup
  relations : (s.relations.map LiveRelation.id).Nodup
  asset_named : "" ∉ s.assets.map LiveAsset.id
  relation_named : "" ∉ s.relations.map LiveRelation.id

section Lookup
variable {config : CollibraMappingConfig} {s : LiveServer}

lemma catalog_assets (id : String) : (catalog config s).assets id =
    (s.assets.find? (fun a => a.id = id)).map (catalogAsset config s) := rfl

lemma find?_asset {id : String} {a : LiveAsset} (h : s.assets.find? (fun a => a.id = id) = some a) :
    a ∈ s.assets ∧ a.id = id := ⟨List.mem_of_find?_eq_some h, by simpa using List.find?_some h⟩

lemma catalog_assets_eq_some {id : String} {c : CatalogAsset} (h : (catalog config s).assets id = some c) :
    ∃ a ∈ s.assets, a.id = id ∧ catalogAsset config s a = c := by
  obtain ⟨a, hfind, hc⟩ := Option.map_eq_some_iff.mp h
  exact ⟨a, (find?_asset hfind).1, (find?_asset hfind).2, hc⟩

lemma catalog_assets_of_mem (hkept : (s.assets.map LiveAsset.id).Nodup) {a : LiveAsset} (ha : a ∈ s.assets) :
    (catalog config s).assets a.id = some (catalogAsset config s a) := by
  obtain ⟨a', hfind⟩ := Option.isSome_iff_exists.mp
    (List.find?_isSome (p := fun x : LiveAsset => x.id = a.id) |>.mpr ⟨a, ha, by simp⟩)
  obtain ⟨ha', hid⟩ := find?_asset hfind
  rw [catalog_assets, hfind, List.inj_on_of_nodup_map hkept ha' ha hid]
  rfl

lemma catalog_assets_eq_none {id : String} (h : ∀ a ∈ s.assets, a.id ≠ id) : (catalog config s).assets id = none := by
  rw [catalog_assets, List.find?_eq_none.mpr fun a ha => by simpa using h a ha]
  rfl

/-- A server whose catalog differs at one id only. -/
lemma catalog_eq_put {s' : LiveServer} {id : String} {c : CatalogAsset} (hself : (catalog config s').assets id = some c)
    (hother : ∀ id', id' ≠ id → (catalog config s').assets id' = (catalog config s).assets id')
    (hrelations : s'.relations = s.relations) : catalog config s' = (catalog config s).put id c := by
  rw [Catalog.put, catalog, catalog, hrelations]
  congr 1
  funext id'
  rw [Function.update_apply]
  split_ifs with hid
  · rw [hid]
    exact hself
  · exact hother id' hid

lemma optionalStr_nonblank {d : Option String} (h : displayNamePresent d = true) : optionalStr d = d := by
  cases d with
  | none => rfl
  | some text =>
    simp only [displayNamePresent, Option.all_some] at h
    simp [optionalStr, Option.filter, h]

end Lookup

section Create
variable {config : CollibraMappingConfig} {ids : IdSource} {fault : CollibraAdapterError}

lemma kept_postAttribute {s : LiveServer} (h : Kept s) (assetId t v : String) :
    Kept (postAttribute ids s assetId t v) := by
  refine ⟨h.assets, ?_, h.relations, h.asset_named, h.relation_named⟩
  rw [postAttribute, List.map_append, List.nodup_append]
  refine ⟨h.attributes, List.nodup_singleton _, ?_⟩
  rintro x hx y hy rfl
  rw [List.map_singleton, List.mem_singleton] at hy
  apply ids.fresh s.ids
  change x = ids.pick s.ids at hy
  rw [← hy]
  simp only [LiveServer.ids, List.mem_append]
  exact .inl (.inl (.inr hx))

lemma kept_postAttributes {s : LiveServer} (h : Kept s) (assetId : String) (attributes : List CollibraAttributeSpec) :
    Kept (postAttributes ids assetId attributes s) := by
  induction attributes generalizing s with
  | nil => exact h
  | cons a rest ih => exact ih (kept_postAttribute h assetId a.attributeTypeRef a.value)

lemma kept_post {s : LiveSession} (h : Kept s.server) (a : CollibraAssetSpec) :
    Kept (post ids s (a, a.attributes)).server := by
  obtain ⟨hfresh, -⟩ := @pick_fresh ids s.server
  rw [post]
  refine kept_postAttributes (s := { s.server with assets := s.server.assets ++ [newAsset ids s.server a] })
    ⟨?_, h.attributes, h.relations, ?_, h.relation_named⟩ _ _
  · rw [List.map_append, List.nodup_append]
    refine ⟨h.assets, List.nodup_singleton _, ?_⟩
    rintro x hx y hy rfl
    obtain ⟨item, hitem, rfl⟩ := List.mem_map.mp hx
    exact hfresh item hitem (List.mem_singleton.mp hy)
  · rw [List.map_append, List.mem_append]
    rintro (hold | hnew)
    · exact h.asset_named hold
    · exact ne_empty_of_not_blank (ids.nonblank _) (List.mem_singleton.mp hnew).symm

/-- A create that succeeds has posted the asset and all of its attributes. -/
lemma createAsset_ok {a : CollibraAssetSpec} {id : String} {s s' : LiveSession}
    (h : createAsset ids fault a s = (.ok id, s')) :
    id = ids.pick s.server.ids ∧ s'.server = (post ids s (a, a.attributes)).server := by
  cases hn : s.remaining with
  | none =>
    rw [createAsset_unlimited a s hn] at h
    obtain ⟨hid, rfl⟩ := Prod.mk.inj h
    exact ⟨(Except.ok.inj hid).symm, rfl⟩
  | some n =>
    cases n with
    | zero =>
      rw [createAsset_exhausted a s hn] at h
      cases (Prod.mk.inj h).1
    | succ n =>
      rw [createAsset_budget a s n hn] at h
      split_ifs at h
      · cases (Prod.mk.inj h).1
      · obtain ⟨hid, rfl⟩ := Prod.mk.inj h
        exact ⟨(Except.ok.inj hid).symm, rfl⟩

/-- The posts of a new asset put it into the catalog. -/
lemma catalog_post {s : LiveSession} (h : Kept s.server) (a : CollibraAssetSpec) :
    (catalog config s.server).assets (ids.pick s.server.ids) = none ∧
      catalog config (post ids s (a, a.attributes)).server =
        (catalog config s.server).put (ids.pick s.server.ids) (.ofSpec config a) := by
  obtain ⟨added, hserver, hadded⟩ := @post_server ids s (a, a.attributes)
  obtain ⟨hfresh, hunowned⟩ := @pick_fresh ids s.server
  have hkept := @kept_post ids s h a
  rw [hserver] at hkept ⊢
  refine ⟨catalog_assets_eq_none hfresh, catalog_eq_put ?_ ?_ rfl⟩
  · refine (catalog_assets_of_mem hkept.assets (a := newAsset ids s.server a) (by simp)).trans ?_
    refine congrArg some ?_
    rw [catalogAsset, CatalogAsset.ofSpec, CatalogAsset.mk.injEq]
    refine ⟨rfl, optionalStr_nonblank a.displayName_nonblank, rfl, rfl, ?_⟩
    funext t
    rw [listedValue, specValue]
    split_ifs
    · have hempty : listedValues s.server (ids.pick s.server.ids) t = [] := by
        rw [listedValues, List.map_eq_nil_iff, List.filter_eq_nil_iff]
        intro x hx
        simp [hunowned x hx]
      rw [listedValues_append, ← getLast?_posted hadded]
      change (listedValues s.server (ids.pick s.server.ids) t ++ _).getLast? = _
      rw [hempty, List.nil_append]
      rfl
    · rfl
  · intro id' hid'
    have hfind : (s.server.assets ++ [newAsset ids s.server a]).find? (fun x => x.id = id') =
        s.server.assets.find? (fun x => x.id = id') := by
      rw [List.find?_append, List.find?_singleton, if_neg (by simp [newAsset, Ne.symm hid']), Option.or_none]
    rw [catalog_assets, catalog_assets, hfind]
    refine Option.map_congr fun item hitem => ?_
    rw [catalogAsset, catalogAsset]
    congr 1
    funext t
    have hnone : added.filter (fun x => x.assetId = item.id ∧ x.typeId = t) = [] := by
      rw [List.filter_eq_nil_iff]
      intro x hx
      have hmem := List.mem_map_of_mem (f := fun a : LiveAttribute => (a.assetId, a.typeId, a.value)) hx
      rw [hadded] at hmem
      obtain ⟨y, -, hy⟩ := List.mem_map.mp hmem
      have hasset : ids.pick s.server.ids = x.assetId := congrArg Prod.fst hy
      simp [← hasset, Ne.symm (hfresh item (find?_asset hitem).1)]
    rw [listedValue, listedValue, listedValues_append, hnone, List.map_nil, List.append_nil]
    rfl

end Create

section UpdateNames
variable {config : CollibraMappingConfig} {s s' : LiveServer}

/-- What the name half of an update makes of an asset. -/
def renamed (c : CatalogAsset) (a : CollibraAssetSpec) (patchName patchDisplayName : Bool) : CatalogAsset :=
  { c with
    name := if patchName then a.name else c.name
    displayName := (if patchDisplayName then a.displayName else none) <|> c.displayName }

lemma optionalStr_orElse {d d' : Option String} (h : displayNamePresent d = true) :
    optionalStr (d <|> d') = (d <|> optionalStr d') := by
  cases d with
  | none => rfl
  | some text => exact optionalStr_nonblank h

lemma kept_map_assets (h : Kept s) {f : LiveAsset → LiveAsset} (hf : ∀ a, (f a).id = a.id) :
    Kept { s with assets := s.assets.map f } := by
  have hids : (s.assets.map f).map LiveAsset.id = s.assets.map LiveAsset.id := by
    rw [List.map_map]
    exact List.map_congr_left fun a _ => hf a
  exact ⟨hids ▸ h.assets, h.attributes, h.relations, hids ▸ h.asset_named, h.relation_named⟩

/-- The asset record that `PATCH /assets/{id}` leaves. -/
def patchedRecord (id : String) (name displayName : Option String) (x : LiveAsset) : LiveAsset :=
  if x.id = id then { x with name := name.getD x.name, displayName := displayName <|> x.displayName } else x

lemma patchedRecord_id (id : String) (name displayName : Option String) (x : LiveAsset) :
    (patchedRecord id name displayName x).id = x.id := by
  unfold patchedRecord
  split_ifs <;> rfl

lemma patchAsset_ok (hkept : Kept s) {id : String} {c : CatalogAsset} (hc : (catalog config s).assets id = some c)
    {name displayName : Option String} (hname : displayNamePresent displayName = true)
    (h : patchAsset s id name displayName = .ok s') : Kept s' ∧ catalog config s' = (catalog config s).put id
      { c with name := name.getD c.name, displayName := displayName <|> c.displayName } := by
  unfold patchAsset at h
  split_ifs at h
  obtain rfl := Except.ok.inj h
  have hkept' := kept_map_assets hkept (patchedRecord_id id name displayName)
  refine ⟨hkept', catalog_eq_put ?_ ?_ rfl⟩
  · obtain ⟨item, hitem, rfl, rfl⟩ := catalog_assets_eq_some hc
    have hstored := @catalog_assets_of_mem config _ hkept'.assets _ (List.mem_map_of_mem hitem)
    rw [patchedRecord_id] at hstored
    refine hstored.trans (congrArg some ?_)
    rw [patchedRecord, if_pos rfl, catalogAsset, catalogAsset, CatalogAsset.mk.injEq]
    exact ⟨rfl, optionalStr_orElse hname, rfl, rfl, rfl⟩
  · intro id' hid'
    have hpred : (fun x : LiveAsset => decide (x.id = id')) ∘ patchedRecord id name displayName =
        fun x => decide (x.id = id') := by
      funext x
      rw [Function.comp_apply, patchedRecord_id]
    change (((s.assets.map (patchedRecord id name displayName)).find? _).map _) = _
    rw [catalog_assets, List.find?_map, Option.map_map, hpred]
    refine Option.map_congr fun item hitem => ?_
    have hother : item.id ≠ id := by
      rw [(find?_asset hitem).2]
      exact hid'
    rw [Function.comp_apply, patchedRecord, if_neg hother]
    rfl

lemma updateNames_ok (hkept : Kept s) {id : String} {c : CatalogAsset} (hc : (catalog config s).assets id = some c)
    {a : CollibraAssetSpec} {pn pd : Bool} (h : updateNames id a pn pd s = .ok s') :
    Kept s' ∧ catalog config s' = (catalog config s).put id (renamed c a pn pd) := by
  have hpresent : displayNamePresent (if pd then a.displayName else none) = true := by
    cases pd
    · rfl
    · exact a.displayName_nonblank
  have hrenamed : renamed c a pn pd = { c with
      name := (if pn then some a.name else none).getD c.name
      displayName := (if pd then a.displayName else none) <|> c.displayName } := by
    cases pn <;> rfl
  rw [hrenamed]
  unfold updateNames at h
  generalize (if pd then a.displayName else none) = displayName at h hpresent ⊢
  generalize (if pn then some a.name else none) = name at h ⊢
  by_cases hnone : name = none ∧ displayName = none
  · rw [if_pos hnone] at h
    obtain rfl := Except.ok.inj h
    obtain ⟨rfl, rfl⟩ := hnone
    refine ⟨hkept, ?_⟩
    rw [Catalog.put, Function.update_eq_self_iff.mpr (by rw [hc]; rfl)]
  · rw [if_neg hnone] at h
    exact patchAsset_ok hkept hc hpresent h

end UpdateNames

section UpdateAttributes
variable {config : CollibraMappingConfig} {ids : IdSource} {s s' : LiveServer} {assetId : String}
  {existing : Dict String CollibraRemoteAttribute}

/-- The attributes of one type of one asset, in listing order. -/
def listed (s : LiveServer) (assetId t : String) : List LiveAttribute :=
  s.attributes.filter (fun a => a.assetId = assetId ∧ a.typeId = t)

lemma listedValues_eq (s : LiveServer) (assetId t : String) :
    listedValues s assetId t = (listed s assetId t).map LiveAttribute.value := rfl

/-- The attributes known from before the update are still the last ones listed, whatever they hold now. -/
def Matches (config : CollibraMappingConfig) (s : LiveServer) (assetId : String)
    (existing : Dict String CollibraRemoteAttribute) : Prop :=
  ∀ t ∈ config.attributeTypeRefs.values, ∀ known attributeId, existing.get? t = some known →
    known.remoteAttributeId = some attributeId →
    ((listed s assetId t).getLast?).map LiveAttribute.id = some attributeId

/-- The attributes of one asset type by type, each with what was listed last. -/
lemma listManaged_get? (h : listManagedAttributesForAsset config s assetId = .ok existing) {t : String}
    (ht : t ∈ config.attributeTypeRefs.values) :
    existing.get? t = ((listed s assetId t).getLast?).bind (readAttribute config assetId) := by
  obtain ⟨results, hresults, h⟩ := bind_eq_ok.mp h
  obtain rfl := pure_eq_ok.mp h
  rw [paginate_eq_ok hresults, Dict.get?_index, Option.map_id, id_eq]
  have hread : ∀ xs : List LiveAttribute, ((xs.filter (fun a => a.assetId = assetId ∧
      a.typeId ∈ config.attributeTypeRefs.values)).filterMap (readAttribute config assetId)).filter
        (fun a => a.attributeTypeRef = t) =
      (xs.filter (fun a => a.assetId = assetId ∧ a.typeId = t)).filterMap (readAttribute config assetId) := by
    intro xs
    rw [List.filter_filterMap, List.filterMap_filter, List.filterMap_filter]
    refine List.filterMap_congr fun a _ => ?_
    by_cases hasset : a.assetId = assetId
    · by_cases htype : a.typeId ∈ config.attributeTypeRefs.values
      · simp only [readAttribute, hasset, htype, ne_eq, not_true_eq_false, if_false, dif_pos, Option.filter,
          decide_true, if_true, and_self, true_and]
      · have hne : a.typeId ≠ t := fun heq => htype (heq ▸ ht)
        simp [hasset, htype, hne]
    · simp [hasset]
  rw [hread]
  change ((listed s assetId t).filterMap _).getLast? = _
  cases hlast : (listed s assetId t).getLast? with
  | none => rw [List.getLast?_eq_none_iff.mp hlast]; rfl
  | some x =>
    obtain ⟨init, hlisted⟩ := List.getLast?_eq_some_iff.mp hlast
    have hx : x ∈ listed s assetId t := hlisted ▸ List.mem_append_right _ (List.mem_singleton_self x)
    obtain ⟨-, hx⟩ := List.mem_filter.mp hx
    obtain ⟨hasset, htype⟩ := of_decide_eq_true hx
    have hsome : (readAttribute config assetId x).isSome = true := by
      simp [readAttribute, hasset, htype, ht]
    obtain ⟨a, ha⟩ := Option.isSome_iff_exists.mp hsome
    rw [hlisted, List.filterMap_append, List.filterMap_cons_some ha, List.filterMap_nil, List.getLast?_concat]
    exact ha.symm

lemma readAttribute_ok {x : LiveAttribute} {a : CollibraRemoteAttribute} (h : readAttribute config assetId x = some a) :
    (a.attributeTypeRef = x.typeId ∧ x.typeId ∈ config.attributeTypeRefs.values) ∧ a.value = x.value ∧
      ∀ i, a.remoteAttributeId = some i → x.id = i := by
  unfold readAttribute at h
  by_cases hasset : x.assetId ≠ assetId
  · rw [if_pos hasset] at h
    cases h
  · rw [if_neg hasset] at h
    by_cases htype : x.typeId ∈ config.attributeTypeRefs.values
    · rw [dif_pos htype] at h
      obtain rfl := Option.some.inj h
      refine ⟨⟨rfl, htype⟩, rfl, fun i hi => ?_⟩
      dsimp only at hi
      split_ifs at hi
      exact Option.some.inj hi
    · rw [dif_neg htype] at h
      cases h

/-- The value of a type before the update. -/
def knownValue (existing : Dict String CollibraRemoteAttribute) (t : String) : Option String :=
  (existing.get? t).map CollibraRemoteAttribute.value

lemma knownValue_eq (h : listManagedAttributesForAsset config s assetId = .ok existing) {t : String}
    (ht : t ∈ config.attributeTypeRefs.values) : knownValue existing t = (listedValues s assetId t).getLast? := by
  rw [knownValue, listManaged_get? h ht, listedValues_eq, List.getLast?_map]
  cases hlast : (listed s assetId t).getLast? with
  | none => rfl
  | some x =>
    obtain ⟨-, hx⟩ := List.mem_filter.mp (List.mem_of_getLast? hlast)
    obtain ⟨hasset, htype⟩ := of_decide_eq_true hx
    simp [readAttribute, hasset, htype, ht]

/-- What one attribute of an update does to a server: it overlays the value of its type, and nothing else. -/
structure Overlays (assetId t : String) (old : Option String) (v : String) (s s' : LiveServer) : Prop where
  kept : Kept s'
  assets : s'.assets = s.assets
  relations : s'.relations = s.relations
  last : (listedValues s' assetId t).getLast? = overlaid old (listedValues s assetId t).getLast? v
  other : ∀ assetId' t', (assetId' ≠ assetId ∨ t' ≠ t) → listedValues s' assetId' t' = listedValues s assetId' t'

lemma listed_post {assetId' t' t v : String} : listed (postAttribute ids s assetId t v) assetId' t' =
    listed s assetId' t' ++ if assetId = assetId' ∧ t = t' then [⟨ids.pick s.ids, assetId, t, v⟩] else [] := by
  rw [listed, postAttribute, List.filter_append, List.filter_singleton]
  congr 1
  by_cases h : assetId = assetId' ∧ t = t' <;> simp [h]

lemma overlays_post (hkept : Kept s) (t v : String) : Overlays assetId t none v s (postAttribute ids s assetId t v) := by
  refine ⟨kept_postAttribute hkept assetId t v, rfl, rfl, ?_, fun assetId' t' hne => ?_⟩
  · rw [listedValues_eq, listed_post, if_pos ⟨rfl, rfl⟩, List.map_append, List.map_singleton, List.getLast?_concat]
    rfl
  · rw [listedValues_eq, listed_post, if_neg, List.append_nil, listedValues_eq]
    rintro ⟨rfl, rfl⟩
    exact hne.elim (fun h => h rfl) (fun h => h rfl)

/-- The attribute record that `PATCH /attributes/{id}` leaves. -/
def patchedAttribute (attributeId v : String) (x : LiveAttribute) : LiveAttribute :=
  if x.id = attributeId then { x with value := v } else x

lemma patchedAttribute_keys (attributeId v : String) (x : LiveAttribute) :
    (patchedAttribute attributeId v x).id = x.id ∧ (patchedAttribute attributeId v x).assetId = x.assetId ∧
      (patchedAttribute attributeId v x).typeId = x.typeId := by
  unfold patchedAttribute
  split_ifs <;> exact ⟨rfl, rfl, rfl⟩

lemma listed_patch {attributeId v assetId' t' : String} : listed (patchAttribute s attributeId v) assetId' t' =
    (listed s assetId' t').map (patchedAttribute attributeId v) := by
  change (s.attributes.map (patchedAttribute attributeId v)).filter _ = _
  rw [List.filter_map, listed]
  congr 1
  refine List.filter_congr fun x _ => ?_
  rw [Function.comp_apply, (patchedAttribute_keys attributeId v x).2.1, (patchedAttribute_keys attributeId v x).2.2]

lemma kept_patch (hkept : Kept s) (attributeId v : String) : Kept (patchAttribute s attributeId v) := by
  refine ⟨hkept.assets, ?_, hkept.relations, hkept.asset_named, hkept.relation_named⟩
  have hids : (s.attributes.map (patchedAttribute attributeId v)).map LiveAttribute.id =
      s.attributes.map LiveAttribute.id := by
    rw [List.map_map]
    exact List.map_congr_left fun x _ => (patchedAttribute_keys attributeId v x).1
  exact hids ▸ hkept.attributes

lemma overlays_patch (hkept : Kept s) {t v attributeId : String} {old : Option String} (hold : old ≠ some v)
    (hlast : ((listed s assetId t).getLast?).map LiveAttribute.id = some attributeId) :
    Overlays assetId t old v s (patchAttribute s attributeId v) := by
  obtain ⟨x, hx, rfl⟩ := Option.map_eq_some_iff.mp hlast
  have hmem := List.mem_filter.mp (List.mem_of_getLast? hx)
  obtain ⟨hasset, htype⟩ := of_decide_eq_true hmem.2
  refine ⟨kept_patch hkept x.id v, rfl, rfl, ?_, fun assetId' t' hne => ?_⟩
  · rw [listedValues_eq, listed_patch, List.map_map, List.getLast?_map, hx, overlaid, if_neg hold]
    exact congrArg some (congrArg LiveAttribute.value (if_pos rfl))
  · rw [listedValues_eq, listed_patch, List.map_map, listedValues_eq]
    refine List.map_congr_left fun y hy => ?_
    obtain ⟨hymem, hy⟩ := List.mem_filter.mp hy
    obtain ⟨hyasset, hytype⟩ := of_decide_eq_true hy
    have hid : y.id ≠ x.id := by
      intro hid
      obtain rfl := List.inj_on_of_nodup_map hkept.attributes hymem hmem.1 hid
      exact hne.elim (fun h => h (hyasset.symm.trans hasset)) (fun h => h (hytype.symm.trans htype))
    exact congrArg LiveAttribute.value (if_neg hid)

/-- One attribute of a managed type overlays its value, and the known attributes stay the last ones. -/
lemma updateAttribute_ok (hkept : Kept s) (hmatches : Matches config s assetId existing) {a : CollibraAttributeSpec}
    (ha : a.attributeTypeRef ∈ config.attributeTypeRefs.values)
    (h : updateAttribute config ids assetId existing a s = .ok s') :
    Overlays assetId a.attributeTypeRef (knownValue existing a.attributeTypeRef) a.value s s' ∧
      Matches config s' assetId existing := by
  unfold updateAttribute at h
  rw [if_neg (not_not.mpr ha)] at h
  cases hget : existing.get? a.attributeTypeRef with
  | none =>
    rw [hget] at h
    obtain rfl := Except.ok.inj h
    rw [knownValue, hget]
    refine ⟨overlays_post hkept _ _, fun t ht known attributeId hknown hid => ?_⟩
    rw [listed_post, if_neg, List.append_nil]
    · exact hmatches t ht known attributeId hknown hid
    · rintro ⟨-, rfl⟩
      rw [hget] at hknown
      cases hknown
  | some known =>
    rw [hget] at h
    rw [knownValue, hget]
    dsimp only at h
    by_cases hvalue : known.value = a.value
    · rw [if_pos hvalue] at h
      obtain rfl := Except.ok.inj h
      refine ⟨⟨hkept, rfl, rfl, ?_, fun _ _ _ => rfl⟩, hmatches⟩
      rw [overlaid, Option.map_some, if_pos (congrArg some hvalue)]
    · rw [if_neg hvalue] at h
      cases hid : known.remoteAttributeId with
      | none =>
        rw [hid] at h
        cases h
      | some attributeId =>
        rw [hid] at h
        obtain rfl := Except.ok.inj h
        have hold : Option.map CollibraRemoteAttribute.value (some known) ≠ some a.value :=
          fun heq => hvalue (Option.some.inj heq)
        refine ⟨overlays_patch hkept hold (hmatches _ ha _ _ hget hid), fun t ht known' attributeId' hknown hid' => ?_⟩
        rw [listed_patch, List.getLast?_map, Option.map_map]
        refine (Option.map_congr fun x _ => ?_).trans (hmatches t ht known' attributeId' hknown hid')
        exact (patchedAttribute_keys attributeId a.value x).1

/-- What the attributes of an update do to a server, type by type. -/
structure OverlaysAll (config : CollibraMappingConfig) (assetId : String) (existing : Dict String CollibraRemoteAttribute)
    (attributes : List CollibraAttributeSpec) (s s' : LiveServer) : Prop where
  kept : Kept s'
  assets : s'.assets = s.assets
  relations : s'.relations = s.relations
  last : ∀ t ∈ config.attributeTypeRefs.values, (listedValues s' assetId t).getLast? =
    (specValues attributes t).foldl (overlaid (knownValue existing t)) (listedValues s assetId t).getLast?
  other : ∀ assetId', assetId' ≠ assetId → ∀ t, listedValues s' assetId' t = listedValues s assetId' t

lemma updateAttributes_ok {attributes : List CollibraAttributeSpec} (hkept : Kept s)
    (hmatches : Matches config s assetId existing)
    (h : updateAttributes config ids assetId existing attributes s = (.ok (), s')) :
    OverlaysAll config assetId existing attributes s s' := by
  induction attributes generalizing s with
  | nil =>
    obtain ⟨-, rfl⟩ := Prod.mk.inj h
    exact ⟨hkept, rfl, rfl, fun _ _ => rfl, fun _ _ _ => rfl⟩
  | cons a rest ih =>
    rw [updateAttributes] at h
    cases hstep : updateAttribute config ids assetId existing a s with
    | error e =>
      rw [hstep] at h
      cases (Prod.mk.inj h).1
    | ok s₁ =>
      rw [hstep] at h
      by_cases ha : a.attributeTypeRef ∈ config.attributeTypeRefs.values
      · obtain ⟨hstep, hmatches₁⟩ := updateAttribute_ok hkept hmatches ha hstep
        have hrest := ih hstep.kept hmatches₁ h
        refine ⟨hrest.kept, hrest.assets.trans hstep.assets, hrest.relations.trans hstep.relations, fun t ht => ?_,
          fun id hid t => (hrest.other id hid t).trans (hstep.other id t (.inl hid))⟩
        rw [hrest.last t ht, specValues, specValues, List.filter_cons]
        by_cases heq : a.attributeTypeRef = t
        · rw [if_pos (decide_eq_true heq), List.map_cons, List.foldl_cons, ← heq, hstep.last]
        · rw [if_neg (by simpa using heq), hstep.other assetId t (.inr (Ne.symm heq))]
      · rw [updateAttribute, if_pos ha] at hstep
        obtain rfl := Except.ok.inj hstep
        have hrest := ih hkept hmatches h
        refine ⟨hrest.kept, hrest.assets, hrest.relations, fun t ht => ?_, hrest.other⟩
        have hne : a.attributeTypeRef ≠ t := fun heq => ha (heq ▸ ht)
        rw [hrest.last t ht, specValues, specValues, List.filter_cons, if_neg (by simpa using hne)]

end UpdateAttributes

section Acts
variable {config : CollibraMappingConfig} {ids : IdSource} {fault : CollibraAdapterError} {s s' : LiveServer}

/-- The attribute half of an update, on the catalog. -/
lemma catalog_overlaid (hkept : Kept s) {id : String} {c : CatalogAsset} (hc : (catalog config s).assets id = some c)
    {existing : Dict String CollibraRemoteAttribute} (hexisting : listManagedAttributesForAsset config s id = .ok existing)
    {attributes : List CollibraAttributeSpec}
    (h : updateAttributes config ids id existing attributes s = (.ok (), s')) :
    Kept s' ∧ catalog config s' = (catalog config s).put id { c with
      value := fun t => if t ∈ config.attributeTypeRefs.values then
        (specValues attributes t).foldl (overlaid (c.value t)) (c.value t) else c.value t } := by
  obtain ⟨item, hitem, rfl, rfl⟩ := catalog_assets_eq_some hc
  have hmatches : Matches config s item.id existing := by
    intro t ht known attributeId hget hid
    rw [listManaged_get? hexisting ht] at hget
    obtain ⟨x, hx, hread⟩ := Option.bind_eq_some_iff.mp hget
    rw [hx, Option.map_some, (readAttribute_ok hread).2.2 attributeId hid]
  have hall := updateAttributes_ok hkept hmatches h
  refine ⟨hall.kept, catalog_eq_put ?_ ?_ hall.relations⟩
  · rw [catalog_assets_of_mem hall.kept.assets (hall.assets ▸ hitem)]
    refine congrArg some (CatalogAsset.mk.injEq .. ▸ ⟨rfl, rfl, rfl, rfl, funext fun t => ?_⟩)
    change listedValue config s' item.id t = if _ then (specValues attributes t).foldl
      (overlaid (listedValue config s item.id t)) (listedValue config s item.id t) else listedValue config s item.id t
    unfold listedValue
    by_cases ht : t ∈ config.attributeTypeRefs.values
    · simp only [if_pos ht]
      rw [hall.last t ht, knownValue_eq hexisting ht]
    · simp only [if_neg ht]
  · intro id' hid'
    rw [catalog_assets, catalog_assets, hall.assets]
    refine Option.map_congr fun other hother => ?_
    refine CatalogAsset.mk.injEq .. ▸ ⟨rfl, rfl, rfl, rfl, funext fun t => ?_⟩
    rw [listedValue, listedValue, hall.other other.id (by rw [(find?_asset hother).2]; exact hid') t]

lemma updateAsset_ok {s s' : LiveSession} (hkept : Kept s.server) {id : String} {c : CatalogAsset}
    (hc : (catalog config s.server).assets id = some c) {a : CollibraAssetSpec} {pn pd : Bool}
    (h : updateAsset config ids id a pn pd s = (.ok (), s')) :
    Kept s'.server ∧ catalog config s'.server = (catalog config s.server).put id (patch config c a pn pd) := by
  unfold updateAsset at h
  cases hnames : updateNames id a pn pd s.server with
  | error e =>
    rw [hnames] at h
    cases (Prod.mk.inj h).1
  | ok named =>
    rw [hnames] at h
    obtain ⟨hkept₁, hcatalog₁⟩ := updateNames_ok hkept hc hnames
    dsimp only at h
    cases hexisting : listManagedAttributesForAsset config named id with
    | error e =>
      rw [hexisting] at h
      cases (Prod.mk.inj h).1
    | ok existing =>
      rw [hexisting] at h
      dsimp only at h
      cases hupdate : updateAttributes config ids id existing a.attributes named with
      | mk result server =>
        rw [hupdate] at h
        obtain ⟨rfl, rfl⟩ := Prod.mk.inj h
        have hc₁ : (catalog config named).assets id = some (renamed c a pn pd) := by
          rw [hcatalog₁, Catalog.put_assets_self]
        obtain ⟨hkept₂, hcatalog₂⟩ := catalog_overlaid hkept₁ hc₁ hexisting hupdate
        refine ⟨hkept₂, ?_⟩
        rw [hcatalog₂, hcatalog₁, Catalog.put, Catalog.put, Catalog.put, Function.update_idem]
        rfl

theorem live_actsOn : ActsOn (adapter config ids fault) config (patch config) (fun s => catalog config s.server)
    (fun s => Kept s.server) where
  create := by
    intro s s' a id hkept h
    obtain ⟨rfl, hserver⟩ := createAsset_ok h
    obtain ⟨hfresh, hcatalog⟩ := @catalog_post config ids s hkept a
    rw [hserver]
    exact ⟨kept_post hkept a, hfresh, hcatalog⟩
  update := fun hkept hc h => updateAsset_ok hkept hc h
  link := by
    intro s s' rel source target id hkept _ _ h
    obtain ⟨-, rfl⟩ := Prod.mk.inj h
    refine ⟨⟨hkept.assets, hkept.attributes, ?_, hkept.asset_named, ?_⟩, ?_⟩
    · rw [List.map_append, List.nodup_append]
      refine ⟨hkept.relations, List.nodup_singleton _, ?_⟩
      rintro x hx y hy rfl
      apply ids.fresh s.server.ids
      have hpick : x = ids.pick s.server.ids := List.mem_singleton.mp hy
      rw [← hpick]
      simp only [LiveServer.ids, List.mem_append]
      exact .inr hx
    · rw [List.map_append, List.mem_append]
      rintro (hold | hnew)
      · exact hkept.relation_named hold
      · exact ne_empty_of_not_blank (ids.nonblank _) (List.mem_singleton.mp hnew).symm
    · rw [catalog, catalog, Catalog.link, List.map_append]
      congr 1
      exact Multiset.coe_eq_coe.mpr (List.perm_append_singleton ..)

end Acts

/-! ### Reading -/

section Assets
variable {config : CollibraMappingConfig} {s : LiveServer}

lemma sortedRefs_nodup (refs : List String) : (sortedRefs refs).Nodup :=
  (sortBy_perm id refs.dedup).nodup_iff.mpr (List.nodup_dedup refs)

/-- Every asset of the managed domain and types is listed once. -/
lemma listAssetsInScope_perm {raw : List LiveAsset} (h : listAssetsInScope config s = .ok raw) : raw.Perm
    ((s.assets.filter (fun a => a.domainId = config.domainRef)).filter
      (fun a => a.typeId ∈ sortedRefs config.assetTypeRefs.values)) := by
  obtain ⟨pages, hpages, h⟩ := bind_eq_ok.mp h
  obtain rfl := pure_eq_ok.mp h
  have hpage := mapM_map (p := id) (fun _ _ hok => paginate_eq_ok hok) hpages
  rw [List.map_id] at hpage
  refine (sortBy_perm _ _).trans ?_
  rw [hpage, ← List.flatMap_def]
  have hkind : (sortedRefs config.assetTypeRefs.values).flatMap
      (fun t => s.assets.filter (fun a => a.domainId = config.domainRef ∧ a.typeId = t)) =
      (sortedRefs config.assetTypeRefs.values).flatMap
        (fun t => (s.assets.filter (fun a => a.domainId = config.domainRef)).filter (fun a => a.typeId = t)) := by
    refine List.flatMap_congr fun t _ => ?_
    rw [List.filter_filter]
    exact List.filter_congr fun a _ => by simp [and_comm]
  rw [hkind]
  exact flatMap_filter_kind_perm (sortedRefs_nodup _) _

/-- The local id by which a read recognises an asset is the one that the catalog manages it under. -/
lemma managedAs_catalogAsset (hkept : Kept s) {item : LiveAsset} (hitem : item ∈ s.assets) :
    (catalogAsset config s item).managedAs config = recognised config s item := by
  have hnamed : item.id ≠ "" := fun h => hkept.asset_named (h ▸ List.mem_map_of_mem hitem)
  have hlocal : config.attributeTypeRefs.localId ∈ config.attributeTypeRefs.values := by
    simp [AttributeTypeRefs.values]
  unfold CatalogAsset.managedAs recognised isCandidate
  by_cases hdomain : item.domainId = config.domainRef <;> by_cases htype : item.typeId ∈ config.assetTypeRefs.values <;>
    simp [catalogAsset, hdomain, htype, hnamed, listedValue, hlocal, nonBlank]

lemma localIdOf_eq_some (hkept : Kept s) {id l : String} : (catalog config s).localIdOf config id = some l ↔
    ∃ item ∈ s.assets, item.id = id ∧ recognised config s item = some l := by
  constructor
  · intro h
    obtain ⟨c, hc, hl⟩ := Option.bind_eq_some_iff.mp h
    obtain ⟨item, hitem, hid, rfl⟩ := catalog_assets_eq_some hc
    exact ⟨item, hitem, hid, (managedAs_catalogAsset hkept hitem) ▸ hl⟩
  · rintro ⟨item, hitem, rfl, hl⟩
    rw [Catalog.localIdOf, catalog_assets_of_mem hkept.assets hitem, Option.bind_some,
      managedAs_catalogAsset hkept hitem, hl]

lemma listManaged_keys {assetId : String} {attributes : Dict String CollibraRemoteAttribute}
    (h : listManagedAttributesForAsset config s assetId = .ok attributes) {e : String × CollibraRemoteAttribute}
    (he : e ∈ attributes.entries) : e.2.attributeTypeRef = e.1 ∧ e.1 ∈ config.attributeTypeRefs.values := by
  obtain ⟨results, -, h⟩ := bind_eq_ok.mp h
  obtain rfl := pure_eq_ok.mp h
  obtain ⟨x, hx, hkey, hvalue⟩ := Dict.exists_of_mem_index he
  obtain ⟨item, -, hread⟩ := List.mem_filterMap.mp hx
  obtain rfl : x = e.2 := hvalue
  obtain ⟨htype, hmem⟩ := (readAttribute_ok hread).1
  rw [← hkey]
  exact ⟨rfl, htype ▸ hmem⟩

/-- The attributes of a record, read back from a dictionary under their types. -/
lemma remoteAttributeMap_values {d : Dict String CollibraRemoteAttribute}
    (hd : ∀ e ∈ d.entries, e.2.attributeTypeRef = e.1) {attributes : List CollibraRemoteAttribute}
    (hattributes : attributes.Perm d.values) : (attributes.map CollibraRemoteAttribute.attributeTypeRef).Nodup ∧
      ∀ t, (remoteAttributeMap attributes).get? t = knownValue d t := by
  have htypes : d.values.map CollibraRemoteAttribute.attributeTypeRef = d.keys := by
    rw [Dict.values, Dict.keys, List.map_map]
    exact List.map_congr_left hd
  have hnodup : (attributes.map CollibraRemoteAttribute.attributeTypeRef).Nodup := by
    rw [(hattributes.map _).nodup_iff, htypes]
    exact d.keys_nodup
  refine ⟨hnodup, fun t => ?_⟩
  cases hget : d.get? t with
  | none =>
    rw [knownValue, hget]
    refine Dict.get?_eq_none.mpr fun hmem => ?_
    obtain ⟨a, ha, rfl⟩ := Dict.mem_keys_index.mp hmem
    have hkey := List.mem_map_of_mem (f := CollibraRemoteAttribute.attributeTypeRef) (hattributes.mem_iff.mp ha)
    rw [htypes] at hkey
    exact Dict.get?_eq_none.mp hget hkey
  | some a =>
    have hentry := Dict.get?_eq_some.mp hget
    have hmem : a ∈ attributes := hattributes.mem_iff.mpr (List.mem_map_of_mem hentry)
    have hfound : (remoteAttributeMap attributes).get? a.attributeTypeRef = some a.value :=
      Dict.get?_index_of_nodup hnodup hmem
    rw [hd _ hentry] at hfound
    rw [knownValue, hget]
    exact hfound

lemma readAsset_shows (hkept : Kept s) {item : LiveAsset} (hitem : item ∈ s.assets)
    (hcandidate : isCandidate config item = true) {r : CollibraRemoteAsset}
    (h : readAsset config s item = .ok (some r)) :
    r.remoteId = item.id ∧ RecordShows config (catalog config s) r (catalogAsset config s item) := by
  have hlocal := readAsset_localId hcandidate h
  obtain ⟨attributes, hattributes, h⟩ := bind_eq_ok.mp h
  have hattributes := mapError_eq_ok.mp hattributes
  cases hget : attributes.get? config.attributeTypeRefs.localId with
  | none =>
    rw [hget] at h
    cases pure_eq_ok.mp h
  | some localAttribute =>
    rw [hget] at h
    dsimp only at h
    split_ifs at h
    · cases pure_eq_ok.mp h
    obtain ⟨asset, hasset, h⟩ := bind_eq_ok.mp h
    obtain rfl := Option.some.inj (pure_eq_ok.mp h)
    have hasset := mapError_eq_ok.mp hasset
    obtain ⟨hid, -, hname, hdisplay, hmanaged⟩ := CollibraRemoteAsset.create_ok hasset
    have htype : asset.assetTypeRef = item.typeId := assetTypeRef_create hasset
    obtain ⟨hnodup, hmap⟩ := remoteAttributeMap_values (fun e he => (listManaged_keys hattributes he).1)
      ((sortBy_perm CollibraRemoteAttribute.attributeTypeRef _).trans
        (sortBy_perm CollibraRemoteAttribute.attributeTypeRef attributes.values))
    rw [← hmanaged] at hnodup hmap
    refine ⟨hid, ?_, ?_, hname, hdisplay, htype, hnodup, fun t => ?_⟩
    · rw [hid]
      exact catalog_assets_of_mem hkept.assets hitem
    · rw [managedAs_catalogAsset hkept hitem, ← hlocal]
      rfl
    · rw [hmap]
      split_ifs with ht
      · rw [knownValue_eq hattributes ht]
        exact (if_pos ht).symm
      · rw [knownValue, Option.map_eq_none_iff]
        refine Dict.get?_eq_none.mpr fun hmem => ht ?_
        obtain ⟨v, hv⟩ := Dict.mem_keys_iff.mp hmem
        exact (listManaged_keys hattributes (Dict.get?_eq_some.mp hv)).2

end Assets

section Relations
variable {config : CollibraMappingConfig} {s : LiveServer}

/-- Relations with distinct ids are all kept. -/
lemma foldl_keepRelation {xs : List LiveRelation} {acc : RelationListing}
    (h : (acc.seen ++ xs.map LiveRelation.id).Nodup) :
    xs.foldl keepRelation acc = ⟨acc.collected ++ xs, acc.unmanaged, acc.seen ++ xs.map LiveRelation.id⟩ := by
  induction xs generalizing acc with
  | nil => simp
  | cons x rest ih =>
    have hx : x.id ∉ acc.seen := by
      intro hmem
      exact (List.nodup_append.mp h).2.2 x.id hmem x.id (by simp) rfl
    rw [List.foldl_cons, keepRelation, if_neg hx, ih (by simpa using h)]
    simp

/-- Every relation that leaves a managed asset and has a managed type is listed once. -/
lemma listRelations_perm (hkept : Kept s) {managed : List String} {listing : RelationListing}
    (h : listRelationsForManagedSources config s managed = .ok listing) : listing.collected.Perm
    (s.relations.filter (fun r => r.sourceId ∈ managed ∧ r.typeId ∈ config.relationTypeRefs.values)) := by
  obtain ⟨pages, hpages, h⟩ := bind_eq_ok.mp h
  obtain rfl := pure_eq_ok.mp h
  have hpage := mapM_map (p := id) (fun _ _ hok => paginate_eq_ok hok) hpages
  rw [List.map_id] at hpage
  set queries := (sortedRefs managed).flatMap fun source =>
    (sortedRefs config.relationTypeRefs.values).map fun type => (source, type) with hqueries
  have hnodup : queries.Nodup := (sortedRefs_nodup managed).product (sortedRefs_nodup config.relationTypeRefs.values)
  have hkind := @flatMap_filter_kind_perm _ _ (fun r : LiveRelation => (r.sourceId, r.typeId)) _ _ hnodup s.relations
  have hflat : pages.flatten.Perm
      (s.relations.filter (fun r => r.sourceId ∈ managed ∧ r.typeId ∈ config.relationTypeRefs.values)) := by
    rw [hpage, ← List.flatMap_def]
    refine (List.Perm.of_eq ?_).trans (hkind.trans (.of_eq (List.filter_congr fun r _ => ?_)))
    · refine List.flatMap_congr fun q _ => List.filter_congr fun r _ => ?_
      rw [decide_eq_decide, Prod.ext_iff]
    · rw [decide_eq_decide, hqueries]
      simp only [List.mem_flatMap, List.mem_map, mem_sortedRefs, Prod.mk.injEq]
      constructor
      · rintro ⟨source, hsource, type, htype, rfl, rfl⟩
        exact ⟨hsource, htype⟩
      · rintro ⟨hsource, htype⟩
        exact ⟨_, hsource, _, htype, rfl, rfl⟩
  have hids : (pages.flatten.map LiveRelation.id).Nodup := by
    rw [(hflat.map _).nodup_iff]
    exact (List.filter_sublist.map _).nodup hkept.relations
  rw [foldl_keepRelation (by simpa using hids)]
  exact (sortBy_perm _ _).trans hflat

/-- What a read shows of a relation. -/
lemma readRelation_shown {remoteToLocal : Dict String String}
    (hlocal : ∀ id, remoteToLocal.get? id = (catalog config s).localIdOf config id) {item : LiveRelation}
    (hnamed : item.id ≠ "") {r : Option CollibraRemoteRelationship}
    (h : readRelation config remoteToLocal item = .ok r) :
    r.map relationshipView = (catalog config s).shownLink config (catalogLink item) := by
  unfold readRelation at h
  unfold Catalog.shownLink catalogLink
  rw [← hlocal, ← hlocal]
  by_cases htype : item.typeId ∈ config.relationTypeRefs.values
  · rw [if_neg (by simp [hnamed, htype])] at h
    rw [if_pos htype]
    cases hsource : remoteToLocal.get? item.sourceId with
    | none =>
      rw [hsource] at h
      obtain rfl := Except.ok.inj h
      rfl
    | some source =>
      cases htarget : remoteToLocal.get? item.targetId with
      | none =>
        rw [hsource, htarget] at h
        obtain rfl := Except.ok.inj h
        rfl
      | some target =>
        rw [hsource, htarget] at h
        obtain ⟨rel, hrel, h⟩ := bind_eq_ok.mp h
        obtain rfl := pure_eq_ok.mp h
        rw [Option.map_some, relationshipView_create (mapError_eq_ok.mp hrel)]
        rfl
  · rw [if_pos (Or.inr htype)] at h
    rw [if_neg htype]
    obtain rfl := Except.ok.inj h
    rfl

end Relations

section Shows
variable {config : CollibraMappingConfig} {s : LiveServer} {remote : CollibraRemoteState}

/-- The assets that a read finds managed: each of the catalog's managed assets, once. -/
structure ManagedRead (config : CollibraMappingConfig) (s : LiveServer) (managed : List CollibraRemoteAsset) : Prop where
  ids : (managed.map CollibraRemoteAsset.remoteId).Nodup
  records : ∀ r ∈ managed, ∃ c, RecordShows config (catalog config s) r c
  complete : ∀ i l, (catalog config s).localIdOf config i = some l → ∃ r ∈ managed, r.remoteId = i

lemma managedRead (hkept : Kept s) {raw : List LiveAsset} (hraw : listAssetsInScope config s = .ok raw)
    {read : List (Option CollibraRemoteAsset)}
    (hread : (raw.filter (isCandidate config)).mapM (readAsset config s) = .ok read) :
    ManagedRead config s (read.filterMap id) := by
  have hcandidate : ∀ item ∈ raw.filter (isCandidate config), item ∈ s.assets ∧ isCandidate config item = true :=
    fun item hitem => ⟨((mem_listAssetsInScope hraw).mp (List.mem_filter.mp hitem).1).1, (List.mem_filter.mp hitem).2⟩
  refine ⟨?_, ?_, ?_⟩
  · have hids : read.map (Option.map CollibraRemoteAsset.remoteId) = (raw.filter (isCandidate config)).map
        fun item => (recognised config s item).map fun _ => item.id := by
      refine mapM_map_of_mem (fun item hitem y hok => ?_) hread
      obtain ⟨hmem, hcand⟩ := hcandidate item hitem
      rw [← readAsset_localId hcand hok]
      cases y with
      | none => rfl
      | some r => exact congrArg some (readAsset_shows hkept hmem hcand hok).1
    have hmap : (read.filterMap id).map CollibraRemoteAsset.remoteId =
        (read.map (Option.map CollibraRemoteAsset.remoteId)).filterMap id := by
      rw [List.map_filterMap, List.filterMap_map]
      rfl
    have hsub : ((raw.filter (isCandidate config)).filterMap
        fun item => (recognised config s item).map fun _ => item.id).Sublist
          ((raw.filter (isCandidate config)).map LiveAsset.id) := by
      induction raw.filter (isCandidate config) with
      | nil => exact List.Sublist.refl _
      | cons item rest ih =>
        cases hrecognised : recognised config s item with
        | none =>
          rw [List.filterMap_cons_none (by rw [hrecognised]; rfl)]
          exact ih.cons _
        | some l =>
          rw [List.filterMap_cons_some (by rw [hrecognised]; rfl)]
          exact ih.cons_cons _
    rw [hmap, hids, List.filterMap_map]
    refine hsub.nodup ((List.filter_sublist.map _).nodup ?_)
    rw [((listAssetsInScope_perm hraw).map _).nodup_iff]
    exact ((List.filter_sublist.trans List.filter_sublist).map _).nodup hkept.assets
  · intro r hr
    obtain ⟨y, hy, rfl⟩ := List.mem_filterMap.mp hr
    obtain ⟨item, hitem, hok⟩ := (mapM_mem hread).1 _ hy
    exact ⟨_, (readAsset_shows hkept (hcandidate item hitem).1 (hcandidate item hitem).2 hok).2⟩
  · intro i l hl
    obtain ⟨item, hitem, rfl, hrecognised⟩ := (localIdOf_eq_some hkept).mp hl
    have hcand : isCandidate config item = true := by
      by_contra hno
      rw [recognised, if_neg hno] at hrecognised
      cases hrecognised
    have hscope := hcand
    simp only [isCandidate, decide_eq_true_eq] at hscope
    obtain ⟨y, hy, hok⟩ := (mapM_mem hread).2 item
      (List.mem_filter.mpr ⟨(mem_listAssetsInScope hraw).mpr ⟨hitem, hscope.2⟩, hcand⟩)
    rw [← readAsset_localId hcand hok] at hrecognised
    obtain ⟨r, rfl, -⟩ := Option.map_eq_some_iff.mp hrecognised
    exact ⟨r, List.mem_filterMap.mpr ⟨some r, hy, rfl⟩, (readAsset_shows hkept hitem hcand hok).1⟩

/-- The index of a read's assets finds the local ids of the catalog. -/
lemma ManagedRead.index_get? {managed : List CollibraRemoteAsset} (h : ManagedRead config s managed) (i : String) :
    (Dict.index CollibraRemoteAsset.remoteId CollibraRemoteAsset.localId managed).get? i =
      (catalog config s).localIdOf config i := by
  have hrecord : ∀ r ∈ managed, (catalog config s).localIdOf config r.remoteId = some r.localId := by
    intro r hr
    obtain ⟨c, hc⟩ := h.records r hr
    rw [Catalog.localIdOf, hc.stored, Option.bind_some, hc.managed]
  cases hl : (catalog config s).localIdOf config i with
  | none =>
    refine Dict.get?_eq_none.mpr fun hmem => ?_
    obtain ⟨r, hr, rfl⟩ := Dict.mem_keys_index.mp hmem
    rw [hrecord r hr] at hl
    cases hl
  | some l =>
    obtain ⟨r, hr, rfl⟩ := h.complete i l hl
    rw [← hl, hrecord r hr]
    exact Dict.get?_index_of_nodup h.ids hr

/-- A read of the live server shows its catalog. -/
theorem shows_readRemoteState (hkept : Kept s) (h : readRemoteState config s = .ok remote) :
    Shows config (catalog config s) remote := by
  obtain ⟨raw, hraw, h⟩ := bind_eq_ok.mp h
  obtain ⟨read, hread, h⟩ := bind_eq_ok.mp h
  obtain ⟨listing, hlisting, h⟩ := bind_eq_ok.mp h
  obtain ⟨relations, hrelations, h⟩ := bind_eq_ok.mp h
  obtain rfl := pure_eq_ok.mp h
  have hmanaged := managedRead hkept (mapError_eq_ok.mp hraw) hread
  have hlisted := listRelations_perm hkept (mapError_eq_ok.mp hlisting)
  have hviews : relations.map (Option.map relationshipView) =
      listing.collected.map fun item => (catalog config s).shownLink config (catalogLink item) := by
    refine mapM_map_of_mem (fun item hitem r hok => readRelation_shown hmanaged.index_get? ?_ hok) hrelations
    intro hnamed
    have hmem := (List.mem_filter.mp (hlisted.mem_iff.mp hitem)).1
    exact hkept.relation_named (hnamed ▸ List.mem_map_of_mem hmem)
  have hunlisted : ∀ item ∈ s.relations, ¬ (item.sourceId ∈ (Dict.index CollibraRemoteAsset.remoteId
      CollibraRemoteAsset.localId (read.filterMap id)).keys ∧ item.typeId ∈ config.relationTypeRefs.values) →
      (catalog config s).shownLink config (catalogLink item) = none := by
    intro item _ hno
    unfold Catalog.shownLink catalogLink
    split_ifs with htype
    · have hsource := Dict.get?_eq_none.mpr fun hmem => hno ⟨hmem, htype⟩
      rw [hmanaged.index_get?] at hsource
      rw [hsource]
      rfl
    · rfl
  refine ⟨?_, ?_, ?_, ?_⟩
  · change ((sortBy CollibraRemoteAsset.localId (read.filterMap id)).map CollibraRemoteAsset.remoteId).Nodup
    rw [((sortBy_perm _ _).map _).nodup_iff]
    exact hmanaged.ids
  · intro r hr
    exact hmanaged.records r (mem_sortBy.mp hr)
  · intro i l hl
    obtain ⟨r, hr, hid⟩ := hmanaged.complete i l hl
    exact ⟨r, mem_sortBy.mpr hr, hid⟩
  · have hfound : (relations.filterMap id).map relationshipView =
        listing.collected.filterMap fun item => (catalog config s).shownLink config (catalogLink item) := by
      have hmap : (relations.filterMap id).map relationshipView =
          (relations.map (Option.map relationshipView)).filterMap id := by
        rw [List.map_filterMap, List.filterMap_map]
        rfl
      rw [hmap, hviews, List.filterMap_map]
      rfl
    change Multiset.ofList ((sortBy remoteRelationshipSortKey (relations.filterMap id)).map relationshipView) =
      Multiset.filterMap _ (Multiset.ofList (s.relations.map catalogLink))
    rw [Multiset.coe_eq_coe.mpr ((sortBy_perm _ _).map _), hfound, Multiset.filterMap_coe, List.filterMap_map]
    refine Multiset.coe_eq_coe.mpr ((hlisted.filterMap _).trans (.of_eq ?_))
    rw [List.filterMap_filter]
    refine List.filterMap_congr fun item hitem => ?_
    split_ifs with hin
    · rfl
    · exact (hunlisted item hitem (by simpa using hin)).symm

end Shows

end CollibraGovernance.Collibra.LiveCollibraAdapter
