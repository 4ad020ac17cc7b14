import CollibraGovernance.Collibra.Live
import CollibraGovernance.Collibra.PlannedMutations

/-! What a read of the live server recognises, and what the posts of a create add to it. -/
namespace CollibraGovernance.Collibra.LiveCollibraAdapter
open Library

section Recognition
variable (config : CollibraMappingConfig)

/-- A local id that is not blank. -/
def nonBlank (value : Option String) : Option String := value.filter (fun v => !isBlank v)

/-- Values of one attribute type of one asset, in listing order. -/
def listedValues (s : LiveServer) (assetId typeId : String) : List String :=
  (s.attributes.filter (fun a => a.assetId = assetId ∧ a.typeId = typeId)).map LiveAttribute.value

/-- The local id under which a read recognises a stored asset. -/
def recognised (s : LiveServer) (item : LiveAsset) : Option String :=
  if isCandidate config item then
    nonBlank (listedValues s item.id config.attributeTypeRefs.localId).getLast?
  else none

/-- The local id that what is posted of a new asset makes recognisable, if it is listed as managed at all. -/
def recognisedFrom (p : CollibraAssetSpec × List CollibraAttributeSpec) : Option String :=
  if p.1.domainRef = config.domainRef ∧ p.1.assetTypeRef ∈ config.assetTypeRefs.values then
    nonBlank ((attributeMap p.2).get? config.attributeTypeRefs.localId)
  else none

end Recognition

section Read
variable {config : CollibraMappingConfig} {s : LiveServer} {remote : CollibraRemoteState}

lemma paginate_eq_ok {α : Type} {path : String} {results page : List α}
    (h : paginate path results = .ok page) : page = results := by
  unfold paginate at h
  split at h
  · cases h
  · cases h
    rfl

lemma mem_sortedRefs {refs : List String} {r : String} : r ∈ sortedRefs refs ↔ r ∈ refs := by
  rw [sortedRefs, mem_sortBy, List.mem_dedup]

/-- The asset listing holds exactly the assets of the managed domain and types. -/
lemma mem_listAssetsInScope {raw : List LiveAsset} (h : listAssetsInScope config s = .ok raw)
    {item : LiveAsset} : item ∈ raw ↔ item ∈ s.assets ∧ item.domainId = config.domainRef ∧
      item.typeId ∈ config.assetTypeRefs.values := by
  obtain ⟨pages, hpages, h⟩ := bind_eq_ok.mp h
  cases pure_eq_ok.mp h
  have hpage : pages = (sortedRefs config.assetTypeRefs.values).map (fun type =>
      s.assets.filter (fun a => a.domainId = config.domainRef ∧ a.typeId = type)) := by
    have := mapM_map (p := id) (fun _ _ hok => paginate_eq_ok hok) hpages
    rwa [List.map_id] at this
  rw [mem_sortBy, hpage, List.mem_flatten]
  simp only [List.mem_map, mem_sortedRefs, exists_exists_and_eq_and, List.mem_filter,
    decide_eq_true_eq]
  constructor
  · rintro ⟨t, ht, hmem, hdomain, rfl⟩
    exact ⟨hmem, hdomain, ht⟩
  · rintro ⟨hmem, hdomain, htype⟩
    exact ⟨item.typeId, htype, hmem, hdomain, rfl⟩

lemma readAttributes_values {assetId t : String} (ht : t ∈ config.attributeTypeRefs.values)
    (attributes : List LiveAttribute) :
    (((attributes.filter (fun a => a.assetId = assetId ∧
      a.typeId ∈ config.attributeTypeRefs.values)).filterMap (readAttribute config assetId)).filter
        (fun a => a.attributeTypeRef = t)).map CollibraRemoteAttribute.value =
      (attributes.filter (fun a => a.assetId = assetId ∧ a.typeId = t)).map LiveAttribute.value := by
  induction attributes with
  | nil => rfl
  | cons a rest ih =>
    by_cases ha : a.assetId = assetId
    · by_cases htype : a.typeId ∈ config.attributeTypeRefs.values
      · have hread : readAttribute config assetId a = some ⟨a.typeId, a.value,
            if a.id = "" then none else some a.id,
            config.attributeTypeRefs_nonblank _ htype⟩ := by
          simp [readAttribute, ha, htype]
        rw [List.filter_cons_of_pos (by simp [ha, htype]), List.filterMap_cons_some hread]
        by_cases heq : a.typeId = t
        · rw [List.filter_cons_of_pos (by simpa using heq), List.map_cons, ih,
            List.filter_cons_of_pos (by simp [ha, heq]), List.map_cons]
        · rw [List.filter_cons_of_neg (by simpa using heq), ih,
            List.filter_cons_of_neg (by simp [heq])]
      · rw [List.filter_cons_of_neg (by simp [htype]), ih, List.filter_cons_of_neg]
        simp only [decide_eq_true_eq]
        rintro ⟨-, rfl⟩
        exact htype ht
    · rw [List.filter_cons_of_neg (by simp [ha]), ih, List.filter_cons_of_neg (by simp [ha])]

/-- Reading the attributes of an asset finds the last listed value of the identity type. -/
lemma listedAttributes_get? {assetId : String} {attributes : Dict String CollibraRemoteAttribute}
    (h : listManagedAttributesForAsset config s assetId = .ok attributes) :
    (attributes.get? config.attributeTypeRefs.localId).map CollibraRemoteAttribute.value =
      (listedValues s assetId config.attributeTypeRefs.localId).getLast? := by
  obtain ⟨results, hresults, h⟩ := bind_eq_ok.mp h
  cases pure_eq_ok.mp h
  rw [paginate_eq_ok hresults, Dict.get?_index, Option.map_id, id_eq, ← List.getLast?_map,
    readAttributes_values (by simp [AttributeTypeRefs.values])]
  rfl

/-- A candidate is read as managed exactly under the local id it is recognised by. -/
lemma readAsset_localId {item : LiveAsset} {r : Option CollibraRemoteAsset}
    (hitem : isCandidate config item = true) (h : readAsset config s item = .ok r) :
    r.map CollibraRemoteAsset.localId = recognised config s item := by
  obtain ⟨attributes, hattrs, h⟩ := bind_eq_ok.mp h
  have hlisted := listedAttributes_get? (mapError_eq_ok.mp hattrs)
  unfold recognised nonBlank
  rw [if_pos hitem, ← hlisted]
  cases hg : attributes.get? config.attributeTypeRefs.localId with
  | none =>
    rw [hg] at h
    cases pure_eq_ok.mp h
    rfl
  | some a =>
    rw [hg] at h
    simp only at h
    split at h
    · rename_i hblank
      cases pure_eq_ok.mp h
      simp [Option.filter, hblank]
    · rename_i hblank
      obtain ⟨asset, hasset, h⟩ := bind_eq_ok.mp h
      cases pure_eq_ok.mp h
      obtain ⟨-, hlocal, -⟩ := CollibraRemoteAsset.create_ok (mapError_eq_ok.mp hasset)
      simp [Option.filter, hblank, hlocal]

/-- The planner finds a local id exactly when the server holds an asset recognised by it. -/
theorem unmatched_iff (h : readRemoteState config s = .ok remote) (l : String) :
    (remoteAssetIndex remote).get? l = none ↔ ∀ item ∈ s.assets, recognised config s item ≠ some l := by
  obtain ⟨raw, hraw, h⟩ := bind_eq_ok.mp h
  obtain ⟨read, hread, h⟩ := bind_eq_ok.mp h
  obtain ⟨listing, -, h⟩ := bind_eq_ok.mp h
  obtain ⟨relations, -, h⟩ := bind_eq_ok.mp h
  cases pure_eq_ok.mp h
  have hraw : ∀ item, item ∈ raw ↔ item ∈ s.assets ∧ item.domainId = config.domainRef ∧
      item.typeId ∈ config.assetTypeRefs.values :=
    fun _ => mem_listAssetsInScope (mapError_eq_ok.mp hraw)
  obtain ⟨hfrom, hto⟩ := mapM_mem hread
  rw [Dict.get?_eq_none, remoteAssetIndex, Dict.mem_keys_index]
  simp only [CollibraRemoteState.create, mem_sortBy, List.mem_filterMap, id_eq, not_exists, not_and]
  constructor
  · intro hnone item hitem hrec
    have hcand : isCandidate config item = true := by
      unfold recognised at hrec
      split at hrec
      · assumption
      · cases hrec
    have hmem : item ∈ raw.filter (isCandidate config) := by
      have hc := hcand
      simp only [isCandidate, decide_eq_true_eq] at hc
      exact List.mem_filter.mpr ⟨(hraw item).mpr ⟨hitem, hc.2⟩, hcand⟩
    obtain ⟨r, hr, hok⟩ := hto item hmem
    rw [← readAsset_localId hcand hok] at hrec
    obtain ⟨asset, rfl, hlocal⟩ := Option.map_eq_some_iff.mp hrec
    exact hnone asset ⟨some asset, hr, rfl⟩ hlocal
  · rintro hnone asset ⟨r, hr, rfl⟩ hlocal
    obtain ⟨item, hitem, hok⟩ := hfrom (some asset) hr
    obtain ⟨hmem, hcand⟩ := List.mem_filter.mp hitem
    refine hnone item ((hraw item).mp hmem).1 ?_
    rw [← readAsset_localId hcand hok, Option.map_some, hlocal]

end Read

section Posts
variable (ids : IdSource)

/-- The server after the posts of some attributes of one asset. -/
def postAttributes (assetId : String) (attributes : List CollibraAttributeSpec)
    (server : LiveServer) : LiveServer :=
  attributes.foldl (fun server a => postAttribute ids server assetId a.attributeTypeRef a.value) server

/-- The record of a new asset. -/
def newAsset (server : LiveServer) (a : CollibraAssetSpec) : LiveAsset :=
  ⟨ids.pick server.ids, a.name, a.displayName, a.assetTypeRef, a.domainRef⟩

/-- The session after the posts of an asset and of some of its attributes. -/
def post (s : LiveSession) (p : CollibraAssetSpec × List CollibraAttributeSpec) : LiveSession :=
  { s with
    server := postAttributes ids (ids.pick s.server.ids) p.2
      { s.server with assets := s.server.assets ++ [newAsset ids s.server p.1] }
    posted := s.posted ++ [(p.1.localId, ids.pick s.server.ids)] }

/-- How far the create path gets when `n` of its calls succeed before one fails. -/
def progress : Nat → List CollibraAssetSpec → List (CollibraAssetSpec × List CollibraAttributeSpec)
  | _, [] => []
  | 0, _ :: _ => []
  | n + 1, a :: rest =>
    if n < a.attributes.length then [(a, a.attributes.take n)]
    else (a, a.attributes) :: progress (n - a.attributes.length) rest

/-- Calls that the creates of these assets make. -/
def createCalls : List CollibraAssetSpec → Nat
  | [] => 0
  | a :: rest => 1 + a.attributes.length + createCalls rest

variable {ids} {fault : CollibraAdapterError}

lemma createAttributes_budget (remoteId : String) (attributes : List CollibraAttributeSpec)
    (s : LiveSession) (n : Nat) (hn : s.remaining = some n) :
    createAttributes ids fault remoteId attributes s =
      if n < attributes.length then
        (.error fault, { s with
          server := postAttributes ids remoteId (attributes.take n) s.server, remaining := some 0 })
      else (.ok (), { s with
        server := postAttributes ids remoteId attributes s.server
        remaining := some (n - attributes.length) }) := by
  induction attributes generalizing s n with
  | nil =>
    obtain ⟨server, remaining, posted⟩ := s
    cases hn
    rfl
  | cons a rest ih =>
    obtain ⟨server, remaining, posted⟩ := s
    cases hn
    cases n with
    | zero => rfl
    | succ n =>
      simp only [createAttributes, LiveSession.spend]
      rw [ih _ n rfl]
      simp only [List.length_cons, Nat.add_lt_add_iff_right, List.take_succ_cons, Nat.add_sub_add_right]
      rfl

lemma createAttributes_unlimited (remoteId : String) (attributes : List CollibraAttributeSpec)
    (s : LiveSession) (hn : s.remaining = none) :
    createAttributes ids fault remoteId attributes s =
      (.ok (), { s with server := postAttributes ids remoteId attributes s.server }) := by
  induction attributes generalizing s with
  | nil => rfl
  | cons a rest ih =>
    simp only [createAttributes, LiveSession.spend, hn]
    rw [ih _ (by rfl)]
    rfl

/-- A create with enough calls left posts everything; otherwise it stops on the failing call. -/
theorem createAsset_budget (asset : CollibraAssetSpec) (s : LiveSession) (n : Nat)
    (hn : s.remaining = some (n + 1)) :
    createAsset ids fault asset s =
      if n < asset.attributes.length then
        (.error fault, { post ids s (asset, asset.attributes.take n) with remaining := some 0 })
      else (.ok (ids.pick s.server.ids), { post ids s (asset, asset.attributes) with
        remaining := some (n - asset.attributes.length) }) := by
  simp only [createAsset, LiveSession.spend, hn]
  rw [createAttributes_budget _ _ _ n rfl]
  by_cases h : n < asset.attributes.length
  · rw [if_pos h, if_pos h]
    rfl
  · rw [if_neg h, if_neg h]
    rfl

theorem createAsset_exhausted (asset : CollibraAssetSpec) (s : LiveSession)
    (hn : s.remaining = some 0) : createAsset ids fault asset s = (.error fault, s) := by
  simp only [createAsset, LiveSession.spend, hn]

theorem createAsset_unlimited (asset : CollibraAssetSpec) (s : LiveSession)
    (hn : s.remaining = none) : createAsset ids fault asset s =
      (.ok (ids.pick s.server.ids), post ids s (asset, asset.attributes)) := by
  obtain ⟨server, remaining, posted⟩ := s
  cases hn
  simp only [createAsset, LiveSession.spend]
  rw [createAttributes_unlimited _ _ _ (by rfl)]
  rfl

end Posts

section Growth
variable {config : CollibraMappingConfig} {ids : IdSource}

lemma postAttributes_eq (assetId : String) (attributes : List CollibraAttributeSpec)
    (server : LiveServer) : ∃ added : List LiveAttribute,
      postAttributes ids assetId attributes server =
        { server with attributes := server.attributes ++ added } ∧
      added.map (fun a => (a.assetId, a.typeId, a.value)) =
        attributes.map (fun a => (assetId, a.attributeTypeRef, a.value)) := by
  induction attributes generalizing server with
  | nil => exact ⟨[], by simp [postAttributes], rfl⟩
  | cons a rest ih =>
    obtain ⟨added, hserver, hadded⟩ :=
      ih (postAttribute ids server assetId a.attributeTypeRef a.value)
    refine ⟨⟨ids.pick server.ids, assetId, a.attributeTypeRef, a.value⟩ :: added, ?_, ?_⟩
    · simp only [postAttributes, List.foldl_cons] at hserver ⊢
      rw [hserver]
      simp [postAttribute]
    · rw [List.map_cons, hadded, List.map_cons]

lemma listedValues_append {attributes added : List LiveAttribute} {assets : List LiveAsset}
    {relations : List LiveRelation} (assetId typeId : String) :
    listedValues ⟨assets, attributes ++ added, relations⟩ assetId typeId =
      listedValues ⟨assets, attributes, relations⟩ assetId typeId ++
        (added.filter (fun a => a.assetId = assetId ∧ a.typeId = typeId)).map LiveAttribute.value := by
  simp only [listedValues, List.filter_append, List.map_append]

/-- The posted values of one type, in order; the last one is the attribute map's. -/
lemma getLast?_posted {assetId typeId : String} {attributes : List CollibraAttributeSpec}
    {added : List LiveAttribute} (h : added.map (fun a => (a.assetId, a.typeId, a.value)) =
      attributes.map (fun a => (assetId, a.attributeTypeRef, a.value))) :
    ((added.filter (fun a => a.assetId = assetId ∧ a.typeId = typeId)).map
      LiveAttribute.value).getLast? = (attributeMap attributes).get? typeId := by
  have hleft : (added.filter (fun a => a.assetId = assetId ∧ a.typeId = typeId)).map
      LiveAttribute.value = ((added.map (fun a => (a.assetId, a.typeId, a.value))).filter
        (fun t => t.1 = assetId ∧ t.2.1 = typeId)).map (fun t => t.2.2) := by
    rw [List.filter_map, List.map_map]
    rfl
  have hright : (attributes.filter (fun a => a.attributeTypeRef = typeId)).map
      CollibraAttributeSpec.value = ((attributes.map
        (fun a => (assetId, a.attributeTypeRef, a.value))).filter
          (fun t => t.1 = assetId ∧ t.2.1 = typeId)).map (fun t => t.2.2) := by
    rw [List.filter_map, List.map_map]
    simp only [Function.comp_def, true_and]
  rw [hleft, h, ← hright, List.getLast?_map, attributeMap, Dict.get?_index]

lemma pick_fresh (s : LiveServer) : (∀ item ∈ s.assets, item.id ≠ ids.pick s.ids) ∧
    ∀ a ∈ s.attributes, a.assetId ≠ ids.pick s.ids := by
  have hfresh := ids.fresh s.ids
  refine ⟨fun item hitem he => hfresh ?_, fun a ha he => hfresh ?_⟩
  · rw [← he]
    simp only [LiveServer.ids, List.mem_append]
    exact .inl (.inl (.inl (List.mem_map_of_mem hitem)))
  · rw [← he]
    simp only [LiveServer.ids, List.mem_append]
    exact .inl (.inr (List.mem_map_of_mem ha))

lemma post_server (s : LiveSession) (p : CollibraAssetSpec × List CollibraAttributeSpec) :
    ∃ added : List LiveAttribute, (post ids s p).server =
      ⟨s.server.assets ++ [newAsset ids s.server p.1], s.server.attributes ++ added,
        s.server.relations⟩ ∧
      added.map (fun a => (a.assetId, a.typeId, a.value)) =
        p.2.map (fun a => (ids.pick s.server.ids, a.attributeTypeRef, a.value)) := by
  obtain ⟨added, hserver, hadded⟩ := @postAttributes_eq ids (ids.pick s.server.ids) p.2
    { s.server with assets := s.server.assets ++ [newAsset ids s.server p.1] }
  exact ⟨added, by rw [post, hserver], hadded⟩

/-- A new asset is recognised by what was posted of it, and no other asset is affected. -/
theorem recognised_post {s : LiveSession} {a : CollibraAssetSpec} {attributes : List CollibraAttributeSpec}
    (l : String) :
    (∃ item ∈ (post ids s (a, attributes)).server.assets,
        recognised config (post ids s (a, attributes)).server item = some l) ↔
      (∃ item ∈ s.server.assets, recognised config s.server item = some l) ∨
        recognisedFrom config (a, attributes) = some l := by
  obtain ⟨added, hserver, hadded⟩ := @post_server ids s (a, attributes)
  obtain ⟨hassets, hattributes⟩ := @pick_fresh ids s.server
  rw [hserver]
  have hold : ∀ item ∈ s.server.assets,
      recognised config ⟨s.server.assets ++ [newAsset ids s.server a],
        s.server.attributes ++ added, s.server.relations⟩ item =
        recognised config s.server item := by
    intro item hitem
    have hnone : added.filter (fun x => x.assetId = item.id ∧
        x.typeId = config.attributeTypeRefs.localId) = [] := by
      rw [List.filter_eq_nil_iff]
      intro x hx
      have hmem := List.mem_map_of_mem
        (f := fun a : LiveAttribute => (a.assetId, a.typeId, a.value)) hx
      rw [hadded] at hmem
      obtain ⟨y, -, hy⟩ := List.mem_map.mp hmem
      simp only [Prod.mk.injEq] at hy
      simp [← hy.1, Ne.symm (hassets item hitem)]
    unfold recognised
    rw [listedValues_append, hnone, List.map_nil, List.append_nil]
    rfl
  have hself : recognised config ⟨s.server.assets ++ [newAsset ids s.server a],
      s.server.attributes ++ added, s.server.relations⟩ (newAsset ids s.server a) =
        recognisedFrom config (a, attributes) := by
    have hcand : isCandidate config (newAsset ids s.server a) = true ↔
        a.domainRef = config.domainRef ∧ a.assetTypeRef ∈ config.assetTypeRefs.values := by
      simp [isCandidate, newAsset, ne_empty_of_not_blank (ids.nonblank _)]
    have hempty : listedValues ⟨s.server.assets ++ [newAsset ids s.server a],
        s.server.attributes, s.server.relations⟩ (ids.pick s.server.ids)
        config.attributeTypeRefs.localId = [] := by
      rw [listedValues, List.map_eq_nil_iff, List.filter_eq_nil_iff]
      intro x hx
      simp [hattributes x hx]
    unfold recognised recognisedFrom
    by_cases hmanaged : a.domainRef = config.domainRef ∧ a.assetTypeRef ∈ config.assetTypeRefs.values
    · rw [if_pos (hcand.mpr hmanaged), if_pos hmanaged, listedValues_append]
      change nonBlank (listedValues _ (ids.pick s.server.ids) _ ++ _).getLast? = _
      rw [hempty, List.nil_append, ← getLast?_posted hadded]
      rfl
    · rw [if_neg (mt hcand.mp hmanaged), if_neg hmanaged]
  simp only [List.mem_append, List.mem_singleton]
  constructor
  · rintro ⟨item, hitem | rfl, hrec⟩
    · exact .inl ⟨item, hitem, by rw [← hold item hitem, hrec]⟩
    · exact .inr (by rw [← hself, hrec])
  · rintro (⟨item, hitem, hrec⟩ | hrec)
    · exact ⟨item, .inl hitem, by rw [hold item hitem, hrec]⟩
    · exact ⟨_, .inr rfl, by rw [hself, hrec]⟩

/-- After a series of posts the read recognises what it did before and what the posts add. -/
theorem recognised_posts {s : LiveSession} {posts : List (CollibraAssetSpec × List CollibraAttributeSpec)}
    (l : String) :
    (∃ item ∈ (posts.foldl (post ids) s).server.assets,
        recognised config (posts.foldl (post ids) s).server item = some l) ↔
      (∃ item ∈ s.server.assets, recognised config s.server item = some l) ∨
        ∃ p ∈ posts, recognisedFrom config p = some l := by
  induction posts generalizing s with
  | nil => simp
  | cons p rest ih =>
    rw [List.foldl_cons, ih, recognised_post, or_assoc]
    simp only [List.mem_cons, exists_eq_or_imp]

end Growth

end CollibraGovernance.Collibra.LiveCollibraAdapter
