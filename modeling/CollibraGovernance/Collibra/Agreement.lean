import CollibraGovernance.Collibra.CatalogLive
import CollibraGovernance.Collibra.CatalogMock
import CollibraGovernance.Collibra.LiveResume

/-! The live adapter and the mock carry out one plan alike: from one catalog they reach the same managed state up to the
ids of new assets, but for display names that only the mock clears. -/
namespace CollibraGovernance.Collibra
open Library

section Patches
variable {config : CollibraMappingConfig} {c : CatalogAsset} {a : CollibraAssetSpec} {pn pd : Bool}

/-- What two catalogs keep of one asset, their display names apart. -/
structure SameButDisplayName (x y : CatalogAsset) : Prop where
  name : y.name = x.name
  assetTypeRef : y.assetTypeRef = x.assetTypeRef
  domainRef : y.domainRef = x.domainRef
  value : y.value = x.value

lemma SameButDisplayName.refl (x : CatalogAsset) : SameButDisplayName x x := ⟨rfl, rfl, rfl, rfl⟩

lemma SameButDisplayName.managedAs {x y : CatalogAsset} (h : SameButDisplayName x y) :
    y.managedAs config = x.managedAs config := by
  rw [CatalogAsset.managedAs, CatalogAsset.managedAs, h.assetTypeRef, h.domainRef, h.value]

/-- With one attribute of a type at most, comparing with the old value and laying over it come to the same. -/
lemma foldl_overlaid (htypes : (a.attributes.map CollibraAttributeSpec.attributeTypeRef).Nodup) (t : String)
    (old : Option String) : (LiveCollibraAdapter.specValues a.attributes t).foldl (LiveCollibraAdapter.overlaid old) old =
      ((attributeMap a.attributes).get? t).or old := by
  rw [attributeMap, Dict.get?_index, ← List.getLast?_map]
  change _ = (LiveCollibraAdapter.specValues a.attributes t).getLast?.or old
  have hlength : (LiveCollibraAdapter.specValues a.attributes t).length ≤ 1 := by
    rw [LiveCollibraAdapter.specValues, List.length_map, ← List.countP_eq_length_filter]
    have hcount := List.nodup_iff_count_le_one.mp htypes t
    rw [List.count, List.countP_map] at hcount
    refine le_of_eq_of_le (List.countP_congr fun x _ => ?_) hcount
    simp
  cases hvalues : LiveCollibraAdapter.specValues a.attributes t with
  | nil => rfl
  | cons v rest =>
    rw [hvalues, List.length_cons] at hlength
    obtain rfl : rest = [] := List.length_eq_zero_iff.mp (by omega)
    rw [List.foldl_cons, List.foldl_nil, LiveCollibraAdapter.overlaid]
    split_ifs with hold
    · exact hold
    · rfl

lemma patches_same (htypes : (a.attributes.map CollibraAttributeSpec.attributeTypeRef).Nodup) :
    SameButDisplayName (LiveCollibraAdapter.patch config c a pn pd) (MockCollibraAdapter.patch config c a pn pd) := by
  refine ⟨rfl, rfl, rfl, ?_⟩
  funext t
  change (specValue config a t).or (c.value t) = if _ then _ else _
  rw [specValue]
  split_ifs
  · exact (foldl_overlaid htypes t (c.value t)).symm
  · rfl

end Patches

/-- The planner finds a display name of a matched asset that is no longer desired. -/
def ClearsDisplayName (desired : CollibraDesiredState) (remote : CollibraRemoteState) (r : CollibraRemoteAsset) : Prop :=
  ∃ a, Differs desired remote a r ∧ a.displayName = none ∧ orNone r.displayName ≠ none

section Catalogs
variable {config : CollibraMappingConfig} {desired : CollibraDesiredState} {remote : CollibraRemoteState}
variable {newLive newMock : String → String} {c live mock : Catalog}

/-- The id in the mock of an asset of the live server: another one where the run has created it. -/
def renamedId (desired : CollibraDesiredState) (remote : CollibraRemoteState) (newLive newMock : String → String)
    (id : String) : String :=
  (((newAssets desired remote).find? (fun a => newLive a.localId = id)).map (fun a => newMock a.localId)).getD id

/-- Two catalogs after one plan, carried out from the same catalog by the two adapters. -/
structure BothApplied (config : CollibraMappingConfig) (desired : CollibraDesiredState) (remote : CollibraRemoteState)
    (newLive newMock : String → String) (c live mock : Catalog) : Prop where
  live : Applied config (LiveCollibraAdapter.patch config) desired remote newLive c live
  mock : Applied config (MockCollibraAdapter.patch config) desired remote newMock c mock
  shows : Shows config c remote
  types : ∀ a ∈ desired.assets, (a.attributes.map CollibraAttributeSpec.attributeTypeRef).Nodup

variable (h : BothApplied config desired remote newLive newMock c live mock)
include h

lemma renamedId_new {a : CollibraAssetSpec} (ha : a ∈ newAssets desired remote) :
    renamedId desired remote newLive newMock (newLive a.localId) = newMock a.localId := by
  rw [renamedId]
  cases hfind : (newAssets desired remote).find? (fun b => newLive b.localId = newLive a.localId) with
  | none => exact absurd (decide_eq_true rfl) (List.find?_eq_none.mp hfind a ha)
  | some b =>
    have hsame : newLive b.localId = newLive a.localId := by simpa using List.find?_some hfind
    exact congrArg newMock (h.live.distinct b (List.mem_of_find?_eq_some hfind) a ha hsame)

lemma renamedId_old {id : String} (hid : (c.assets id).isSome = true) :
    renamedId desired remote newLive newMock id = id := by
  rw [renamedId]
  cases hfind : (newAssets desired remote).find? (fun b => newLive b.localId = id) with
  | none => rfl
  | some b =>
    have hsame : newLive b.localId = id := by simpa using List.find?_some hfind
    rw [← hsame, h.live.fresh b (List.mem_of_find?_eq_some hfind)] at hid
    cases hid

lemma matched_stored {r : CollibraRemoteAsset} (hr : r ∈ remote.assets) : (c.assets r.remoteId).isSome = true := by
  obtain ⟨a, ha⟩ := h.shows.assets r hr
  rw [ha.stored]
  rfl

lemma updated_stored {u : UpdateRequest} (hu : u ∈ updateOrder desired remote) : (c.assets u.remoteId).isSome = true := by
  obtain ⟨a, ha, -⟩ := h.live.patched u hu
  rw [ha]
  rfl

/-- A stored asset of the live catalog is new or was there before. -/
lemma live_stored {id : String} (hid : (live.assets id).isSome = true) :
    (∃ a ∈ newAssets desired remote, id = newLive a.localId) ∨ (c.assets id).isSome = true := by
  by_cases hnew : ∃ a ∈ newAssets desired remote, id = newLive a.localId
  · exact .inl hnew
  · right
    by_cases hupdated : id ∈ (updateOrder desired remote).map UpdateRequest.remoteId
    · obtain ⟨u, hu, rfl⟩ := List.mem_map.mp hupdated
      exact updated_stored h hu
    · rw [← h.live.kept id (fun a ha heq => hnew ⟨a, ha, heq⟩) hupdated]
      exact hid

/-- How the display names of one asset relate after the two runs. -/
structure NamesAgree (desired : CollibraDesiredState) (remote : CollibraRemoteState) (id : String)
    (live mock : Option String) : Prop where
  kept : (∀ r ∈ remote.assets, r.remoteId = id → ¬ ClearsDisplayName desired remote r) → mock = live
  cleared : ∀ r ∈ remote.assets, r.remoteId = id → ClearsDisplayName desired remote r →
    mock = none ∧ live = r.displayName

omit h in
lemma NamesAgree.unmatched {id : String} {d : Option String} (hid : ∀ r ∈ remote.assets, r.remoteId ≠ id) :
    NamesAgree desired remote id d d :=
  ⟨fun _ => rfl, fun r hr hsame => absurd hsame (hid r hr)⟩

omit h in
/-- A matched asset whose display name is to be cleared is updated. -/
lemma ClearsDisplayName.update {r : CollibraRemoteAsset} (hclears : ClearsDisplayName desired remote r) :
    ∃ a, a.displayName = none ∧ orNone r.displayName ≠ none ∧ plannedUpdate a r ∈ updateOrder desired remote := by
  obtain ⟨a, hdiffers, hnone, hsome⟩ := hclears
  exact ⟨a, hnone, hsome, mem_updateOrder.mpr ⟨r, hdiffers, rfl⟩⟩

/-- An updated asset has in the mock what it has on the live server, but for a display name that is cleared. -/
lemma updated_agrees {u : UpdateRequest} (hu : u ∈ updateOrder desired remote) : ∃ x y,
    live.assets u.remoteId = some x ∧ mock.assets u.remoteId = some y ∧ SameButDisplayName x y ∧
      NamesAgree desired remote u.remoteId x.displayName y.displayName := by
  obtain ⟨old, hold, hlive⟩ := h.live.patched u hu
  obtain ⟨old', hold', hmock⟩ := h.mock.patched u hu
  obtain rfl := Option.some.inj (hold.symm.trans hold')
  obtain ⟨r, hdiffers, hur⟩ := mem_updateOrder.mp hu
  have hdesired : u.asset ∈ desired.assets := (mem_desiredAssetIndex (Dict.get?_eq_some.mp hdiffers.asked)).1
  have hr : r ∈ remote.assets := (MockCollibraAdapter.remoteAssetIndex_source hdiffers.found).1
  have hid : u.remoteId = r.remoteId := congrArg UpdateRequest.remoteId hur
  have hpd : u.patchDisplayName = decide (orNone u.asset.displayName ≠ orNone r.displayName) :=
    congrArg UpdateRequest.patchDisplayName hur
  have hname : r.displayName = old.displayName := by
    obtain ⟨shown, hshown⟩ := h.shows.assets r hr
    obtain rfl : shown = old := Option.some.inj (hshown.stored.symm.trans (hid ▸ hold))
    exact hshown.displayName
  refine ⟨_, _, hlive, hmock, patches_same (h.types _ hdesired), fun hkept => ?_, fun r' hr' hsame hclears => ?_⟩
  · change (if u.patchDisplayName then u.asset.displayName else old.displayName) =
      ((if u.patchDisplayName then u.asset.displayName else none) <|> old.displayName)
    cases hflag : u.patchDisplayName with
    | false => rfl
    | true =>
      cases hdisplay : u.asset.displayName with
      | some d => rfl
      | none =>
        rw [hflag, hdisplay] at hpd
        have hne := of_decide_eq_true hpd.symm
        exact absurd ⟨u.asset, hdiffers, hdisplay, fun heq => hne heq.symm⟩ (hkept r hr hid.symm)
  · obtain rfl : r' = r := List.inj_on_of_nodup_map h.shows.ids hr' hr (hsame.trans hid)
    obtain ⟨a, hnone, hsome, hplanned⟩ := hclears.update
    obtain rfl : u = plannedUpdate a r' := List.inj_on_of_nodup_map (updateOrder_ids_nodup h.shows.ids) hu hplanned hid
    have hflag : (plannedUpdate a r').patchDisplayName = true := by
      rw [plannedUpdate, hnone]
      exact decide_eq_true fun heq => hsome heq.symm
    have hdesiredName : (plannedUpdate a r').asset.displayName = none := hnone
    change (if (plannedUpdate a r').patchDisplayName then (plannedUpdate a r').asset.displayName else old.displayName) =
        none ∧ ((if (plannedUpdate a r').patchDisplayName then (plannedUpdate a r').asset.displayName else none) <|>
          old.displayName) = r'.displayName
    rw [hflag, hdesiredName, hname]
    exact ⟨rfl, rfl⟩

/-- Every asset of the live catalog is in the mock's, under its id there. -/
theorem live_in_mock {id : String} {x : CatalogAsset} (hx : live.assets id = some x) :
    ∃ y, mock.assets (renamedId desired remote newLive newMock id) = some y ∧ SameButDisplayName x y ∧
      NamesAgree desired remote id x.displayName y.displayName := by
  rcases live_stored h (by rw [hx]; rfl) with ⟨a, ha, rfl⟩ | hold
  · rw [h.live.created a ha] at hx
    obtain rfl := Option.some.inj hx
    rw [renamedId_new h ha]
    refine ⟨_, h.mock.created a ha, .refl _, .unmatched fun r hr heq => ?_⟩
    have hstored := matched_stored h hr
    rw [heq, h.live.fresh a ha] at hstored
    cases hstored
  · rw [renamedId_old h hold]
    by_cases hupdated : id ∈ (updateOrder desired remote).map UpdateRequest.remoteId
    · obtain ⟨u, hu, rfl⟩ := List.mem_map.mp hupdated
      obtain ⟨x', y, hlive, hmock, hsame, hnames⟩ := updated_agrees h hu
      obtain rfl := Option.some.inj (hx.symm.trans hlive)
      exact ⟨y, hmock, hsame, hnames⟩
    · have hne : ∀ a ∈ newAssets desired remote, id ≠ newLive a.localId ∧ id ≠ newMock a.localId := by
        intro a ha
        constructor
        · rintro rfl
          rw [h.live.fresh a ha] at hold
          cases hold
        · rintro rfl
          rw [h.mock.fresh a ha] at hold
          cases hold
      rw [h.live.kept id (fun a ha => (hne a ha).1) hupdated] at hx
      refine ⟨x, ?_, .refl x, fun _ => rfl, fun r hr hid hclears => ?_⟩
      · rw [h.mock.kept id (fun a ha => (hne a ha).2) hupdated]
        exact hx
      · obtain ⟨a, -, -, hplanned⟩ := hclears.update
        exact absurd (List.mem_map.mpr ⟨_, hplanned, hid⟩) hupdated

lemma live_of_old {id : String} (hold : (c.assets id).isSome = true) : (live.assets id).isSome = true := by
  by_cases hupdated : id ∈ (updateOrder desired remote).map UpdateRequest.remoteId
  · obtain ⟨u, hu, rfl⟩ := List.mem_map.mp hupdated
    obtain ⟨x, y, hlive, -⟩ := updated_agrees h hu
    rw [hlive]
    rfl
  · rw [h.live.kept id ?_ hupdated]
    · exact hold
    · rintro a ha rfl
      rw [h.live.fresh a ha] at hold
      cases hold

/-- Every asset of the mock's catalog is one of the live catalog. -/
theorem mock_in_live {id : String} (hid : (mock.assets id).isSome = true) :
    ∃ id', (live.assets id').isSome = true ∧ renamedId desired remote newLive newMock id' = id := by
  by_cases hnew : ∃ a ∈ newAssets desired remote, id = newMock a.localId
  · obtain ⟨a, ha, rfl⟩ := hnew
    exact ⟨newLive a.localId, by rw [h.live.created a ha]; rfl, renamedId_new h ha⟩
  · have hold : (c.assets id).isSome = true := by
      by_cases hupdated : id ∈ (updateOrder desired remote).map UpdateRequest.remoteId
      · obtain ⟨u, hu, rfl⟩ := List.mem_map.mp hupdated
        exact updated_stored h hu
      · rw [← h.mock.kept id (fun a ha heq => hnew ⟨a, ha, heq⟩) hupdated]
        exact hid
    exact ⟨id, live_of_old h hold, renamedId_old h hold⟩

/-- Different assets of the live catalog have different ids in the mock. -/
theorem renamedId_injOn {i j : String} (hi : (live.assets i).isSome = true) (hj : (live.assets j).isSome = true)
    (hsame : renamedId desired remote newLive newMock i = renamedId desired remote newLive newMock j) : i = j := by
  have hfresh : ∀ a ∈ newAssets desired remote, ∀ k, (c.assets k).isSome = true → newMock a.localId ≠ k := by
    rintro a ha _ hk rfl
    rw [h.mock.fresh a ha] at hk
    cases hk
  rcases live_stored h hi with ⟨a, ha, rfl⟩ | hiold
  · rw [renamedId_new h ha] at hsame
    rcases live_stored h hj with ⟨b, hb, rfl⟩ | hjold
    · rw [renamedId_new h hb] at hsame
      rw [h.mock.distinct a ha b hb hsame]
    · rw [renamedId_old h hjold] at hsame
      exact absurd hsame (hfresh a ha j hjold)
  · rw [renamedId_old h hiold] at hsame
    rcases live_stored h hj with ⟨b, hb, rfl⟩ | hjold
    · rw [renamedId_new h hb] at hsame
      exact absurd hsame.symm (hfresh b hb i hiold)
    · rw [hsame, renamedId_old h hjold]

/-- A relationship between the ids that the mock has for its ends. -/
def renamedLink {γ : Type} (rename : String → String) (l : String × String × γ) : String × String × γ :=
  (rename l.1, rename l.2.1, l.2.2)

lemma endpoint_renamed (l : String) : endpoint desired remote newMock l =
    (endpoint desired remote newLive l).map (renamedId desired remote newLive newMock) := by
  unfold endpoint
  split_ifs with hnew
  · obtain ⟨a, ha, rfl⟩ := List.mem_map.mp hnew
    exact congrArg some (renamedId_new h ha).symm
  · cases hr : (remoteAssetIndex remote).get? l with
    | none => rfl
    | some r =>
      have hstored := matched_stored h (MockCollibraAdapter.remoteAssetIndex_source hr).1
      exact congrArg some (renamedId_old h hstored).symm

lemma endpoint_stored {l id : String} (hl : endpoint desired remote newLive l = some id) :
    (live.assets id).isSome = true := by
  unfold endpoint at hl
  split_ifs at hl with hnew
  · obtain ⟨a, ha, rfl⟩ := List.mem_map.mp hnew
    rw [← Option.some.inj hl, h.live.created a ha]
    rfl
  · obtain ⟨r, hr, rfl⟩ := Option.map_eq_some_iff.mp hl
    exact live_of_old h (matched_stored h (MockCollibraAdapter.remoteAssetIndex_source hr).1)

/-- The runs add the same relationships, between the ids of each side. -/
theorem links_renamed (hclosed : c.Closed) :
    mock.links = live.links.map (renamedLink (renamedId desired remote newLive newMock)) := by
  rw [h.live.links, h.mock.links, Multiset.map_add]
  congr 1
  · refine (Multiset.map_id c.links).symm.trans (Multiset.map_congr rfl fun l hl => ?_)
    obtain ⟨hsource, htarget⟩ := hclosed l hl
    rw [renamedLink, renamedId_old h hsource, renamedId_old h htarget]
    rfl
  · rw [Multiset.map_coe, List.map_map]
    refine congrArg Multiset.ofList (List.map_congr_left fun rel hrel => ?_)
    obtain ⟨hsource, htarget⟩ := h.live.known rel hrel
    obtain ⟨source, hsource⟩ := Option.isSome_iff_exists.mp hsource
    obtain ⟨target, htarget⟩ := Option.isSome_iff_exists.mp htarget
    simp only [newLink, endpoint_renamed h, hsource, htarget, Function.comp_apply, renamedLink, Option.map_some,
      Option.getD_some]

theorem live_closed (hclosed : c.Closed) : live.Closed := by
  intro l hl
  rw [h.live.links, Multiset.mem_add] at hl
  rcases hl with hl | hl
  · exact ⟨live_of_old h (hclosed l hl).1, live_of_old h (hclosed l hl).2⟩
  · obtain ⟨rel, hrel, rfl⟩ := List.mem_map.mp (Multiset.mem_coe.mp hl)
    obtain ⟨hsource, htarget⟩ := h.live.known rel hrel
    obtain ⟨source, hsource⟩ := Option.isSome_iff_exists.mp hsource
    obtain ⟨target, htarget⟩ := Option.isSome_iff_exists.mp htarget
    simp only [newLink, hsource, htarget, Option.getD_some]
    exact ⟨endpoint_stored h hsource, endpoint_stored h htarget⟩

lemma localIdOf_renamed {id : String} (hid : (live.assets id).isSome = true) :
    mock.localIdOf config (renamedId desired remote newLive newMock id) = live.localIdOf config id := by
  obtain ⟨x, hx⟩ := Option.isSome_iff_exists.mp hid
  obtain ⟨y, hy, hsame, -⟩ := live_in_mock h hx
  rw [Catalog.localIdOf, Catalog.localIdOf, hx, hy, Option.bind_some, Option.bind_some, hsame.managedAs]

lemma shownLink_renamed (hclosed : c.Closed) {l : CatalogLink} (hl : l ∈ live.links) :
    mock.shownLink config (renamedLink (renamedId desired remote newLive newMock) l) =
      (live.shownLink config l).map (renamedLink (renamedId desired remote newLive newMock)) := by
  obtain ⟨hsource, htarget⟩ := live_closed h hclosed l hl
  unfold Catalog.shownLink
  rw [renamedLink]
  dsimp only
  rw [localIdOf_renamed h hsource, localIdOf_renamed h htarget]
  split_ifs
  · cases live.localIdOf config l.1 with
    | none => rfl
    | some source => cases live.localIdOf config l.2.1 <;> rfl
  · rfl

end Catalogs

/-! ### The agreement -/

/-- Two records of one asset, but for their remote ids and display names. -/
structure SameRecord (live mock : CollibraRemoteAsset) : Prop where
  localId : mock.localId = live.localId
  name : mock.name = live.name
  assetTypeRef : mock.assetTypeRef = live.assetTypeRef
  attributes : (remoteAttributeMap mock.managedAttributes).Same (remoteAttributeMap live.managedAttributes)

/-- What is read of the two sides after one plan: the same managed assets, each once, and the same relationships, up to a
renaming of remote ids; display names agree but where the plan clears one. -/
structure SameState (rename : String → String) (desired : CollibraDesiredState) (remote live mock : CollibraRemoteState) :
    Prop where
  assets : ∀ r ∈ live.assets, ∃ r' ∈ mock.assets, r'.remoteId = rename r.remoteId ∧ SameRecord r r' ∧
    NamesAgree desired remote r.remoteId r.displayName r'.displayName
  onto : ∀ r' ∈ mock.assets, ∃ r ∈ live.assets, rename r.remoteId = r'.remoteId
  once : ∀ r ∈ live.assets, ∀ r' ∈ live.assets, rename r.remoteId = rename r'.remoteId → r = r'
  relationships : Multiset.ofList (mock.relationships.map relationshipView) =
    Multiset.ofList ((live.relationships.map relationshipView).map (renamedLink rename))

section Agreement
variable {config : CollibraMappingConfig} {desired : CollibraDesiredState} {remote : CollibraRemoteState}
variable {newLive newMock : String → String} {c live mock : Catalog} {liveRead mockRead : CollibraRemoteState}

/-- What two catalogs show after one plan. -/
theorem sameState_of_applied (h : BothApplied config desired remote newLive newMock c live mock) (hclosed : c.Closed)
    (hlive : Shows config live liveRead) (hmock : Shows config mock mockRead) :
    SameState (renamedId desired remote newLive newMock) desired remote liveRead mockRead := by
  have hstored : ∀ r ∈ liveRead.assets, (live.assets r.remoteId).isSome = true := by
    intro r hr
    obtain ⟨x, hx⟩ := hlive.assets r hr
    rw [hx.stored]
    rfl
  refine ⟨fun r hr => ?_, fun r' hr' => ?_, fun r hr r' hr' hsame => ?_, ?_⟩
  · obtain ⟨x, hx⟩ := hlive.assets r hr
    obtain ⟨y, hy, hsame, hnames⟩ := live_in_mock h hx.stored
    have hlocal : mock.localIdOf config (renamedId desired remote newLive newMock r.remoteId) = some r.localId := by
      rw [Catalog.localIdOf, hy, Option.bind_some, hsame.managedAs, hx.managed]
    obtain ⟨r', hr', hid⟩ := hmock.complete _ _ hlocal
    obtain ⟨y', hy'⟩ := hmock.assets r' hr'
    obtain rfl : y' = y := Option.some.inj (hy'.stored.symm.trans (hid ▸ hy))
    refine ⟨r', hr', hid, ⟨?_, ?_, ?_, fun t => ?_⟩, ?_⟩
    · have hmanaged := hy'.managed
      rw [hsame.managedAs, hx.managed] at hmanaged
      exact (Option.some.inj hmanaged).symm
    · rw [hy'.name, hsame.name, hx.name]
    · rw [hy'.assetTypeRef, hsame.assetTypeRef, hx.assetTypeRef]
    · rw [hy'.attributes, hx.attributes, hsame.value]
    · rw [hx.displayName, hy'.displayName]
      exact hnames
  · obtain ⟨y, hy⟩ := hmock.assets r' hr'
    have hsome : (mock.assets r'.remoteId).isSome = true := by
      rw [hy.stored]
      rfl
    obtain ⟨id, hid, hrenamed⟩ := mock_in_live h hsome
    have hlocal : live.localIdOf config id = some r'.localId := by
      rw [← localIdOf_renamed h hid, hrenamed, Catalog.localIdOf, hy.stored, Option.bind_some, hy.managed]
    obtain ⟨r, hr, rfl⟩ := hlive.complete id _ hlocal
    exact ⟨r, hr, hrenamed⟩
  · exact List.inj_on_of_nodup_map hlive.ids hr hr' (renamedId_injOn h (hstored r hr) (hstored r' hr') hsame)
  · rw [hmock.links, links_renamed h hclosed, Multiset.filterMap_map, ← Multiset.map_coe, hlive.links,
      Multiset.map_filterMap]
    have hshown : ∀ l ∈ live.links, (mock.shownLink config ∘ renamedLink (renamedId desired remote newLive newMock)) l =
        (live.shownLink config l).map (renamedLink (renamedId desired remote newLive newMock)) :=
      fun l hl => shownLink_renamed h hclosed hl
    obtain ⟨links, hlinks⟩ := Quotient.exists_rep live.links
    rw [← hlinks] at hshown ⊢
    exact congrArg Multiset.ofList (List.filterMap_congr hshown)

variable {ids : IdSource} {fault : CollibraAdapterError} {uuid5 : String → BitVec 128}

/-- One plan carried out by the live adapter on a server and by the mock on a store with the same catalog, both to the
end, leaves states that a read shows to be the same, up to the ids of the assets the runs created; but a display name
that is no longer desired is cleared by the mock only. -/
theorem live_agrees_with_mock {session session' : LiveSession} {store store' : MockStore} {liveResult mockResult : SyncResult}
    (hkept : LiveCollibraAdapter.Kept session.server) (hnumbered : MockCollibraAdapter.Numbered store)
    (hcatalog : MockCollibraAdapter.catalog config store = LiveCollibraAdapter.catalog config session.server)
    (hclosed : (LiveCollibraAdapter.catalog config session.server).Closed)
    (htypes : ∀ a ∈ desired.assets, (a.attributes.map CollibraAttributeSpec.attributeTypeRef).Nodup)
    (hread : LiveCollibraAdapter.readRemoteState config session.server = .ok remote)
    (hlive : executeSyncPlan (LiveCollibraAdapter.adapter config ids fault) (buildSyncPlan desired remote) true session =
      (liveResult, session'))
    (hmock : executeSyncPlan (MockCollibraAdapter.adapter config uuid5) (buildSyncPlan desired remote) true store =
      (mockResult, store'))
    (hliveOk : liveResult.success = true) (hmockOk : mockResult.success = true)
    (hliveRead : LiveCollibraAdapter.readRemoteState config session'.server = .ok liveRead)
    (hmockRead : (MockCollibraAdapter.readRemoteState config store').1 = .ok mockRead) :
    ∃ rename : String → String, (∀ r ∈ remote.assets, rename r.remoteId = r.remoteId) ∧
      SameState rename desired remote liveRead mockRead := by
  have hshows := LiveCollibraAdapter.shows_readRemoteState hkept hread
  have hmatched : ∀ r ∈ remote.assets,
      ((LiveCollibraAdapter.catalog config session.server).assets r.remoteId).isSome = true := by
    intro r hr
    obtain ⟨a, ha⟩ := hshows.assets r hr
    rw [ha.stored]
    rfl
  obtain ⟨hkept', newLive, hliveApplied⟩ := run_applied (s := session) LiveCollibraAdapter.live_actsOn hkept hshows.ids
    hmatched hlive hliveOk
  obtain ⟨-, newMock, hmockApplied⟩ := run_applied (s := store) MockCollibraAdapter.mock_actsOn hnumbered hshows.ids
    (hcatalog ▸ hmatched) hmock hmockOk
  have happlied : BothApplied config desired remote newLive newMock
      (LiveCollibraAdapter.catalog config session.server) (LiveCollibraAdapter.catalog config session'.server)
      (MockCollibraAdapter.catalog config store') :=
    ⟨hliveApplied, hcatalog ▸ hmockApplied, hshows, htypes⟩
  have hstore : MockCollibraAdapter.readStore config store' = .ok mockRead := by
    cases hresult : MockCollibraAdapter.readRemoteState config store' with
    | mk outcome s =>
      rw [hresult] at hmockRead
      obtain rfl : outcome = .ok mockRead := hmockRead
      exact (MockCollibraAdapter.readRemoteState_eq_ok.mp hresult).2.1
  exact ⟨renamedId desired remote newLive newMock, fun r hr => renamedId_old happlied (hmatched r hr),
    sameState_of_applied happlied hclosed (LiveCollibraAdapter.shows_readRemoteState hkept' hliveRead)
      (MockCollibraAdapter.shows_readStore hstore)⟩

end Agreement

/-! ### Two districts -/

section Districts
open MockCollibraAdapter (emptyStore bareAsset shortMappingConfig warehouseUuid)
open LiveCollibraAdapter (unaryIds timeout)

/-- A server that knows one district, under an old name and with a display name. -/
def northServer : LiveServer := ⟨[⟨"a", "n", some "North", "db", "dom"⟩], [⟨"t", "a", "li", "db:n"⟩], []⟩

def northStore : MockStore :=
  { emptyStore with assets := Dict.empty.set "a" ⟨"n", some "North", "db", "dom", Dict.empty.set "li" ⟨"db:n", "t"⟩⟩ }

lemma northAttribute_sorted : SortedBy CollibraAttributeSpec.attributeTypeRef [⟨"li", "db:n", Eq.refl false⟩] :=
  List.pairwise_singleton _ _

/-- The district under its new name, without a display name. -/
def northAsset : CollibraAssetSpec :=
  ⟨"db:n", "north", "db", "dom", none, [⟨"li", "db:n", Eq.refl false⟩], Eq.refl false, Eq.refl false, Eq.refl false,
    Eq.refl false, Eq.refl true, northAttribute_sorted⟩

def districtLink : CollibraRelationshipSpec :=
  ⟨"n-s", "db:n", "db:s", "ds", Eq.refl false, Eq.refl false, Eq.refl false, Eq.refl false⟩

def linkedDistricts : CollibraDesiredState :=
  CollibraDesiredState.create [northAsset, bareAsset "db:s" "s" (Eq.refl false) (Eq.refl false)] [districtLink]

def northSession : LiveSession := ⟨northServer, none, []⟩

def liveDistricts (remote : CollibraRemoteState) : SyncResult × LiveSession :=
  executeSyncPlan (LiveCollibraAdapter.adapter shortMappingConfig unaryIds timeout)
    (buildSyncPlan linkedDistricts remote) true northSession

def mockDistricts (remote : CollibraRemoteState) : SyncResult × MockStore :=
  executeSyncPlan (MockCollibraAdapter.adapter shortMappingConfig warehouseUuid)
    (buildSyncPlan linkedDistricts remote) true northStore

lemma liveDistricts_eq (remote : CollibraRemoteState) :
    executeSyncPlan (LiveCollibraAdapter.adapter shortMappingConfig unaryIds timeout)
      (buildSyncPlan linkedDistricts remote) true northSession = ((liveDistricts remote).1, (liveDistricts remote).2) := by
  unfold liveDistricts
  exact (Prod.eta _).symm

lemma mockDistricts_eq (remote : CollibraRemoteState) :
    executeSyncPlan (MockCollibraAdapter.adapter shortMappingConfig warehouseUuid)
      (buildSyncPlan linkedDistricts remote) true northStore = ((mockDistricts remote).1, (mockDistricts remote).2) := by
  unfold mockDistricts
  exact (Prod.eta _).symm

lemma northCatalog : MockCollibraAdapter.catalog shortMappingConfig northStore =
    LiveCollibraAdapter.catalog shortMappingConfig northSession.server := by
  rw [MockCollibraAdapter.catalog, LiveCollibraAdapter.catalog, Catalog.mk.injEq]
  refine ⟨funext fun id => ?_, rfl⟩
  by_cases hid : id = "a"
  · subst hid
    change some _ = some _
    refine congrArg some (CatalogAsset.mk.injEq .. ▸ ⟨rfl, rfl, rfl, rfl, funext fun t => ?_⟩)
    rw [LiveCollibraAdapter.listedValue]
    refine if_congr Iff.rfl ?_ rfl
    by_cases ht : t = "li"
    · subst ht
      rfl
    · rw [MockCollibraAdapter.valueAt, Dict.get?_set_of_ne _ _ ht]
      simp [LiveCollibraAdapter.listedValues, northSession, northServer, Ne.symm ht]
  · rw [show northStore.assets.get? id = none from Dict.get?_set_of_ne _ _ hid]
    simp [northSession, northServer, Ne.symm hid]

/-- The north district is renamed and the south one is created and linked, the same on both sides. -/
theorem districts_agree : ∃ remote liveRead mockRead rename,
    LiveCollibraAdapter.readRemoteState shortMappingConfig northSession.server = .ok remote ∧
    LiveCollibraAdapter.readRemoteState shortMappingConfig (liveDistricts remote).2.server = .ok liveRead ∧
    (MockCollibraAdapter.readRemoteState shortMappingConfig (mockDistricts remote).2).1 = .ok mockRead ∧
    SameState rename linkedDistricts remote liveRead mockRead := by
  have hreadable : (LiveCollibraAdapter.readRemoteState shortMappingConfig northSession.server).toOption.isSome = true := by
    decide +kernel
  obtain ⟨remote, hread⟩ := exists_ok hreadable
  have hruns : (LiveCollibraAdapter.readRemoteState shortMappingConfig northSession.server).toOption.map (fun remote =>
      decide ((liveDistricts remote).1.success = true ∧ (mockDistricts remote).1.success = true ∧
        (LiveCollibraAdapter.readRemoteState shortMappingConfig (liveDistricts remote).2.server).toOption.isSome = true ∧
        (MockCollibraAdapter.readRemoteState shortMappingConfig (mockDistricts remote).2).1.toOption.isSome = true)) =
      some true := by
    decide +kernel
  rw [hread] at hruns
  have hfacts : (liveDistricts remote).1.success = true ∧ (mockDistricts remote).1.success = true ∧
      (LiveCollibraAdapter.readRemoteState shortMappingConfig (liveDistricts remote).2.server).toOption.isSome = true ∧
      (MockCollibraAdapter.readRemoteState shortMappingConfig (mockDistricts remote).2).1.toOption.isSome = true :=
    of_decide_eq_true (Option.some_inj.mp hruns)
  obtain ⟨hliveOk, hmockOk, hlive, hmock⟩ := hfacts
  obtain ⟨liveRead, hliveRead⟩ := exists_ok hlive
  obtain ⟨mockRead, hmockRead⟩ := exists_ok hmock
  have hkept : LiveCollibraAdapter.Kept northSession.server := by
    constructor <;> decide +kernel
  have hnumbered : MockCollibraAdapter.Numbered northStore := fun n _ hmem => by cases hmem
  have hclosed : (LiveCollibraAdapter.catalog shortMappingConfig northSession.server).Closed := fun l hl => by cases hl
  have htypes : ∀ a ∈ linkedDistricts.assets, (a.attributes.map CollibraAttributeSpec.attributeTypeRef).Nodup := by
    decide +kernel
  obtain ⟨rename, -, hsame⟩ := live_agrees_with_mock hkept hnumbered northCatalog hclosed htypes hread
    (liveDistricts_eq remote) (mockDistricts_eq remote) hliveOk hmockOk hliveRead hmockRead
  exact ⟨remote, liveRead, mockRead, rename, hread, hliveRead, hmockRead, hsame⟩

end Districts

end CollibraGovernance.Collibra
