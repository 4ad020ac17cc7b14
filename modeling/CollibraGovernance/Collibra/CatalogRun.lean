import CollibraGovernance.Collibra.Catalog
import CollibraGovernance.Collibra.LiveResume

/-! What a run of the executor makes of a catalog: new assets under unused ids, every planned update
carried out on its asset, and the missing relationships between what is stored by then. -/
namespace CollibraGovernance.Collibra
open Library

/-- An update that the executor asks for. -/
structure UpdateRequest where
  remoteId : String
  asset : CollibraAssetSpec
  patchName : Bool
  patchDisplayName : Bool

def SyncAction.updateRequest (x : SyncAction) : Option UpdateRequest :=
  match x.request with
  | some (.updateAsset remoteId asset patchName patchDisplayName) =>
    some ⟨remoteId, asset, patchName, patchDisplayName⟩
  | _ => none

def SyncAction.linkRequest (x : SyncAction) : Option CollibraRelationshipSpec :=
  match x.request with
  | some (.createRelationship rel) => some rel
  | _ => none

section Order
variable (desired : CollibraDesiredState) (remote : CollibraRemoteState)

/-- The asset creates of a plan, in the executor's order. -/
def createActions : List SyncAction :=
  sortBy assetRank (ofKind .create .asset (mutatingActions (buildSyncPlan desired remote)))

/-- The asset updates of a plan, in the executor's order. -/
def updateActions : List SyncAction :=
  sortBy (fun a => a.localId.getD "")
    (ofKind .update .asset (mutatingActions (buildSyncPlan desired remote)))

/-- The relationship creates of a plan, in the executor's order. -/
def linkActions : List SyncAction :=
  sortBy (fun a => a.localId.getD "")
    (ofKind .create .relationship (mutatingActions (buildSyncPlan desired remote)))

def newAssets : List CollibraAssetSpec := (createActions desired remote).filterMap SyncAction.createdAsset

def updateOrder : List UpdateRequest := (updateActions desired remote).filterMap SyncAction.updateRequest

def linkOrder : List CollibraRelationshipSpec := (linkActions desired remote).filterMap SyncAction.linkRequest

/-- The remote id of an endpoint, where `newIds` gives the ids of the new assets. -/
def endpoint (newIds : String → String) (l : String) : Option String :=
  if l ∈ (newAssets desired remote).map CollibraAssetSpec.localId then some (newIds l)
  else ((remoteAssetIndex remote).get? l).map CollibraRemoteAsset.remoteId

/-- The relationship that is added for a missing desired one. -/
def newLink (newIds : String → String) (rel : CollibraRelationshipSpec) : CatalogLink :=
  ((endpoint desired remote newIds rel.sourceLocalId).getD "",
    (endpoint desired remote newIds rel.targetLocalId).getD "", rel.relationTypeRef)

end Order

section Planned
variable {desired : CollibraDesiredState} {remote : CollibraRemoteState}

lemma plannedMutations_phases : plannedMutations desired remote =
    createActions desired remote ++ (updateActions desired remote ++ linkActions desired remote) := by
  rw [plannedMutations, orderedMutatingActions, List.append_assoc]
  rfl

lemma createActions_request {x : SyncAction} (h : x ∈ createActions desired remote) :
    ∃ a, x.request = some (.createAsset a) := by
  obtain ⟨-, htype, hkind⟩ := mem_ofKind.mp (mem_sortBy.mp h)
  obtain ⟨a, ha⟩ := x.create_asset_isSome htype hkind
  exact ⟨a, request_createAsset.mpr ⟨htype, hkind, ha⟩⟩

lemma updateActions_request {x : SyncAction} (h : x ∈ updateActions desired remote) :
    ∃ id a pn pd, x.request = some (.updateAsset id a pn pd) := by
  obtain ⟨-, htype, hkind⟩ := mem_ofKind.mp (mem_sortBy.mp h)
  obtain ⟨a, id, ha, hid⟩ := x.update_isSome htype
  exact ⟨id, a, x.changedFields.contains "name", x.changedFields.contains "display_name",
    by simp [SyncAction.request, htype, hkind, ha, hid]⟩

lemma linkActions_request {x : SyncAction} (h : x ∈ linkActions desired remote) :
    ∃ rel, x.request = some (.createRelationship rel) := by
  obtain ⟨-, htype, hkind⟩ := mem_ofKind.mp (mem_sortBy.mp h)
  obtain ⟨rel, hrel⟩ := x.create_relationship_isSome htype hkind
  exact ⟨rel, request_createRelationship.mpr ⟨htype, hkind, hrel⟩⟩

/-- The asset entries of a plan have different local ids. -/
lemma assetActions_localIds_nodup :
    ((assetActions desired remote).map SyncAction.localId).Nodup := by
  rw [assetActions_localIds, ← List.map_append, List.nodup_map_iff (Option.some_injective _),
    List.nodup_append]
  refine ⟨Dict.keys_nodup _, (Dict.keys_nodup _).sublist (List.filter_sublist.map _), ?_⟩
  rintro l hl _ hl' rfl
  obtain ⟨e, he, rfl⟩ := List.mem_map.mp hl'
  have hnot := (List.mem_filter.mp he).2
  rw [Dict.contains_iff.mpr hl] at hnot
  cases hnot

/-- So do the entries of one action type. -/
lemma ofKind_localIds_nodup (t : SyncActionType) :
    ((ofKind t .asset (buildSyncPlan desired remote).actions).map SyncAction.localId).Nodup := by
  have hperm := (buildSyncPlan_perm desired remote).filter
    (fun a => a.actionType = t ∧ a.objectKind = .asset)
  have hnone : (relationshipActions desired remote).filter
      (fun a => a.actionType = t ∧ a.objectKind = .asset) = [] := by
    rw [List.filter_eq_nil_iff]
    intro a ha
    simp [objectKind_of_mem_relationshipActions ha]
  rw [List.filter_append, hnone, List.append_nil] at hperm
  exact ((hperm.map _).nodup_iff).mpr
    (assetActions_localIds_nodup.sublist (List.filter_sublist.map _))

lemma mem_updateActions {x : SyncAction} : x ∈ updateActions desired remote ↔
    x ∈ plannedMutations desired remote ∧ x.actionType = .update := by
  rw [plannedMutations, mem_orderedMutatingActions, updateActions, mem_sortBy,
    ofKind_mutating _ _ (Or.inr rfl), mem_ofKind, request_isSome]
  constructor
  · rintro ⟨hmem, htype, hkind⟩
    exact ⟨⟨hmem, Or.inr htype, by simp [hkind]⟩, htype⟩
  · rintro ⟨⟨hmem, -, hnot⟩, htype⟩
    refine ⟨hmem, htype, ?_⟩
    cases hkind : x.objectKind with
    | asset => rfl
    | relationship => exact absurd ⟨htype, hkind⟩ hnot

/-- The update of a desired asset that differs from its match. -/
def plannedUpdate (a : CollibraAssetSpec) (r : CollibraRemoteAsset) : UpdateRequest :=
  ⟨r.remoteId, a, a.name ≠ r.name, orNone a.displayName ≠ orNone r.displayName⟩

/-- The planner matches a desired asset with a remote one and finds a difference. -/
structure Differs (desired : CollibraDesiredState) (remote : CollibraRemoteState)
    (a : CollibraAssetSpec) (r : CollibraRemoteAsset) : Prop where
  asked : (desiredAssetIndex desired).get? a.localId = some a
  found : (remoteAssetIndex remote).get? a.localId = some r
  changed : assetChangedFields a r ≠ []

lemma desiredAssetAction_differs {e : String × CollibraAssetSpec}
    (he : e ∈ (desiredAssetIndex desired).entries) {id : String} {a : CollibraAssetSpec} {pn pd : Bool}
    (h : (desiredAssetAction (remoteAssetIndex remote) e).request = some (.updateAsset id a pn pd)) :
    ∃ r, Differs desired remote a r ∧ (⟨id, a, pn, pd⟩ : UpdateRequest) = plannedUpdate a r := by
  have hlocal := (mem_desiredAssetIndex he).2
  have hasked : (desiredAssetIndex desired).get? e.1 = some e.2 := Dict.get?_eq_some.mpr he
  unfold desiredAssetAction at h
  cases hr : (remoteAssetIndex remote).get? e.1 with
  | none =>
    rw [hr] at h
    cases h
  | some r =>
    simp only [hr] at h
    by_cases hdiff : assetChangedFields e.2 r = []
    · simp [hdiff, SyncAction.request, SyncAction.unchangedAsset] at h
    · simp only [hdiff, if_false, SyncAction.request, SyncAction.updateAsset, Option.map_some,
        Option.bind_some, Option.some_inj, changedFields_name, changedFields_displayName] at h
      cases h
      exact ⟨r, ⟨by rw [hlocal, hasked], by rw [hlocal, hr], hdiff⟩, rfl⟩

theorem mem_updateOrder {u : UpdateRequest} : u ∈ updateOrder desired remote ↔
    ∃ r, Differs desired remote u.asset r ∧ u = plannedUpdate u.asset r := by
  constructor
  · intro h
    obtain ⟨x, hx, hu⟩ := List.mem_filterMap.mp h
    obtain ⟨id, a, pn, pd, hreq⟩ := updateActions_request hx
    rw [SyncAction.updateRequest, hreq, Option.some_inj] at hu
    subst hu
    obtain ⟨hplanned, htype⟩ := mem_updateActions.mp hx
    obtain ⟨hmem, -⟩ := mem_plannedMutations.mp hplanned
    obtain ⟨-, hkind, -⟩ := request_updateAsset hreq
    rcases List.mem_append.mp hmem with hmem | hmem
    · rcases List.mem_append.mp hmem with hmem | hmem <;> obtain ⟨e, he, rfl⟩ := List.mem_map.mp hmem
      · exact desiredAssetAction_differs he hreq
      · cases htype
    · rw [objectKind_of_mem_relationshipActions hmem] at hkind
      cases hkind
  · rintro ⟨r, hdiffers, hu⟩
    have hreq : (desiredAssetAction (remoteAssetIndex remote) (u.asset.localId, u.asset)).request =
        some (.updateAsset r.remoteId u.asset (u.asset.name ≠ r.name)
          (orNone u.asset.displayName ≠ orNone r.displayName)) := by
      simp only [desiredAssetAction, hdiffers.found, hdiffers.changed, if_false, SyncAction.request,
        SyncAction.updateAsset, Option.map_some, Option.bind_some, changedFields_name,
        changedFields_displayName]
    refine List.mem_filterMap.mpr ⟨_, mem_updateActions.mpr ⟨mem_plannedMutations.mpr
      ⟨List.mem_append_left _ (List.mem_append_left _ (List.mem_map_of_mem
        (Dict.get?_eq_some.mp hdiffers.asked))), by rw [hreq]; rfl⟩,
      (request_updateAsset hreq).1⟩, ?_⟩
    rw [SyncAction.updateRequest, hreq, hu]
    rfl

/-- Different updates of a plan ask for different remote assets. -/
theorem updateOrder_ids_nodup (hids : (remote.assets.map CollibraRemoteAsset.remoteId).Nodup) :
    ((updateOrder desired remote).map UpdateRequest.remoteId).Nodup := by
  have hlocal : ((updateOrder desired remote).map (fun u => some u.asset.localId)).Nodup := by
    have hactions : ((updateActions desired remote).map SyncAction.localId).Nodup := by
      rw [updateActions, ofKind_mutating _ _ (Or.inr rfl),
        ((sortBy_perm _ _).map SyncAction.localId).nodup_iff]
      exact ofKind_localIds_nodup .update
    have heq : (updateOrder desired remote).map (fun u => some u.asset.localId) =
        (updateActions desired remote).map SyncAction.localId := by
      rw [updateOrder, List.map_filterMap, ← List.filterMap_eq_map]
      apply List.filterMap_congr
      intro x hx
      obtain ⟨id, a, pn, pd, hreq⟩ := updateActions_request hx
      rw [SyncAction.updateRequest, hreq, Option.map_some, Function.comp_apply, Option.some_inj]
      obtain ⟨hmem, -⟩ := mem_plannedMutations.mp (mem_updateActions.mp hx).1
      obtain ⟨-, hkind, hasset, -⟩ := request_updateAsset hreq
      rcases List.mem_append.mp hmem with hmem | hmem
      · rcases List.mem_append.mp hmem with hmem | hmem <;> obtain ⟨e, he, rfl⟩ := List.mem_map.mp hmem
        · rw [desiredAssetAction_desiredAsset, Option.some_inj] at hasset
          rw [desiredAssetAction_localId, ← hasset, (mem_desiredAssetIndex he).2]
        · cases hreq
      · rw [objectKind_of_mem_relationshipActions hmem] at hkind
        cases hkind
    rw [heq]
    exact hactions
  refine List.Nodup.map_on ?_ hlocal.of_map
  intro u hu v hv hsame
  obtain ⟨r, hr, hur⟩ := mem_updateOrder.mp hu
  obtain ⟨q, hq, hvq⟩ := mem_updateOrder.mp hv
  obtain ⟨hrmem, hrlocal⟩ := MockCollibraAdapter.remoteAssetIndex_source hr.found
  obtain ⟨hqmem, hqlocal⟩ := MockCollibraAdapter.remoteAssetIndex_source hq.found
  rw [hur, hvq] at hsame
  have hrq := List.inj_on_of_nodup_map hids hrmem hqmem hsame
  refine List.inj_on_of_nodup_map hlocal hu hv ?_
  rw [← hrlocal, ← hqlocal, hrq]

theorem newAssets_ids_nodup : ((newAssets desired remote).map CollibraAssetSpec.localId).Nodup := by
  have hsplit : newAssets desired remote = LiveCollibraAdapter.createOrder desired remote := by
    rw [LiveCollibraAdapter.createOrder, plannedMutations_phases, List.filterMap_append,
      newAssets, List.self_eq_append_right, List.filterMap_eq_nil_iff]
    intro x hx
    rw [Option.eq_none_iff_forall_ne_some]
    intro a ha
    rw [SyncAction.createdAsset_eq_some] at ha
    rcases List.mem_append.mp hx with hx | hx
    · obtain ⟨id, b, pn, pd, hreq⟩ := updateActions_request hx
      rw [hreq] at ha
      cases ha
    · obtain ⟨rel, hreq⟩ := linkActions_request hx
      rw [hreq] at ha
      cases ha
  rw [hsplit]
  exact LiveCollibraAdapter.createOrder_nodup

theorem mem_newAssets {a : CollibraAssetSpec} (h : a ∈ newAssets desired remote) :
    a ∈ desired.assets ∧ Unmatched remote a := by
  obtain ⟨x, hx, hreq⟩ := List.mem_filterMap.mp h
  rw [SyncAction.createdAsset_eq_some] at hreq
  obtain ⟨q, hq, hplanned⟩ := @plannedMutations_planned desired remote x
    (by rw [plannedMutations_phases]; exact List.mem_append_left _ hx)
  rw [hreq, Option.some_inj] at hq
  subst hq
  cases hplanned with
  | create ha hnew => exact ⟨ha, hnew⟩

/-- The executor starts with the remote ids that the planner matched. -/
theorem seed_get? (l : String) : (seedRemoteIdsFromPlan (buildSyncPlan desired remote)).get? l =
    ((remoteAssetIndex remote).get? l).map CollibraRemoteAsset.remoteId := by
  have hsource : ∀ id, (seedRemoteIdsFromPlan (buildSyncPlan desired remote)).get? l = some id →
      ((remoteAssetIndex remote).get? l).map CollibraRemoteAsset.remoteId = some id := by
    intro id hid
    obtain ⟨r, hr, hrid⟩ := seed_remote hid
    rw [hr, Option.map_some, hrid]
  cases hr : (remoteAssetIndex remote).get? l with
  | none =>
    rw [Option.map_none, Option.eq_none_iff_forall_ne_some]
    intro id hid
    have hfound := hsource id hid
    rw [hr] at hfound
    cases hfound
  | some r =>
    obtain ⟨-, rfl⟩ := MockCollibraAdapter.remoteAssetIndex_source hr
    have hkey : r.localId ∈ (seedRemoteIdsFromPlan (buildSyncPlan desired remote)).keys := by
      have hmem : ∀ x, x ∈ assetActions desired remote → x ∈ (buildSyncPlan desired remote).actions :=
        fun x hx => (buildSyncPlan_perm desired remote).mem_iff.mpr (List.mem_append_left _ hx)
      by_cases hkey : r.localId ∈ (desiredAssetIndex desired).keys
      · obtain ⟨a, ha⟩ := Dict.mem_keys_iff.mp hkey
        have haction := hmem _ (List.mem_append_left _ (List.mem_map_of_mem (Dict.get?_eq_some.mp ha)))
        refine mem_seed haction (by simp) ?_ (by simp) (by simp [hr])
          (ne_empty_of_not_blank r.localId_nonblank) (ne_empty_of_not_blank r.remoteId_nonblank)
        simp only [desiredAssetAction, hr]
        split <;> simp [SyncAction.unchangedAsset, SyncAction.updateAsset]
      · have hfresh : (desiredAssetIndex desired).contains r.localId = false := by
          rw [Bool.eq_false_iff]
          exact fun hcontains => hkey (Dict.contains_iff.mp hcontains)
        have haction := hmem (.remoteOnlyAsset r.localId r) (List.mem_append_right _
          (List.mem_map.mpr ⟨(r.localId, r), List.mem_filter.mpr
            ⟨Dict.get?_eq_some.mp hr, by simp [hfresh]⟩, rfl⟩))
        exact mem_seed haction rfl (by simp [SyncAction.remoteOnlyAsset]) rfl rfl
          (ne_empty_of_not_blank r.localId_nonblank) (ne_empty_of_not_blank r.remoteId_nonblank)
    obtain ⟨id, hid⟩ := Dict.mem_keys_iff.mp hkey
    have hfound := hsource id hid
    rw [hr] at hfound
    rw [hid, hfound]

end Planned

section Phases

/-- New assets stored under unused ids. -/
structure CreatedAs (config : CollibraMappingConfig) (as : List CollibraAssetSpec)
    (newIds : String → String) (c c' : Catalog) : Prop where
  fresh : ∀ a ∈ as, c.assets (newIds a.localId) = none
  distinct : ∀ a ∈ as, ∀ b ∈ as, newIds a.localId = newIds b.localId → a.localId = b.localId
  stored : ∀ a ∈ as, c'.assets (newIds a.localId) = some (.ofSpec config a)
  kept : ∀ id, (∀ a ∈ as, id ≠ newIds a.localId) → c'.assets id = c.assets id
  links : c'.links = c.links

/-- Stored assets patched, each by its own update. -/
structure PatchedBy (patch : PatchRule) (us : List UpdateRequest) (c c' : Catalog) : Prop where
  patched : ∀ u ∈ us, ∃ a, c.assets u.remoteId = some a ∧
    c'.assets u.remoteId = some (patch a u.asset u.patchName u.patchDisplayName)
  kept : ∀ id, id ∉ us.map UpdateRequest.remoteId → c'.assets id = c.assets id
  links : c'.links = c.links

/-- The relationship that is added when the executor knows the ids of its ends. -/
def knownLink (m : Dict String String) (rel : CollibraRelationshipSpec) : CatalogLink :=
  ((m.get? rel.sourceLocalId).getD "", (m.get? rel.targetLocalId).getD "", rel.relationTypeRef)

/-- Relationships added between known ids. -/
structure LinkedBy (m : Dict String String) (rels : List CollibraRelationshipSpec) (c c' : Catalog) :
    Prop where
  assets : c'.assets = c.assets
  known : ∀ rel ∈ rels, (m.get? rel.sourceLocalId).isSome = true ∧
    (m.get? rel.targetLocalId).isSome = true
  links : c'.links = c.links + Multiset.ofList (rels.map (knownLink m))

variable {config : CollibraMappingConfig} {as : List CollibraAssetSpec} {c c₁ c' : Catalog}
variable {newIds : String → String} {patch : PatchRule}

lemma CreatedAs.cons {a : CollibraAssetSpec} {id : String} (ha : a.localId ∉ as.map CollibraAssetSpec.localId)
    (hfresh : c.assets id = none) (h : CreatedAs config as newIds (c.put id (.ofSpec config a)) c') :
    CreatedAs config (a :: as) (Function.update newIds a.localId id) c c' := by
  have hnew : ∀ b ∈ as, Function.update newIds a.localId id b.localId = newIds b.localId := by
    intro b hb
    apply Function.update_of_ne
    intro hab
    exact ha (hab ▸ List.mem_map_of_mem hb)
  have hother : ∀ b ∈ as, newIds b.localId ≠ id := by
    rintro b hb rfl
    have hnone := h.fresh b hb
    rw [Catalog.put_assets_self] at hnone
    cases hnone
  have hself : Function.update newIds a.localId id a.localId = id := Function.update_self ..
  refine ⟨?_, ?_, ?_, ?_, h.links⟩
  · intro b hb
    rcases List.mem_cons.mp hb with rfl | hb
    · rw [hself, hfresh]
    · rw [hnew b hb, ← Catalog.put_assets_of_ne c _ (hother b hb)]
      exact h.fresh b hb
  · intro b hb d hd hsame
    rcases List.mem_cons.mp hb with rfl | hb' <;> rcases List.mem_cons.mp hd with rfl | hd'
    · rfl
    · rw [hself, hnew d hd'] at hsame
      exact absurd hsame.symm (hother d hd')
    · rw [hself, hnew b hb'] at hsame
      exact absurd hsame (hother b hb')
    · rw [hnew b hb', hnew d hd'] at hsame
      exact h.distinct b hb' d hd' hsame
  · intro b hb
    rcases List.mem_cons.mp hb with rfl | hb
    · rw [hself, h.kept id (fun d hd => (hother d hd).symm), Catalog.put_assets_self]
    · rw [hnew b hb]
      exact h.stored b hb
  · intro id' hid'
    have hne : id' ≠ id := by
      have := hid' a (List.mem_cons_self ..)
      rwa [hself] at this
    rw [h.kept id' ?_, Catalog.put_assets_of_ne c _ hne]
    intro b hb
    rw [← hnew b hb]
    exact hid' b (List.mem_cons_of_mem _ hb)

lemma PatchedBy.cons {u : UpdateRequest} {us : List UpdateRequest} {a : CatalogAsset}
    (hu : u.remoteId ∉ us.map UpdateRequest.remoteId) (hstored : c.assets u.remoteId = some a)
    (h : PatchedBy patch us
      (c.put u.remoteId (patch a u.asset u.patchName u.patchDisplayName)) c') :
    PatchedBy patch (u :: us) c c' := by
  refine ⟨?_, ?_, h.links⟩
  · intro v hv
    rcases List.mem_cons.mp hv with rfl | hv
    · exact ⟨a, hstored, by rw [h.kept _ hu, Catalog.put_assets_self]⟩
    · have hne : v.remoteId ≠ u.remoteId := by
        intro hvu
        exact hu (hvu ▸ List.mem_map_of_mem hv)
      obtain ⟨b, hb, hb'⟩ := h.patched v hv
      rw [Catalog.put_assets_of_ne c _ hne] at hb
      exact ⟨b, hb, hb'⟩
  · intro id hid
    rw [List.map_cons, List.mem_cons, not_or] at hid
    rw [h.kept id hid.2, Catalog.put_assets_of_ne c _ hid.1]

variable {σ : Type} {adapter : CollibraAdapter σ} {catalog : σ → Catalog} {Sound : σ → Prop}
variable {rest : List SyncAction}

/-- A run that succeeds passes its first action and goes on. -/
lemma runActions_cons_ok {m : Dict String String} {n : Nat} {x : SyncAction} {s : σ}
    (h : (runActions adapter m n (x :: rest) s).1.failure = none) : ∃ m' k s',
      performAction adapter m x s = (.ok (m', k), s') ∧
      runActions adapter m n (x :: rest) s = runActions adapter m' (n + k) rest s' := by
  rw [runActions] at h ⊢
  rcases hx : performAction adapter m x s with ⟨e | ⟨m', k⟩, s'⟩
  · simp [hx] at h
  · exact ⟨m', k, s', rfl, rfl⟩

variable (hacts : ActsOn adapter config patch catalog Sound)
include hacts

/-- The creates of a run. -/
theorem run_creates {xs : List SyncAction} (hxs : ∀ x ∈ xs, ∃ a, x.request = some (.createAsset a))
    (hnodup : ((xs.filterMap SyncAction.createdAsset).map CollibraAssetSpec.localId).Nodup)
    {m : Dict String String} {n : Nat} {s : σ} (hs : Sound s)
    (hok : (runActions adapter m n (xs ++ rest) s).1.failure = none) :
    ∃ m' n' s' newIds, Sound s' ∧
      CreatedAs config (xs.filterMap SyncAction.createdAsset) newIds (catalog s) (catalog s') ∧
      (∀ l, m'.get? l = if l ∈ (xs.filterMap SyncAction.createdAsset).map CollibraAssetSpec.localId then
        some (newIds l) else m.get? l) ∧
      runActions adapter m n (xs ++ rest) s = runActions adapter m' n' rest s' := by
  induction xs generalizing m n s with
  | nil =>
    refine ⟨m, n, s, id, hs, ⟨by simp, by simp, by simp, fun _ _ => rfl, rfl⟩, fun l => ?_, rfl⟩
    simp
  | cons x xs ih =>
    obtain ⟨a, ha⟩ := hxs x (List.mem_cons_self ..)
    rw [List.cons_append] at hok ⊢
    obtain ⟨m₁, k, s₁, hstep, hrun⟩ := runActions_cons_ok hok
    rw [List.filterMap_cons_some (SyncAction.createdAsset_eq_some.mpr ha)] at hnodup ⊢
    rw [List.map_cons, List.nodup_cons] at hnodup
    rw [hrun] at hok
    rcases performAction_cases hstep with ⟨b, id, hreq, hcall, rfl⟩ | ⟨_, _, _, _, hreq, -⟩ |
      ⟨_, _, _, _, hreq, -⟩ | ⟨hreq, -⟩ <;> rw [ha] at hreq <;> cases hreq
    obtain ⟨hs₁, hfresh, hcatalog⟩ := hacts.create hs hcall
    obtain ⟨m', n', s', newIds, hs', hcreated, hm, hrest⟩ :=
      ih (fun y hy => hxs y (List.mem_cons_of_mem _ hy)) hnodup.2 hs₁ hok
    rw [hcatalog] at hcreated
    refine ⟨m', n', s', _, hs', hcreated.cons hnodup.1 hfresh, ?_, by rw [hrun, hrest]⟩
    intro l
    rw [hm]
    simp only [List.map_cons, List.mem_cons]
    by_cases hl : l = a.localId
    · rw [if_neg (hl ▸ hnodup.1), if_pos (Or.inl hl), hl, Dict.get?_set_self, Function.update_self]
    · rw [Dict.get?_set_of_ne _ _ hl, Function.update_of_ne hl]
      simp only [hl, false_or]

/-- The updates of a run. -/
theorem run_updates {xs : List SyncAction}
    (hxs : ∀ x ∈ xs, ∃ id a pn pd, x.request = some (.updateAsset id a pn pd))
    (hnodup : ((xs.filterMap SyncAction.updateRequest).map UpdateRequest.remoteId).Nodup)
    {m : Dict String String} {n : Nat} {s : σ} (hs : Sound s)
    (hstored : ∀ u ∈ xs.filterMap SyncAction.updateRequest,
      ((catalog s).assets u.remoteId).isSome = true)
    (hknown : ∀ u ∈ xs.filterMap SyncAction.updateRequest, m.get? u.asset.localId = some u.remoteId)
    (hok : (runActions adapter m n (xs ++ rest) s).1.failure = none) :
    ∃ m' n' s', Sound s' ∧
      PatchedBy patch (xs.filterMap SyncAction.updateRequest) (catalog s) (catalog s') ∧
      (∀ l, m'.get? l = m.get? l) ∧
      runActions adapter m n (xs ++ rest) s = runActions adapter m' n' rest s' := by
  induction xs generalizing m n s with
  | nil => exact ⟨m, n, s, hs, ⟨by simp, fun _ _ => rfl, rfl⟩, fun _ => rfl, rfl⟩
  | cons x xs ih =>
    obtain ⟨id, a, pn, pd, ha⟩ := hxs x (List.mem_cons_self ..)
    have hu : x.updateRequest = some ⟨id, a, pn, pd⟩ := by rw [SyncAction.updateRequest, ha]
    rw [List.cons_append] at hok ⊢
    obtain ⟨m₁, k, s₁, hstep, hrun⟩ := runActions_cons_ok hok
    rw [List.filterMap_cons_some hu] at hnodup hstored hknown ⊢
    rw [List.map_cons, List.nodup_cons] at hnodup
    rw [hrun] at hok
    rcases performAction_cases hstep with ⟨_, _, hreq, -⟩ | ⟨id', b, pn', pd', hreq, hcall, rfl⟩ |
      ⟨_, _, _, _, hreq, -⟩ | ⟨hreq, -⟩ <;> rw [ha] at hreq <;> cases hreq
    obtain ⟨stored, hget⟩ := Option.isSome_iff_exists.mp (hstored _ (List.mem_cons_self ..))
    obtain ⟨hs₁, hcatalog⟩ := hacts.update hs hget hcall
    have hsame : ∀ l, (m.set a.localId id).get? l = m.get? l := by
      intro l
      by_cases hl : l = a.localId
      · rw [hl, Dict.get?_set_self, hknown _ (List.mem_cons_self ..)]
      · rw [Dict.get?_set_of_ne _ _ hl]
    have hstored₁ : ∀ u ∈ xs.filterMap SyncAction.updateRequest,
        ((catalog s₁).assets u.remoteId).isSome = true := by
      intro u hmem
      rw [hcatalog]
      by_cases hid : u.remoteId = id
      · rw [hid, Catalog.put_assets_self]
        rfl
      · rw [Catalog.put_assets_of_ne _ _ hid]
        exact hstored u (List.mem_cons_of_mem _ hmem)
    obtain ⟨m', n', s', hs', hpatched, hm, hrest⟩ :=
      ih (fun y hy => hxs y (List.mem_cons_of_mem _ hy)) hnodup.2 hs₁ hstored₁
        (fun u hmem => by rw [hsame, hknown u (List.mem_cons_of_mem _ hmem)]) hok
    rw [hcatalog] at hpatched
    exact ⟨m', n', s', hs', PatchedBy.cons (u := ⟨id, a, pn, pd⟩) hnodup.1 hget hpatched,
      fun l => by rw [hm, hsame], by rw [hrun, hrest]⟩

/-- The relationship creates of a run. -/
theorem run_links {xs : List SyncAction}
    (hxs : ∀ x ∈ xs, ∃ rel, x.request = some (.createRelationship rel))
    {m : Dict String String} {n : Nat} {s : σ} (hs : Sound s)
    (hstored : ∀ l id, m.get? l = some id → ((catalog s).assets id).isSome = true)
    (hok : (runActions adapter m n xs s).1.failure = none) :
    Sound (runActions adapter m n xs s).2 ∧
      LinkedBy m (xs.filterMap SyncAction.linkRequest) (catalog s)
        (catalog (runActions adapter m n xs s).2) := by
  induction xs generalizing n s with
  | nil => exact ⟨hs, rfl, by simp, by simp [runActions]⟩
  | cons x xs ih =>
    obtain ⟨rel, ha⟩ := hxs x (List.mem_cons_self ..)
    have hl : x.linkRequest = some rel := by rw [SyncAction.linkRequest, ha]
    obtain ⟨m₁, k, s₁, hstep, hrun⟩ := runActions_cons_ok hok
    rw [List.filterMap_cons_some hl, hrun]
    rw [hrun] at hok
    rcases performAction_cases hstep with ⟨_, _, hreq, -⟩ | ⟨_, _, _, _, hreq, -⟩ |
      ⟨rel', source, target, id, hreq, hsource, htarget, hcall, rfl⟩ | ⟨hreq, -⟩ <;>
      rw [ha] at hreq <;> cases hreq
    obtain ⟨hs₁, hcatalog⟩ := hacts.link hs (hstored _ _ hsource) (hstored _ _ htarget) hcall
    have hassets : (catalog s₁).assets = (catalog s).assets := by rw [hcatalog, Catalog.link_assets]
    obtain ⟨hs', hlinked⟩ := ih (fun y hy => hxs y (List.mem_cons_of_mem _ hy)) hs₁
      (fun l id hget => by rw [hassets]; exact hstored l id hget) hok
    refine ⟨hs', hlinked.assets.trans hassets, ?_, ?_⟩
    · intro r hr
      rcases List.mem_cons.mp hr with rfl | hr
      · rw [hsource, htarget]
        exact ⟨rfl, rfl⟩
      · exact hlinked.known r hr
    · have hlink : knownLink m₁ rel = (source, target, rel.relationTypeRef) := by
        rw [knownLink, hsource, htarget]
        rfl
      rw [hlinked.links, hcatalog, List.map_cons, hlink, Catalog.link, ← Multiset.cons_coe,
        Multiset.cons_add, Multiset.add_cons]

end Phases

/-- A catalog after the mutations of a plan. -/
structure Applied (config : CollibraMappingConfig) (patch : PatchRule) (desired : CollibraDesiredState)
    (remote : CollibraRemoteState) (newIds : String → String) (c c' : Catalog) : Prop where
  fresh : ∀ a ∈ newAssets desired remote, c.assets (newIds a.localId) = none
  distinct : ∀ a ∈ newAssets desired remote, ∀ b ∈ newAssets desired remote,
    newIds a.localId = newIds b.localId → a.localId = b.localId
  created : ∀ a ∈ newAssets desired remote, c'.assets (newIds a.localId) = some (.ofSpec config a)
  patched : ∀ u ∈ updateOrder desired remote, ∃ a, c.assets u.remoteId = some a ∧
    c'.assets u.remoteId = some (patch a u.asset u.patchName u.patchDisplayName)
  kept : ∀ id, (∀ a ∈ newAssets desired remote, id ≠ newIds a.localId) →
    id ∉ (updateOrder desired remote).map UpdateRequest.remoteId → c'.assets id = c.assets id
  known : ∀ rel ∈ linkOrder desired remote,
    (endpoint desired remote newIds rel.sourceLocalId).isSome = true ∧
      (endpoint desired remote newIds rel.targetLocalId).isSome = true
  links : c'.links = c.links + Multiset.ofList ((linkOrder desired remote).map
    (newLink desired remote newIds))

section Run
variable {config : CollibraMappingConfig} {patch : PatchRule} {desired : CollibraDesiredState}
variable {remote : CollibraRemoteState} {c c₁ c₂ c' : Catalog} {newIds : String → String}

lemma PatchedBy.isSome (h : PatchedBy patch (updateOrder desired remote) c c') {id : String}
    (hid : (c.assets id).isSome = true) : (c'.assets id).isSome = true := by
  by_cases hu : id ∈ (updateOrder desired remote).map UpdateRequest.remoteId
  · obtain ⟨u, hmem, rfl⟩ := List.mem_map.mp hu
    obtain ⟨a, -, ha⟩ := h.patched u hmem
    rw [ha]
    rfl
  · rw [h.kept id hu]
    exact hid

lemma CreatedAs.isSome (h : CreatedAs config (newAssets desired remote) newIds c c') {id : String}
    (hid : (c.assets id).isSome = true) : (c'.assets id).isSome = true := by
  rw [h.kept id ?_]
  · exact hid
  · rintro a ha rfl
    rw [h.fresh a ha] at hid
    cases hid

/-- The three phases together. -/
lemma applied_of_phases (hmatched : ∀ r ∈ remote.assets, (c.assets r.remoteId).isSome = true)
    (hcreated : CreatedAs config (newAssets desired remote) newIds c c₁)
    (hpatched : PatchedBy patch (updateOrder desired remote) c₁ c₂) {m : Dict String String}
    (hm : ∀ l, m.get? l = endpoint desired remote newIds l)
    (hlinked : LinkedBy m (linkOrder desired remote) c₂ c') :
    Applied config patch desired remote newIds c c' := by
  have hupdated : ∀ u ∈ updateOrder desired remote, ∀ a ∈ newAssets desired remote,
      u.remoteId ≠ newIds a.localId := by
    intro u hu a ha hsame
    obtain ⟨r, hr, hur⟩ := mem_updateOrder.mp hu
    have hstored := hmatched r (MockCollibraAdapter.remoteAssetIndex_source hr.found).1
    rw [hur] at hsame
    rw [show r.remoteId = newIds a.localId from hsame, hcreated.fresh a ha] at hstored
    cases hstored
  have hlink : knownLink m = newLink desired remote newIds := by
    funext rel
    rw [knownLink, newLink, hm, hm]
  refine ⟨hcreated.fresh, hcreated.distinct, ?_, ?_, ?_, ?_, ?_⟩
  · intro a ha
    rw [hlinked.assets, hpatched.kept, hcreated.stored a ha]
    intro hmem
    obtain ⟨u, hu, hsame⟩ := List.mem_map.mp hmem
    exact hupdated u hu a ha hsame
  · intro u hu
    obtain ⟨a, ha, ha'⟩ := hpatched.patched u hu
    rw [hcreated.kept _ (fun b hb => hupdated u hu b hb)] at ha
    exact ⟨a, ha, by rw [hlinked.assets, ha']⟩
  · intro id hnew hold
    rw [hlinked.assets, hpatched.kept id hold, hcreated.kept id hnew]
  · intro rel hrel
    rw [← hm, ← hm]
    exact hlinked.known rel hrel
  · rw [hlinked.links, hpatched.links, hcreated.links, hlink]

variable {σ : Type} {adapter : CollibraAdapter σ} {catalog : σ → Catalog} {Sound : σ → Prop}

/-- A run that succeeds carries out the plan on the catalog. -/
theorem run_applied (hacts : ActsOn adapter config patch catalog Sound) {s s' : σ} (hs : Sound s)
    (hids : (remote.assets.map CollibraRemoteAsset.remoteId).Nodup)
    (hmatched : ∀ r ∈ remote.assets, ((catalog s).assets r.remoteId).isSome = true)
    {result : SyncResult}
    (hrun : executeSyncPlan adapter (buildSyncPlan desired remote) true s = (result, s'))
    (hok : result.success = true) :
    Sound s' ∧ ∃ newIds, Applied config patch desired remote newIds (catalog s) (catalog s') := by
  rw [applySyncPlanMutations_eq] at hrun
  simp only [Prod.mk.injEq] at hrun
  obtain ⟨rfl, rfl⟩ := hrun
  simp only [Option.isNone_iff_eq_none] at hok
  change (runActions adapter _ 0 (plannedMutations desired remote) s).1.failure = none at hok
  change Sound (runActions adapter _ 0 (plannedMutations desired remote) s).2 ∧ ∃ newIds,
    Applied config patch desired remote newIds (catalog s)
      (catalog (runActions adapter _ 0 (plannedMutations desired remote) s).2)
  rw [plannedMutations_phases] at hok ⊢
  obtain ⟨m₁, n₁, s₁, newIds, hs₁, hcreated, hm₁, hrest⟩ := run_creates hacts
    (fun x hx => createActions_request hx) newAssets_ids_nodup hs hok
  have hend : ∀ l, m₁.get? l = endpoint desired remote newIds l := by
    intro l
    rw [hm₁, seed_get?]
    rfl
  have hnew : ∀ u ∈ updateOrder desired remote,
      u.asset.localId ∉ (newAssets desired remote).map CollibraAssetSpec.localId := by
    intro u hu hmem
    obtain ⟨r, hr, -⟩ := mem_updateOrder.mp hu
    obtain ⟨a, ha, hlocal⟩ := List.mem_map.mp hmem
    have hnone := (mem_newAssets ha).2
    rw [Unmatched, hlocal, hr.found] at hnone
    cases hnone
  rw [hrest] at hok ⊢
  obtain ⟨m₂, n₂, s₂, hs₂, hpatched, hm₂, hrest₂⟩ := run_updates hacts
    (fun x hx => updateActions_request hx) (updateOrder_ids_nodup hids) hs₁
    (fun u hu => by
      obtain ⟨r, hr, hur⟩ := mem_updateOrder.mp hu
      rw [hur]
      exact hcreated.isSome (hmatched r (MockCollibraAdapter.remoteAssetIndex_source hr.found).1))
    (fun u hu => by
      obtain ⟨r, hr, hur⟩ := mem_updateOrder.mp hu
      rw [hend, endpoint, if_neg (hnew u hu), hr.found, hur]
      rfl) hok
  rw [hrest₂] at hok ⊢
  have hstored : ∀ l id, m₂.get? l = some id → ((catalog s₂).assets id).isSome = true := by
    intro l id hget
    rw [hm₂, hend, endpoint] at hget
    apply PatchedBy.isSome hpatched
    split_ifs at hget with hmem
    · obtain ⟨a, ha, rfl⟩ := List.mem_map.mp hmem
      rw [← Option.some_inj.mp hget, hcreated.stored a ha]
      rfl
    · obtain ⟨r, hr, rfl⟩ := Option.map_eq_some_iff.mp hget
      exact CreatedAs.isSome hcreated (hmatched r (MockCollibraAdapter.remoteAssetIndex_source hr).1)
  obtain ⟨hs', hlinked⟩ := run_links hacts (fun x hx => linkActions_request hx) hs₂ hstored hok
  exact ⟨hs', newIds, applied_of_phases hmatched hcreated hpatched
    (fun l => by rw [hm₂, hend]) hlinked⟩

end Run
end CollibraGovernance.Collibra
