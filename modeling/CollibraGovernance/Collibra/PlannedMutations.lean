import CollibraGovernance.Collibra.ExactlyOnce
import CollibraGovernance.Collibra.PlanSpec

/-! The mutations an executor finds in a plan, in terms of the two states the planner compared. -/
namespace CollibraGovernance.Collibra
open Library

section Shape
variable (desired : CollibraDesiredState) (remote : CollibraRemoteState)

/-- The desired asset has no managed remote match. -/
def Unmatched (a : CollibraAssetSpec) : Prop := (remoteAssetIndex remote).get? a.localId = none

/-- The desired relationship is missing remotely. -/
def Missing (rel : CollibraRelationshipSpec) : Prop :=
  (remoteRelationshipIndex remote).get? (desiredKey rel) = none

instance (a : CollibraAssetSpec) : Decidable (Unmatched remote a) :=
  inferInstanceAs (Decidable (_ = none))

instance (rel : CollibraRelationshipSpec) : Decidable (Missing remote rel) :=
  inferInstanceAs (Decidable (_ = none))

/-- What a plan asks of an adapter. -/
inductive Planned : MutationRequest → Prop
  | create {a : CollibraAssetSpec} (ha : a ∈ desired.assets) (hnew : Unmatched remote a) :
    Planned (.createAsset a)
  | update {a : CollibraAssetSpec} {r : CollibraRemoteAsset} (ha : a ∈ desired.assets)
    (hr : (remoteAssetIndex remote).get? a.localId = some r)
    (hdiff : assetChangedFields a r ≠ []) :
    Planned (.updateAsset r.remoteId a (a.name ≠ r.name)
      (orNone a.displayName ≠ orNone r.displayName))
  | link {rel : CollibraRelationshipSpec} (hrel : rel ∈ desired.relationships)
    (hnew : Missing remote rel) : Planned (.createRelationship rel)

/-- The triples a plan has to create. -/
def missingLinks : List ((String × String × String) × CollibraRelationshipSpec) :=
  (desiredRelationshipIndex desired).entries.filter
    (fun e => !(remoteRelationshipIndex remote).contains e.1)

/-- The mutations of a plan in the executor's order. -/
def plannedMutations : List SyncAction :=
  orderedMutatingActions (mutatingActions (buildSyncPlan desired remote))

end Shape

variable {desired : CollibraDesiredState} {remote : CollibraRemoteState}

lemma changedFields_name {a : CollibraAssetSpec} {r : CollibraRemoteAsset} :
    (sortBy id (assetChangedFields a r)).contains "name" = decide (a.name ≠ r.name) := by
  rw [Bool.eq_iff_iff, List.contains_iff_mem, mem_sortBy, decide_eq_true_eq]
  unfold assetChangedFields
  simp only [List.mem_append]
  constructor
  · rintro ((h | h) | h)
    · intro hn
      simp [hn] at h
    · split_ifs at h <;> simp at h
    · split_ifs at h <;> simp at h
  · intro hn
    exact .inl (.inl (by simp [hn]))

lemma changedFields_displayName {a : CollibraAssetSpec} {r : CollibraRemoteAsset} :
    (sortBy id (assetChangedFields a r)).contains "display_name" =
      decide (orNone a.displayName ≠ orNone r.displayName) := by
  rw [Bool.eq_iff_iff, List.contains_iff_mem, mem_sortBy, decide_eq_true_eq]
  unfold assetChangedFields
  simp only [List.mem_append]
  constructor
  · rintro ((h | h) | h)
    · split_ifs at h <;> simp at h
    · intro hn
      simp [hn] at h
    · split_ifs at h <;> simp at h
  · intro hn
    exact .inl (.inr (by simp [hn]))

lemma mem_desiredAssetIndex {e : String × CollibraAssetSpec}
    (h : e ∈ (desiredAssetIndex desired).entries) : e.2 ∈ desired.assets ∧ e.2.localId = e.1 := by
  obtain ⟨x, hx, hk, hv⟩ := Dict.exists_of_mem_index h
  cases hv
  exact ⟨hx, hk⟩

lemma mem_desiredRelationshipIndex {e : (String × String × String) × CollibraRelationshipSpec}
    (h : e ∈ (desiredRelationshipIndex desired).entries) :
    e.2 ∈ desired.relationships ∧ desiredKey e.2 = e.1 := by
  obtain ⟨x, hx, hk, hv⟩ := Dict.exists_of_mem_index h
  cases hv
  exact ⟨hx, hk⟩

/-- The request of a desired asset's entry, when it has one, is planned. -/
lemma desiredAssetAction_planned {e : String × CollibraAssetSpec} (ha : e.2 ∈ desired.assets)
    (hk : e.2.localId = e.1) {q : MutationRequest}
    (hq : (desiredAssetAction (remoteAssetIndex remote) e).request = some q) :
    Planned desired remote q := by
  unfold desiredAssetAction at hq
  cases hr : (remoteAssetIndex remote).get? e.1 with
  | none =>
    simp only [hr, SyncAction.request, SyncAction.createAsset, Option.map_some,
      Option.some_inj] at hq
    cases hq
    exact .create ha (by rw [Unmatched, hk, hr])
  | some r =>
    simp only [hr] at hq
    by_cases hdiff : assetChangedFields e.2 r = []
    · simp [hdiff, SyncAction.request, SyncAction.unchangedAsset] at hq
    · simp only [hdiff, if_false, SyncAction.request, SyncAction.updateAsset, Option.map_some,
        Option.bind_some, Option.some_inj, changedFields_name, changedFields_displayName] at hq
      cases hq
      exact .update ha (by rw [hk, hr]) hdiff

lemma desiredRelationshipAction_planned
    {e : (String × String × String) × CollibraRelationshipSpec} (he : e.2 ∈ desired.relationships)
    (hk : desiredKey e.2 = e.1) {q : MutationRequest}
    (hq : (desiredRelationshipAction (remoteRelationshipIndex remote) e).request = some q) :
    Planned desired remote q := by
  unfold desiredRelationshipAction at hq
  cases hr : (remoteRelationshipIndex remote).get? e.1 with
  | none =>
    simp only [hr, SyncAction.request, SyncAction.createRelationship, Option.map_some,
      Option.some_inj] at hq
    cases hq
    exact .link he (by rw [Missing, hk, hr])
  | some r => simp [hr, SyncAction.request, SyncAction.unchangedRelationship] at hq

lemma mem_plannedMutations {a : SyncAction} : a ∈ plannedMutations desired remote ↔
    a ∈ assetActions desired remote ++ relationshipActions desired remote ∧
      a.request.isSome = true := by
  rw [plannedMutations, mem_orderedMutatingActions, (buildSyncPlan_perm desired remote).mem_iff]

/-- Everything the executor is asked to do is planned. -/
theorem plannedMutations_planned {a : SyncAction} (h : a ∈ plannedMutations desired remote) :
    ∃ q, a.request = some q ∧ Planned desired remote q := by
  obtain ⟨hmem, hsome⟩ := mem_plannedMutations.mp h
  obtain ⟨q, hq⟩ := Option.isSome_iff_exists.mp hsome
  refine ⟨q, hq, ?_⟩
  unfold assetActions relationshipActions at hmem
  simp only [List.mem_append, List.mem_map] at hmem
  rcases hmem with (⟨e, he, rfl⟩ | ⟨e, he, rfl⟩) | ⟨e, he, rfl⟩ | ⟨e, he, rfl⟩
  · obtain ⟨ha, hk⟩ := mem_desiredAssetIndex he
    exact desiredAssetAction_planned ha hk hq
  · cases hq
  · obtain ⟨hr, hk⟩ := mem_desiredRelationshipIndex he
    exact desiredRelationshipAction_planned hr hk hq
  · cases hq

section Complete
variable (hids : (desired.assets.map CollibraAssetSpec.localId).Nodup)
include hids

lemma assetAction_mem {a : CollibraAssetSpec} (ha : a ∈ desired.assets) :
    desiredAssetAction (remoteAssetIndex remote) (a.localId, a) ∈ assetActions desired remote := by
  apply List.mem_append_left
  refine List.mem_map_of_mem ?_
  rw [desiredAssetIndex, Dict.entries_index_of_nodup hids]
  exact List.mem_map_of_mem (f := fun a : CollibraAssetSpec => (a.localId, id a)) ha

/-- An unmatched desired asset is created. -/
theorem exists_create {a : CollibraAssetSpec} (ha : a ∈ desired.assets)
    (hnew : Unmatched remote a) :
    ∃ x ∈ plannedMutations desired remote, x.request = some (.createAsset a) := by
  have hreq : (desiredAssetAction (remoteAssetIndex remote) (a.localId, a)).request =
      some (.createAsset a) := by
    have hget : (remoteAssetIndex remote).get? a.localId = none := hnew
    simp only [desiredAssetAction, hget]
    rfl
  exact ⟨_, mem_plannedMutations.mpr
    ⟨List.mem_append_left _ (assetAction_mem hids ha), by rw [hreq]; rfl⟩, hreq⟩

/-- A matched desired asset that differs is updated. -/
theorem exists_update {a : CollibraAssetSpec} (ha : a ∈ desired.assets) {r : CollibraRemoteAsset}
    (hr : (remoteAssetIndex remote).get? a.localId = some r) (hdiff : assetChangedFields a r ≠ []) :
    ∃ x ∈ plannedMutations desired remote, x.request = some (.updateAsset r.remoteId a
      (a.name ≠ r.name) (orNone a.displayName ≠ orNone r.displayName)) := by
  have hreq : (desiredAssetAction (remoteAssetIndex remote) (a.localId, a)).request =
      some (.updateAsset r.remoteId a (a.name ≠ r.name)
        (orNone a.displayName ≠ orNone r.displayName)) := by
    simp only [desiredAssetAction, hr, hdiff, if_false, SyncAction.request, SyncAction.updateAsset,
      Option.map_some, Option.bind_some, changedFields_name, changedFields_displayName]
  exact ⟨_, mem_plannedMutations.mpr
    ⟨List.mem_append_left _ (assetAction_mem hids ha), by rw [hreq]; rfl⟩, hreq⟩

end Complete

/-- A missing triple is created by the desired relationship that the planner kept for it. -/
theorem exists_link {rel : CollibraRelationshipSpec} (hrel : rel ∈ desired.relationships)
    (hnew : Missing remote rel) : ∃ x ∈ plannedMutations desired remote,
      ∃ rel', x.request = some (.createRelationship rel') ∧ desiredKey rel' = desiredKey rel := by
  have hkey : desiredKey rel ∈ (desiredRelationshipIndex desired).keys :=
    Dict.mem_keys_index.mpr ⟨rel, hrel, rfl⟩
  obtain ⟨rel', hget⟩ := Dict.mem_keys_iff.mp hkey
  have hentry : (desiredKey rel, rel') ∈ (desiredRelationshipIndex desired).entries :=
    Dict.get?_eq_some.mp hget
  have hreq : (desiredRelationshipAction (remoteRelationshipIndex remote)
      (desiredKey rel, rel')).request = some (.createRelationship rel') := by
    have hget : (remoteRelationshipIndex remote).get? (desiredKey rel) = none := hnew
    simp only [desiredRelationshipAction, hget]
    rfl
  refine ⟨_, mem_plannedMutations.mpr ⟨List.mem_append_right _ (List.mem_append_left _
    (List.mem_map_of_mem hentry)), by rw [hreq]; rfl⟩, rel', hreq, ?_⟩
  exact (mem_desiredRelationshipIndex hentry).2

lemma desiredRelationshipAction_create_iff
    {remoteRels : Dict (String × String × String) CollibraRemoteRelationship}
    {e : (String × String × String) × CollibraRelationshipSpec} :
    (desiredRelationshipAction remoteRels e).actionType = .create ↔ remoteRels.get? e.1 = none := by
  unfold desiredRelationshipAction
  cases remoteRels.get? e.1 with
  | none => simp [SyncAction.createRelationship]
  | some r => simp [SyncAction.unchangedRelationship]

/-- The plan creates one relationship for each missing triple. -/
theorem countP_links : (plannedMutations desired remote).countP
      (fun a => a.actionType = .create ∧ a.objectKind = .relationship) =
    (missingLinks desired remote).length := by
  have hperm := orderedMutatingActions_perm (buildSyncPlan desired remote)
  rw [plannedMutations, hperm.countP_eq, List.countP_append, List.countP_append]
  have hcreate : (ofKind .create .asset (buildSyncPlan desired remote).actions).countP
      (fun a => a.actionType = .create ∧ a.objectKind = .relationship) = 0 := by
    rw [List.countP_eq_zero]
    intro a ha
    simp [(mem_ofKind.mp ha).2.2]
  have hupdate : (ofKind .update .asset (buildSyncPlan desired remote).actions).countP
      (fun a => a.actionType = .create ∧ a.objectKind = .relationship) = 0 := by
    rw [List.countP_eq_zero]
    intro a ha
    simp [(mem_ofKind.mp ha).2.2]
  have hlink : (ofKind .create .relationship (buildSyncPlan desired remote).actions).countP
      (fun a => a.actionType = .create ∧ a.objectKind = .relationship) =
        (buildSyncPlan desired remote).actions.countP
          (fun a => a.objectKind = .relationship ∧ decide (a.actionType = .create) = true) := by
    unfold ofKind
    rw [List.countP_filter]
    apply List.countP_congr
    intro a _
    simp [and_comm]
  rw [hcreate, hupdate, hlink, countP_relationship, Nat.zero_add]
  unfold relationshipActions missingLinks
  have hremote : (((remoteRelationshipIndex remote).entries.filter
      (fun e => !(desiredRelationshipIndex desired).contains e.1)).map
      (fun e => SyncAction.remoteOnlyRelationship e.2)).countP
        (fun a => decide (a.actionType = .create)) = 0 := by
    rw [List.countP_eq_zero]
    intro a ha
    obtain ⟨e, -, rfl⟩ := List.mem_map.mp ha
    simp [SyncAction.remoteOnlyRelationship]
  rw [List.countP_append, hremote, Nat.add_zero, List.countP_map, ← List.countP_eq_length_filter]
  apply List.countP_congr
  intro e _
  rw [Function.comp_apply, decide_eq_true_eq, desiredRelationshipAction_create_iff, Dict.contains]
  cases (remoteRelationshipIndex remote).get? e.1 <;> simp

section Seed

lemma seed_source {plan : SyncPlan} {l id : String}
    (h : (seedRemoteIdsFromPlan plan).get? l = some id) :
    ∃ a ∈ plan.actions, a.objectKind = .asset ∧ a.localId = some l ∧ a.remoteId = some id := by
  unfold seedRemoteIdsFromPlan at h
  generalize plan.actions = actions at h ⊢
  induction actions using List.reverseRecOn with
  | nil => simp at h
  | append_singleton actions a ih =>
    rw [List.foldl_append, List.foldl_cons, List.foldl_nil] at h
    have later : ((∃ x ∈ actions, x.objectKind = .asset ∧ x.localId = some l ∧
        x.remoteId = some id) → ∃ x ∈ actions ++ [a], x.objectKind = .asset ∧
          x.localId = some l ∧ x.remoteId = some id) := by
      rintro ⟨x, hx, hrest⟩
      exact ⟨x, List.mem_append_left _ hx, hrest⟩
    cases hl : a.localId with
    | none => simp only [hl] at h; exact later (ih h)
    | some l' =>
      cases hid : a.remoteId with
      | none => simp only [hl, hid] at h; exact later (ih h)
      | some id' =>
        simp only [hl, hid] at h
        split_ifs at h with hc
        · rw [Dict.get?_set] at h
          split_ifs at h with heq
          · cases h
            exact ⟨a, by simp, hc.1, by rw [hl, heq], hid⟩
          · exact later (ih h)
        · exact later (ih h)

/-- The seeded map finds a local id where the planner found it. -/
theorem seed_remote {l id : String}
    (h : (seedRemoteIdsFromPlan (buildSyncPlan desired remote)).get? l = some id) :
    ∃ r, (remoteAssetIndex remote).get? l = some r ∧ r.remoteId = id := by
  obtain ⟨a, ha, hkind, hlocal, hid⟩ := seed_source h
  rw [(buildSyncPlan_perm desired remote).mem_iff, List.mem_append] at ha
  rcases ha with ha | ha
  · rcases List.mem_append.mp ha with ha | ha <;> obtain ⟨e, he, rfl⟩ := List.mem_map.mp ha
    · rw [desiredAssetAction_localId, Option.some_inj] at hlocal
      rw [desiredAssetAction_remoteId, hlocal] at hid
      exact Option.map_eq_some_iff.mp hid
    · cases hlocal
      cases hid
      exact ⟨e.2, Dict.get?_eq_some.mpr (List.mem_of_mem_filter he), rfl⟩
  · rw [objectKind_of_mem_relationshipActions ha] at hkind
    cases hkind

end Seed

/-- A plan with nothing to create and nothing to update. -/
def SyncPlan.Settled (plan : SyncPlan) : Prop := plan.creates = [] ∧ plan.updates = []

instance (plan : SyncPlan) : Decidable plan.Settled := inferInstanceAs (Decidable (_ ∧ _))

/-- A plan is settled when every desired asset is matched as it is and no triple is missing. -/
theorem settled_iff (hids : (desired.assets.map CollibraAssetSpec.localId).Nodup) :
    (buildSyncPlan desired remote).Settled ↔
      (∀ a ∈ desired.assets, ∃ r, (remoteAssetIndex remote).get? a.localId = some r ∧
        assetChangedFields a r = []) ∧
      ∀ rel ∈ desired.relationships, desiredKey rel ∈ (remoteRelationshipIndex remote).keys := by
  have hnone : (buildSyncPlan desired remote).Settled ↔ plannedMutations desired remote = [] := by
    have hdrop : ofKind .update .relationship (buildSyncPlan desired remote).actions = [] := by
      rw [ofKind_update_relationship_eq_nil]
      rintro a ha ⟨ht, hk⟩
      rw [(buildSyncPlan_perm desired remote).mem_iff, List.mem_append] at ha
      rcases ha with ha | ha
      · rw [objectKind_of_mem_assetActions ha] at hk
        cases hk
      · rcases List.mem_append.mp ha with ha | ha <;> obtain ⟨e, -, rfl⟩ := List.mem_map.mp ha
        · unfold desiredRelationshipAction at ht
          split at ht <;> cases ht
        · cases ht
    have hperm := creates_updates_perm (buildSyncPlan desired remote)
    rw [hdrop, List.append_nil] at hperm
    unfold SyncPlan.Settled plannedMutations
    rw [← List.append_eq_nil_iff]
    exact ⟨fun h => List.perm_nil.mp (h ▸ hperm.symm), fun h => List.perm_nil.mp (h ▸ hperm)⟩
  rw [hnone]
  constructor
  · intro h
    have hempty : ∀ x, x ∉ plannedMutations desired remote := by
      intro x hx
      rw [h] at hx
      cases hx
    refine ⟨?_, ?_⟩
    · intro a ha
      cases hr : (remoteAssetIndex remote).get? a.localId with
      | none =>
        obtain ⟨x, hx, -⟩ := exists_create hids ha hr
        exact absurd hx (hempty x)
      | some r =>
        refine ⟨r, rfl, ?_⟩
        by_contra hdiff
        obtain ⟨x, hx, -⟩ := exists_update hids ha hr hdiff
        exact hempty x hx
    · intro rel hrel
      by_contra hkey
      obtain ⟨x, hx, -⟩ := exists_link hrel (Dict.get?_eq_none.mpr hkey)
      exact hempty x hx
  · rintro ⟨hassets, hrels⟩
    rw [List.eq_nil_iff_forall_not_mem]
    intro x hx
    obtain ⟨q, -, hq⟩ := plannedMutations_planned hx
    cases hq with
    | create ha hnew =>
      obtain ⟨r, hr, -⟩ := hassets _ ha
      rw [Unmatched, hr] at hnew
      cases hnew
    | update ha hr hdiff =>
      obtain ⟨r, hr', hsame⟩ := hassets _ ha
      rw [hr] at hr'
      cases hr'
      exact hdiff hsame
    | link hrel hnew => exact Dict.get?_eq_none.mp hnew (hrels _ hrel)

end CollibraGovernance.Collibra
