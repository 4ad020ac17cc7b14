import CollibraGovernance.Collibra.Sync
import Mathlib.Data.List.Perm.Basic

/-! How the entries of a plan account for desired and remote objects. -/
namespace CollibraGovernance.Collibra
open Library

/-- In a list without repetitions, counting one means there is exactly one. -/
theorem countP_eq_one_iff {α : Type*} {xs : List α} (h : xs.Nodup) (p : α → Bool) :
    xs.countP p = 1 ↔ ∃! x, x ∈ xs ∧ p x = true := by
  rw [List.countP_eq_length_filter, List.length_eq_one_iff]
  constructor
  · rintro ⟨x, hx⟩
    refine ⟨x, List.mem_filter.mp (hx ▸ List.mem_singleton_self x), fun y hy => ?_⟩
    exact List.mem_singleton.mp (hx ▸ List.mem_filter.mpr hy)
  · rintro ⟨x, hx, huniq⟩
    refine ⟨x, List.perm_singleton.mp ?_⟩
    rw [List.perm_ext_iff_of_nodup (h.filter p) (List.nodup_singleton x)]
    intro y
    rw [List.mem_filter, List.mem_singleton]
    exact ⟨fun hy => huniq y hy, fun hy => hy ▸ hx⟩

/-- The asset entries, in the order the planner appends them. -/
def assetActions (desired : CollibraDesiredState) (remote : CollibraRemoteState) :
    List SyncAction :=
  (desiredAssetIndex desired).entries.map (desiredAssetAction (remoteAssetIndex remote)) ++
  ((remoteAssetIndex remote).entries.filter
      (fun e => !(desiredAssetIndex desired).contains e.1)).map
    (fun e => .remoteOnlyAsset e.1 e.2)

/-- The relationship entries, in the order the planner appends them. -/
def relationshipActions (desired : CollibraDesiredState) (remote : CollibraRemoteState) :
    List SyncAction :=
  (desiredRelationshipIndex desired).entries.map
    (desiredRelationshipAction (remoteRelationshipIndex remote)) ++
  ((remoteRelationshipIndex remote).entries.filter
      (fun e => !(desiredRelationshipIndex desired).contains e.1)).map
    (fun e => .remoteOnlyRelationship e.2)

theorem plannedActions_eq (desired : CollibraDesiredState) (remote : CollibraRemoteState) :
    plannedActions desired remote =
      assetActions desired remote ++ relationshipActions desired remote := by
  simp only [plannedActions, assetActions, relationshipActions, List.append_assoc]

theorem buildSyncPlan_perm (desired : CollibraDesiredState) (remote : CollibraRemoteState) :
    (buildSyncPlan desired remote).actions.Perm
      (assetActions desired remote ++ relationshipActions desired remote) := by
  rw [← plannedActions_eq]
  exact SyncPlan.create_actions_perm _

section Fields
variable (remoteAssets : Dict String CollibraRemoteAsset) (e : String × CollibraAssetSpec)
variable (remoteRels : Dict (String × String × String) CollibraRemoteRelationship)
variable (f : (String × String × String) × CollibraRelationshipSpec)

@[simp] theorem desiredAssetAction_objectKind :
    (desiredAssetAction remoteAssets e).objectKind = .asset := by
  unfold desiredAssetAction
  split
  · rfl
  · dsimp only
    split <;> rfl

@[simp] theorem desiredAssetAction_localId :
    (desiredAssetAction remoteAssets e).localId = some e.1 := by
  unfold desiredAssetAction
  split
  · rfl
  · dsimp only
    split <;> rfl

@[simp] theorem desiredAssetAction_desiredAsset :
    (desiredAssetAction remoteAssets e).desiredAsset = some e.2 := by
  unfold desiredAssetAction
  split
  · rfl
  · dsimp only
    split <;> rfl

@[simp] theorem desiredAssetAction_remoteId :
    (desiredAssetAction remoteAssets e).remoteId =
      (remoteAssets.get? e.1).map CollibraRemoteAsset.remoteId := by
  unfold desiredAssetAction
  cases remoteAssets.get? e.1 with
  | none => rfl
  | some r =>
    dsimp only
    split <;> rfl

@[simp] theorem desiredRelationshipAction_objectKind :
    (desiredRelationshipAction remoteRels f).objectKind = .relationship := by
  unfold desiredRelationshipAction
  split <;> rfl

@[simp] theorem desiredRelationshipAction_desiredRelationship :
    (desiredRelationshipAction remoteRels f).desiredRelationship = some f.2 := by
  unfold desiredRelationshipAction
  split <;> rfl

@[simp] theorem desiredRelationshipAction_remoteId :
    (desiredRelationshipAction remoteRels f).remoteId =
      (remoteRels.get? f.1).map CollibraRemoteRelationship.remoteId := by
  unfold desiredRelationshipAction
  cases remoteRels.get? f.1 <;> rfl

end Fields

section Kinds
variable {desired : CollibraDesiredState} {remote : CollibraRemoteState} {a : SyncAction}

theorem objectKind_of_mem_assetActions (h : a ∈ assetActions desired remote) :
    a.objectKind = .asset := by
  rcases List.mem_append.mp h with h | h <;> obtain ⟨e, -, rfl⟩ := List.mem_map.mp h
  · simp
  · rfl

theorem objectKind_of_mem_relationshipActions (h : a ∈ relationshipActions desired remote) :
    a.objectKind = .relationship := by
  rcases List.mem_append.mp h with h | h <;> obtain ⟨e, -, rfl⟩ := List.mem_map.mp h
  · simp
  · rfl

end Kinds

section Counts
variable (desired : CollibraDesiredState) (remote : CollibraRemoteState)

/-- Counting asset entries of a plan only looks at the asset half. -/
theorem countP_asset (p : SyncAction → Bool) :
    (buildSyncPlan desired remote).actions.countP (fun a => a.objectKind = .asset ∧ p a) =
      (assetActions desired remote).countP p := by
  rw [(buildSyncPlan_perm desired remote).countP_eq, List.countP_append]
  have hrel : (relationshipActions desired remote).countP
      (fun a => decide (a.objectKind = .asset ∧ p a = true)) = 0 := by
    rw [List.countP_eq_zero]
    intro a ha
    simp [objectKind_of_mem_relationshipActions ha]
  rw [hrel, Nat.add_zero]
  apply List.countP_congr
  intro a ha
  simp [objectKind_of_mem_assetActions ha]

/-- Counting relationship entries of a plan only looks at the relationship half. -/
theorem countP_relationship (p : SyncAction → Bool) :
    (buildSyncPlan desired remote).actions.countP
        (fun a => a.objectKind = .relationship ∧ p a) =
      (relationshipActions desired remote).countP p := by
  rw [(buildSyncPlan_perm desired remote).countP_eq, List.countP_append]
  have hasset : (assetActions desired remote).countP
      (fun a => decide (a.objectKind = .relationship ∧ p a = true)) = 0 := by
    rw [List.countP_eq_zero]
    intro a ha
    simp [objectKind_of_mem_assetActions ha]
  rw [hasset, Nat.zero_add]
  apply List.countP_congr
  intro a ha
  simp [objectKind_of_mem_relationshipActions ha]

/-- The asset entries name the desired local ids and, apart from them, the remaining remote ones. -/
theorem assetActions_localIds :
    (assetActions desired remote).map SyncAction.localId =
      (desiredAssetIndex desired).keys.map some ++
      (((remoteAssetIndex remote).entries.filter
        (fun e => !(desiredAssetIndex desired).contains e.1)).map Prod.fst).map some := by
  unfold assetActions Dict.keys
  simp only [List.map_append, List.map_map]
  congr 1
  apply List.map_congr_left
  intro e _
  simp

/-- The relationship entries carry exactly the indexed desired relationships. -/
theorem relationshipActions_desired :
    (relationshipActions desired remote).filterMap SyncAction.desiredRelationship =
      (desiredRelationshipIndex desired).values := by
  unfold relationshipActions Dict.values
  rw [List.filterMap_append, List.filterMap_map, List.filterMap_map]
  have hdesired : SyncAction.desiredRelationship ∘
      desiredRelationshipAction (remoteRelationshipIndex remote) = some ∘ Prod.snd := by
    funext f
    simp
  have hremote : SyncAction.desiredRelationship ∘
      (fun e : (String × String × String) × CollibraRemoteRelationship =>
        SyncAction.remoteOnlyRelationship e.2) = fun _ => none := rfl
  rw [hdesired, hremote, List.filterMap_eq_map, List.filterMap_none, List.append_nil]

/-- The asset entries carry the remote ids of the indexed remote assets. -/
theorem assetActions_remoteIds :
    ((assetActions desired remote).filterMap SyncAction.remoteId).Perm
      ((remoteAssetIndex remote).values.map CollibraRemoteAsset.remoteId) := by
  have hjoin := (Dict.join_append_rest_perm (desiredAssetIndex desired)
    (remoteAssetIndex remote)).map (fun e => e.2.remoteId)
  refine (List.Perm.of_eq ?_).trans (hjoin.trans (List.Perm.of_eq ?_))
  · unfold assetActions Dict.keys
    rw [List.filterMap_append, List.map_append, List.filterMap_map, List.filterMap_map,
      List.filterMap_map, List.map_filterMap, ← List.filterMap_eq_map]
    congr 1
    apply List.filterMap_congr
    intro e _
    simp [Option.map_map, Function.comp_def]
  · unfold Dict.values
    rw [List.map_map]
    rfl

/-- The relationship entries carry the remote ids of the indexed remote relationships. -/
theorem relationshipActions_remoteIds :
    ((relationshipActions desired remote).filterMap SyncAction.remoteId).Perm
      ((remoteRelationshipIndex remote).values.map CollibraRemoteRelationship.remoteId) := by
  have hjoin := (Dict.join_append_rest_perm (desiredRelationshipIndex desired)
    (remoteRelationshipIndex remote)).map (fun e => e.2.remoteId)
  refine (List.Perm.of_eq ?_).trans (hjoin.trans (List.Perm.of_eq ?_))
  · unfold relationshipActions Dict.keys
    rw [List.filterMap_append, List.map_append, List.filterMap_map, List.filterMap_map,
      List.filterMap_map, List.map_filterMap, ← List.filterMap_eq_map]
    congr 1
    apply List.filterMap_congr
    intro e _
    simp [Option.map_map, Function.comp_def]
  · unfold Dict.values
    rw [List.map_map]
    rfl

end Counts

end CollibraGovernance.Collibra
