import CollibraGovernance.Collibra.Sync
import CollibraGovernance.Collibra.PlanJson

/-! The executor: apply an explicit plan through an adapter, fail-fast. -/
namespace CollibraGovernance.Collibra
open Library

/-- Structured adapter failure. -/
structure CollibraAdapterError where
  message : String
  operation : String
  statusCode : Option Nat
  endpointPath : Option String
  endpointFamily : Option String
  attempt : Option Nat
  exhausted : Option Bool
  deriving DecidableEq

/-- `str(exc)` -/
def CollibraAdapterError.render (e : CollibraAdapterError) : String :=
  "; ".intercalate ([e.message, "operation=" ++ e.operation] ++
    (e.statusCode.map (fun n => "status_code=" ++ toString n)).toList ++
    (e.endpointPath.map (fun p => "endpoint_path=" ++ p)).toList ++
    (e.endpointFamily.map (fun p => "endpoint_family=" ++ p)).toList ++
    (e.attempt.map (fun n => "attempt=" ++ toString n)).toList ++
    (e.exhausted.map (fun b => "exhausted=" ++ (if b then "True" else "False"))).toList)

def adapterError (message operation endpointPath : String) : CollibraAdapterError :=
  ⟨message, operation, none, some endpointPath, none, none, none⟩

/-- One adapter call on the remote side's state. -/
abbrev Call (σ α : Type) := σ → Except CollibraAdapterError α × σ

/-- The mutating half of the adapter contract. -/
structure CollibraAdapter (σ : Type) where
  createAsset : CollibraAssetSpec → Call σ String
  updateAsset : String → CollibraAssetSpec → Bool → Bool → Call σ Unit
  createRelationship : CollibraRelationshipSpec → String → String → Call σ String

/-- What the executor's dispatch on object kind and action type asks of the adapter. -/
inductive MutationRequest where
  | createAsset (asset : CollibraAssetSpec)
  | updateAsset (remoteId : String) (asset : CollibraAssetSpec) (patchName patchDisplayName : Bool)
  | createRelationship (relationship : CollibraRelationshipSpec)
  deriving DecidableEq

def SyncAction.request (action : SyncAction) : Option MutationRequest :=
  match action.objectKind, action.actionType with
  | .asset, .create => action.desiredAsset.map .createAsset
  | .asset, .update => action.desiredAsset.bind fun asset => action.remoteId.map fun remoteId =>
      .updateAsset remoteId asset (action.changedFields.contains "name")
        (action.changedFields.contains "display_name")
  | .relationship, .create => action.desiredRelationship.map .createRelationship
  | _, _ => none

/-- `_seed_remote_ids_from_plan` -/
def seedRemoteIdsFromPlan (plan : SyncPlan) : Dict String String :=
  plan.actions.foldl (fun mapping action =>
    match action.localId, action.remoteId with
    | some localId, some remoteId =>
      if action.objectKind = .asset ∧ localId ≠ "" ∧ remoteId ≠ "" ∧ action.actionType ≠ .create then
        mapping.set localId remoteId
      else mapping
    | _, _ => mapping) Dict.empty

def assetCreateOrder : List String := ["db:", "sch:", "tbl:", "col:"]

/-- Creates go by kind prefix first, then by local id. -/
def assetRank (action : SyncAction) : Nat ×ₗ String :=
  let localId := action.localId.getD ""
  toLex (assetCreateOrder.findIdx (fun p => p.toList.isPrefixOf localId.toList), localId)

def ofKind (t : SyncActionType) (k : SyncObjectKind) (actions : List SyncAction) :
    List SyncAction :=
  actions.filter (fun a => a.actionType = t ∧ a.objectKind = k)

lemma mem_ofKind {t : SyncActionType} {k : SyncObjectKind} {actions : List SyncAction}
    {a : SyncAction} : a ∈ ofKind t k actions ↔ a ∈ actions ∧ a.actionType = t ∧ a.objectKind = k := by
  simp [ofKind]

/-- `_ordered_mutating_actions` -/
def orderedMutatingActions (actions : List SyncAction) : List SyncAction :=
  sortBy assetRank (ofKind .create .asset actions) ++
  sortBy (fun a => a.localId.getD "") (ofKind .update .asset actions) ++
  sortBy (fun a => a.localId.getD "") (ofKind .create .relationship actions)

/-- One pass through the executor's loop body: the new id map and the increment of `applied`. -/
def performAction {σ : Type} (adapter : CollibraAdapter σ) (localToRemote : Dict String String)
    (action : SyncAction) : Call σ (Dict String String × Nat) := fun s =>
  match action.request with
  | some (.createAsset asset) =>
    match adapter.createAsset asset s with
    | (.ok remoteId, s') => (.ok (localToRemote.set asset.localId remoteId, 1), s')
    | (.error e, s') => (.error e, s')
  | some (.updateAsset remoteId asset patchName patchDisplayName) =>
    match adapter.updateAsset remoteId asset patchName patchDisplayName s with
    | (.ok _, s') => (.ok (localToRemote.set asset.localId remoteId, 1), s')
    | (.error e, s') => (.error e, s')
  | some (.createRelationship rel) =>
    match localToRemote.get? rel.sourceLocalId, localToRemote.get? rel.targetLocalId with
    | some source, some target =>
      match adapter.createRelationship rel source target s with
      | (.ok _, s') => (.ok (localToRemote, 1), s')
      | (.error e, s') => (.error e, s')
    | _, _ =>
      (.error (adapterError "relationship endpoints unresolved" "create_relationship"
        "/sync/relationships"), s)
  | none => (.ok (localToRemote, 0), s)

section Step
variable {σ : Type} {adapter : CollibraAdapter σ}

/-- What a pass that succeeds asked of the adapter, and what it learned. -/
theorem performAction_cases {m m' : Dict String String} {a : SyncAction} {n : Nat} {s s' : σ}
    (h : performAction adapter m a s = (.ok (m', n), s')) :
    (∃ asset remoteId, a.request = some (.createAsset asset) ∧
      adapter.createAsset asset s = (.ok remoteId, s') ∧ m' = m.set asset.localId remoteId) ∨
    (∃ remoteId asset patchName patchDisplayName,
      a.request = some (.updateAsset remoteId asset patchName patchDisplayName) ∧
      adapter.updateAsset remoteId asset patchName patchDisplayName s = (.ok (), s') ∧
      m' = m.set asset.localId remoteId) ∨
    (∃ rel source target remoteId, a.request = some (.createRelationship rel) ∧
      m.get? rel.sourceLocalId = some source ∧ m.get? rel.targetLocalId = some target ∧
      adapter.createRelationship rel source target s = (.ok remoteId, s') ∧ m' = m) ∨
    (a.request = none ∧ m' = m ∧ s' = s) := by
  unfold performAction at h
  cases hr : a.request with
  | none =>
    simp only [hr] at h
    cases h
    exact .inr (.inr (.inr ⟨rfl, rfl, rfl⟩))
  | some r =>
    cases r with
    | createAsset asset =>
      simp only [hr] at h
      rcases hc : adapter.createAsset asset s with ⟨_ | id, t⟩ <;> simp only [hc] at h <;> cases h
      exact .inl ⟨asset, id, rfl, hc, rfl⟩
    | updateAsset remoteId asset pn pd =>
      simp only [hr] at h
      rcases hc : adapter.updateAsset remoteId asset pn pd s with ⟨_ | id, t⟩ <;>
        simp only [hc] at h <;> cases h
      exact .inr (.inl ⟨remoteId, asset, pn, pd, rfl, hc, rfl⟩)
    | createRelationship rel =>
      simp only [hr] at h
      cases hs : m.get? rel.sourceLocalId with
      | none => simp only [hs] at h; cases h
      | some source =>
        cases ht : m.get? rel.targetLocalId with
        | none => simp only [hs, ht] at h; cases h
        | some target =>
          simp only [hs, ht] at h
          rcases hc : adapter.createRelationship rel source target s with ⟨_ | id, t⟩ <;>
            simp only [hc] at h <;> cases h
          exact .inr (.inr (.inl ⟨rel, source, target, id, rfl, hs, ht, hc, rfl⟩))

end Step

/-- How the loop ended: the mutations applied and, if it stopped early, on which action and why. -/
structure LoopOutcome where
  applied : Nat
  failure : Option (SyncAction × CollibraAdapterError)

def runActions {σ : Type} (adapter : CollibraAdapter σ) :
    Dict String String → Nat → List SyncAction → σ → LoopOutcome × σ
  | _, applied, [], s => (⟨applied, none⟩, s)
  | localToRemote, applied, action :: rest, s =>
    match performAction adapter localToRemote action s with
    | (.ok (localToRemote', n), s') => runActions adapter localToRemote' (applied + n) rest s'
    | (.error e, s') => (⟨applied, some (action, e)⟩, s')

/-- What every successful pass keeps holds when a run ends without a failure. -/
theorem runActions_induction {σ : Type} {adapter : CollibraAdapter σ}
    {motive : Dict String String → List SyncAction → σ → Prop}
    (step : ∀ m a rest s m' n s', motive m (a :: rest) s →
      performAction adapter m a s = (.ok (m', n), s') → motive m' rest s')
    {m : Dict String String} {applied : Nat} {actions : List SyncAction} {s : σ}
    (hstart : motive m actions s) (hok : (runActions adapter m applied actions s).1.failure = none) :
    ∃ m', motive m' [] (runActions adapter m applied actions s).2 := by
  induction actions generalizing m applied s with
  | nil => exact ⟨m, hstart⟩
  | cons a rest ih =>
    simp only [runActions] at hok ⊢
    rcases hp : performAction adapter m a s with ⟨e | ⟨m', n⟩, s'⟩
    · simp [hp] at hok
    · simp only [hp] at hok
      exact ih (step m a rest s m' n s' hstart hp) hok

def mutatingActions (plan : SyncPlan) : List SyncAction :=
  plan.actions.filter (fun a => a.actionType = .create ∨ a.actionType = .update)

/-- `dry_run_sync_result` -/
def dryRunSyncResult (plan : SyncPlan) : SyncResult :=
  ⟨true, true, 0, plan.unchanged.length, none, none, plan⟩

/-- `_apply_sync_plan_mutations` -/
def applySyncPlanMutations {σ : Type} (adapter : CollibraAdapter σ) (plan : SyncPlan) (s : σ) :
    SyncResult × σ :=
  let (outcome, s') := runActions adapter (seedRemoteIdsFromPlan plan) 0
    (orderedMutatingActions (mutatingActions plan)) s
  match outcome.failure with
  | some (action, e) =>
    (⟨false, false, outcome.applied, plan.unchanged.length, some action, some e.render, plan⟩, s')
  | none => (⟨true, false, outcome.applied, plan.unchanged.length, none, none, plan⟩, s')

/-- Execute an explicit plan. A dry run performs no call at all. -/
def executeSyncPlan {σ : Type} (adapter : CollibraAdapter σ) (plan : SyncPlan) (apply : Bool)
    (s : σ) : SyncResult × σ :=
  if apply then applySyncPlanMutations adapter plan s else (dryRunSyncResult plan, s)

end CollibraGovernance.Collibra
