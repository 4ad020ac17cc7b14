import CollibraGovernance.Collibra.Execute

/-! What an apply does to the remote side: a prefix of the ordered mutations, each once, and
which plans lose a mutation. -/
namespace CollibraGovernance.Collibra
open Library

/-- A mutation the adapter performed, with the arguments it received. -/
inductive Mutation where
  | createAsset (asset : CollibraAssetSpec)
  | updateAsset (remoteId : String) (asset : CollibraAssetSpec) (patchName patchDisplayName : Bool)
  | createRelationship (relationship : CollibraRelationshipSpec) (source target : String)
  deriving DecidableEq

/-- Log a call when it succeeds. -/
def record {σ α : Type} (m : Mutation) (call : Call σ α) : Call (σ × List Mutation) α := fun s =>
  match call s.1 with
  | (.ok a, s') => (.ok a, (s', s.2 ++ [m]))
  | (.error e, s') => (.error e, (s', s.2))

/-- The adapter together with the log of the mutations it performed. -/
def recording {σ : Type} (adapter : CollibraAdapter σ) : CollibraAdapter (σ × List Mutation) where
  createAsset asset := record (.createAsset asset) (adapter.createAsset asset)
  updateAsset remoteId asset patchName patchDisplayName :=
    record (.updateAsset remoteId asset patchName patchDisplayName)
      (adapter.updateAsset remoteId asset patchName patchDisplayName)
  createRelationship rel source target :=
    record (.createRelationship rel source target) (adapter.createRelationship rel source target)

/-- The mutation carries out the action. No adapter mutation carries out a relationship update. -/
def Realizes (action : SyncAction) : Mutation → Prop
  | .createAsset asset => action.actionType = .create ∧ action.objectKind = .asset ∧
      action.desiredAsset = some asset
  | .updateAsset remoteId asset _ _ => action.actionType = .update ∧ action.objectKind = .asset ∧
      action.desiredAsset = some asset ∧ action.remoteId = some remoteId
  | .createRelationship rel _ _ => action.actionType = .create ∧
      action.objectKind = .relationship ∧ action.desiredRelationship = some rel

/-- Every planned mutation exactly once on success; an exactly reported prefix on failure. -/
def AppliesExactlyOnce {σ : Type} (adapter : CollibraAdapter σ) (plan : SyncPlan) (s : σ) : Prop :=
  let (result, (_, log)) := executeSyncPlan (recording adapter) plan true (s, [])
  (result.success = true →
    result.appliedCount = plan.creates.length + plan.updates.length ∧
    ∃ order, order.Perm (plan.creates ++ plan.updates) ∧ List.Forall₂ Realizes order log) ∧
  (result.success = false →
    ∃ done next rest, orderedMutatingActions (mutatingActions plan) = done ++ next :: rest ∧
      List.Forall₂ Realizes done log ∧ result.appliedCount = done.length ∧
      result.failedAction = some next)

section Dispatch

theorem request_createAsset {a : SyncAction} {asset : CollibraAssetSpec} :
    a.request = some (.createAsset asset) ↔
      a.actionType = .create ∧ a.objectKind = .asset ∧ a.desiredAsset = some asset := by
  cases ht : a.actionType <;> cases hk : a.objectKind <;>
    simp [SyncAction.request, ht, hk, Option.bind_eq_some_iff]

theorem request_updateAsset {a : SyncAction} {remoteId : String} {asset : CollibraAssetSpec}
    {patchName patchDisplayName : Bool}
    (h : a.request = some (.updateAsset remoteId asset patchName patchDisplayName)) :
    a.actionType = .update ∧ a.objectKind = .asset ∧ a.desiredAsset = some asset ∧
      a.remoteId = some remoteId := by
  cases ht : a.actionType <;> cases hk : a.objectKind <;>
    simp [SyncAction.request, ht, hk, Option.bind_eq_some_iff] at h
  exact ⟨rfl, rfl, h.1, h.2.1⟩

theorem request_createRelationship {a : SyncAction} {rel : CollibraRelationshipSpec} :
    a.request = some (.createRelationship rel) ↔
      a.actionType = .create ∧ a.objectKind = .relationship ∧ a.desiredRelationship = some rel := by
  cases ht : a.actionType <;> cases hk : a.objectKind <;>
    simp [SyncAction.request, ht, hk, Option.bind_eq_some_iff]

/-- The dispatch covers every mutation but the relationship update. -/
theorem request_isSome (a : SyncAction) : a.request.isSome = true ↔
    (a.actionType = .create ∨ a.actionType = .update) ∧
      ¬ (a.actionType = .update ∧ a.objectKind = .relationship) := by
  cases ht : a.actionType with
  | create =>
    cases hk : a.objectKind with
    | asset =>
      obtain ⟨asset, ha⟩ := a.create_asset_isSome ht hk
      simp [SyncAction.request, ht, hk, ha]
    | relationship =>
      obtain ⟨rel, hr⟩ := a.create_relationship_isSome ht hk
      simp [SyncAction.request, ht, hk, hr]
  | update =>
    obtain ⟨asset, remoteId, ha, hr⟩ := a.update_isSome ht
    cases hk : a.objectKind <;> simp [SyncAction.request, ht, hk, ha, hr]
  | unchanged => cases hk : a.objectKind <;> simp [SyncAction.request, ht, hk]
  | remoteOnly => cases hk : a.objectKind <;> simp [SyncAction.request, ht, hk]

end Dispatch

section Step
variable {σ : Type} {adapter : CollibraAdapter σ}

/-- One loop pass that succeeds logs exactly the mutation of its action. -/
theorem performAction_ok {m m' : Dict String String} {a : SyncAction} {n : Nat}
    {s s' : σ} {log log' : List Mutation} (ha : a.request.isSome = true)
    (h : performAction (recording adapter) m a (s, log) = (.ok (m', n), (s', log'))) :
    n = 1 ∧ ∃ x, Realizes a x ∧ log' = log ++ [x] := by
  unfold performAction at h
  obtain ⟨r, hr⟩ := Option.isSome_iff_exists.mp ha
  cases r with
  | createAsset asset =>
    simp only [hr, recording, record] at h
    rcases hc : adapter.createAsset asset s with ⟨_ | id, t⟩ <;> simp only [hc] at h
    · cases h
    · cases h
      exact ⟨rfl, .createAsset asset, request_createAsset.mp hr, rfl⟩
  | updateAsset remoteId asset pn pd =>
    simp only [hr, recording, record] at h
    rcases hc : adapter.updateAsset remoteId asset pn pd s with ⟨_ | id, t⟩ <;> simp only [hc] at h
    · cases h
    · cases h
      exact ⟨rfl, .updateAsset remoteId asset pn pd, request_updateAsset hr, rfl⟩
  | createRelationship rel =>
    simp only [hr, recording, record] at h
    cases hs : m.get? rel.sourceLocalId with
    | none => simp only [hs] at h; cases h
    | some source =>
      cases ht : m.get? rel.targetLocalId with
      | none => simp only [hs, ht] at h; cases h
      | some target =>
        simp only [hs, ht] at h
        rcases hc : adapter.createRelationship rel source target s with ⟨_ | id, t⟩ <;>
          simp only [hc] at h
        · cases h
        · cases h
          exact ⟨rfl, .createRelationship rel source target, request_createRelationship.mp hr, rfl⟩

/-- One loop pass that fails leaves the log as it was. -/
theorem performAction_error {m : Dict String String} {a : SyncAction} {e : CollibraAdapterError}
    {s s' : σ} {log log' : List Mutation}
    (h : performAction (recording adapter) m a (s, log) = (.error e, (s', log'))) :
    log' = log := by
  unfold performAction at h
  cases hr : a.request with
  | none => simp only [hr] at h; cases h
  | some r =>
    cases r with
    | createAsset asset =>
      simp only [hr, recording, record] at h
      rcases hc : adapter.createAsset asset s with ⟨_ | id, t⟩ <;> simp only [hc] at h <;> cases h
      rfl
    | updateAsset remoteId asset pn pd =>
      simp only [hr, recording, record] at h
      rcases hc : adapter.updateAsset remoteId asset pn pd s with ⟨_ | id, t⟩ <;>
        simp only [hc] at h <;> cases h
      rfl
    | createRelationship rel =>
      simp only [hr, recording, record] at h
      cases hs : m.get? rel.sourceLocalId with
      | none => simp only [hs] at h; cases h; rfl
      | some source =>
        cases ht : m.get? rel.targetLocalId with
        | none => simp only [hs, ht] at h; cases h; rfl
        | some target =>
          simp only [hs, ht] at h
          rcases hc : adapter.createRelationship rel source target s with ⟨_ | id, t⟩ <;>
            simp only [hc] at h <;> cases h
          rfl

/-- A run performs the mutations of a prefix of its actions and stops on the next one, if any. -/
theorem runActions_log {m : Dict String String} {applied : Nat} {actions : List SyncAction}
    {s s' : σ} {log log' : List Mutation} {outcome : LoopOutcome}
    (hreq : ∀ a ∈ actions, a.request.isSome = true)
    (h : runActions (recording adapter) m applied actions (s, log) = (outcome, (s', log'))) :
    ∃ done rest performed, actions = done ++ rest ∧ List.Forall₂ Realizes done performed ∧
      log' = log ++ performed ∧ outcome.applied = applied + done.length ∧
      outcome.failure.map Prod.fst = rest.head? := by
  induction actions generalizing m applied s log with
  | nil =>
    cases h
    exact ⟨[], [], [], rfl, .nil, by simp, by simp, rfl⟩
  | cons a rest ih =>
    simp only [runActions] at h
    rcases hp : performAction (recording adapter) m a (s, log) with ⟨r, t, log₁⟩
    cases r with
    | error e =>
      simp only [hp] at h
      cases h
      exact ⟨[], a :: rest, [], rfl, .nil, by simp [performAction_error hp], by simp, rfl⟩
    | ok v =>
      obtain ⟨m', n⟩ := v
      simp only [hp] at h
      obtain ⟨rfl, x, hx, rfl⟩ := performAction_ok (hreq a (List.mem_cons_self ..)) hp
      obtain ⟨done, tail, performed, rfl, hall, rfl, happlied, hfail⟩ :=
        ih (fun b hb => hreq b (List.mem_cons_of_mem _ hb)) h
      refine ⟨a :: done, tail, x :: performed, rfl, .cons hx hall, by simp, ?_, hfail⟩
      rw [happlied, List.length_cons]
      omega

end Step

section Transparency
variable {σ : Type} (adapter : CollibraAdapter σ)

lemma performAction_recording (m : Dict String String) (a : SyncAction) (s : σ)
    (log : List Mutation) :
    (performAction (recording adapter) m a (s, log)).1 = (performAction adapter m a s).1 ∧
      (performAction (recording adapter) m a (s, log)).2.1 = (performAction adapter m a s).2 := by
  unfold performAction
  cases hr : a.request with
  | none => exact ⟨rfl, rfl⟩
  | some r =>
    cases r with
    | createAsset asset =>
      simp only [recording, record]
      rcases adapter.createAsset asset s with ⟨_ | id, t⟩ <;> exact ⟨rfl, rfl⟩
    | updateAsset remoteId asset pn pd =>
      simp only [recording, record]
      rcases adapter.updateAsset remoteId asset pn pd s with ⟨_ | id, t⟩ <;> exact ⟨rfl, rfl⟩
    | createRelationship rel =>
      simp only [recording, record]
      cases m.get? rel.sourceLocalId with
      | none => exact ⟨rfl, rfl⟩
      | some source =>
        cases m.get? rel.targetLocalId with
        | none => exact ⟨rfl, rfl⟩
        | some target =>
          simp only
          rcases adapter.createRelationship rel source target s with ⟨_ | id, t⟩ <;>
            exact ⟨rfl, rfl⟩

lemma runActions_recording (m : Dict String String) (applied : Nat) (actions : List SyncAction)
    (s : σ) (log : List Mutation) :
    (runActions (recording adapter) m applied actions (s, log)).1 =
        (runActions adapter m applied actions s).1 ∧
      (runActions (recording adapter) m applied actions (s, log)).2.1 =
        (runActions adapter m applied actions s).2 := by
  induction actions generalizing m applied s log with
  | nil => exact ⟨rfl, rfl⟩
  | cons a rest ih =>
    obtain ⟨hres, hstate⟩ := performAction_recording adapter m a s log
    simp only [runActions]
    rcases hp : performAction adapter m a s with ⟨r, t⟩
    rcases hq : performAction (recording adapter) m a (s, log) with ⟨r', t', log'⟩
    rw [hp, hq] at hres hstate
    cases hres
    cases hstate
    cases r with
    | error e => exact ⟨rfl, rfl⟩
    | ok v => exact ih v.1 (applied + v.2) t log'

/-- Keeping the log changes neither the result nor the remote side. -/
theorem executeSyncPlan_recording (plan : SyncPlan) (apply : Bool) (s : σ) (log : List Mutation) :
    (executeSyncPlan (recording adapter) plan apply (s, log)).1 =
        (executeSyncPlan adapter plan apply s).1 ∧
      (executeSyncPlan (recording adapter) plan apply (s, log)).2.1 =
        (executeSyncPlan adapter plan apply s).2 := by
  cases apply with
  | false => exact ⟨rfl, rfl⟩
  | true =>
    obtain ⟨hres, hstate⟩ := runActions_recording adapter (seedRemoteIdsFromPlan plan) 0
      (orderedMutatingActions (mutatingActions plan)) s log
    simp only [executeSyncPlan, applySyncPlanMutations, if_true]
    rw [← hstate, hres]
    cases (runActions adapter (seedRemoteIdsFromPlan plan) 0
      (orderedMutatingActions (mutatingActions plan)) s).1.failure <;> exact ⟨rfl, rfl⟩

end Transparency

section Ordering

lemma ofKind_mutating (plan : SyncPlan) {t : SyncActionType} (k : SyncObjectKind)
    (ht : t = .create ∨ t = .update) :
    ofKind t k (mutatingActions plan) = ofKind t k plan.actions := by
  unfold ofKind mutatingActions
  rw [List.filter_filter]
  apply List.filter_congr
  intro a _
  by_cases h : a.actionType = t <;> rcases ht with rfl | rfl <;> simp [h]

/-- An action type splits into its assets and its relationships. -/
lemma ofType_perm (plan : SyncPlan) (t : SyncActionType) :
    (plan.ofType t).Perm (ofKind t .asset plan.actions ++ ofKind t .relationship plan.actions) := by
  have split := List.filter_append_perm (fun a : SyncAction => a.objectKind = .asset)
    (plan.ofType t)
  refine split.symm.trans (List.Perm.of_eq ?_)
  unfold SyncPlan.ofType ofKind
  rw [List.filter_filter, List.filter_filter]
  congr 1
  · apply List.filter_congr
    intro a _
    simp [Bool.and_comm]
  · apply List.filter_congr
    intro a _
    cases a.objectKind <;> simp

/-- The executor visits asset creates, asset updates and relationship creates, each once. -/
theorem orderedMutatingActions_perm (plan : SyncPlan) :
    (orderedMutatingActions (mutatingActions plan)).Perm
      (ofKind .create .asset plan.actions ++ ofKind .update .asset plan.actions ++
        ofKind .create .relationship plan.actions) := by
  unfold orderedMutatingActions
  rw [ofKind_mutating _ _ (.inl rfl), ofKind_mutating _ _ (.inr rfl),
    ofKind_mutating _ _ (.inl rfl)]
  exact ((sortBy_perm _ _).append (sortBy_perm _ _)).append (sortBy_perm _ _)

theorem mem_orderedMutatingActions {plan : SyncPlan} {a : SyncAction} :
    a ∈ orderedMutatingActions (mutatingActions plan) ↔
      a ∈ plan.actions ∧ a.request.isSome = true := by
  rw [(orderedMutatingActions_perm plan).mem_iff, List.mem_append, List.mem_append, mem_ofKind,
    mem_ofKind, mem_ofKind, request_isSome]
  cases a.actionType <;> cases a.objectKind <;> simp

theorem creates_updates_perm (plan : SyncPlan) :
    (plan.creates ++ plan.updates).Perm (orderedMutatingActions (mutatingActions plan) ++
      ofKind .update .relationship plan.actions) := by
  have h := (ofType_perm plan .create).append (ofType_perm plan .update)
  refine h.trans (List.Perm.trans ?_
    ((orderedMutatingActions_perm plan).append_right _).symm)
  simp only [List.append_assoc]
  apply List.Perm.append_left
  rw [← List.append_assoc, ← List.append_assoc]
  exact List.perm_append_comm.append_right _

/-- No relationship update is planned. -/
def RelationshipUpdateFree (plan : SyncPlan) : Prop :=
  ∀ a ∈ plan.actions, ¬ (a.actionType = .update ∧ a.objectKind = .relationship)

instance (plan : SyncPlan) : Decidable (RelationshipUpdateFree plan) :=
  inferInstanceAs (Decidable (∀ a ∈ plan.actions, _))

lemma ofKind_update_relationship_eq_nil {plan : SyncPlan} :
    ofKind .update .relationship plan.actions = [] ↔ RelationshipUpdateFree plan := by
  unfold ofKind RelationshipUpdateFree
  simp [List.filter_eq_nil_iff]

end Ordering

section Endpoints

/-- The local id an asset mutation makes resolvable. -/
def SyncAction.resolves (a : SyncAction) : Option String :=
  match a.request with
  | some (.createAsset asset) => some asset.localId
  | some (.updateAsset _ asset _ _) => some asset.localId
  | _ => none

/-- Every relationship create finds both endpoints among the ids known when it is reached. -/
def EndpointsReady : (String → Prop) → List SyncAction → Prop
  | _, [] => True
  | known, a :: rest =>
    (∀ rel, a.request = some (.createRelationship rel) →
      known rel.sourceLocalId ∧ known rel.targetLocalId) ∧
    EndpointsReady (fun k => known k ∨ a.resolves = some k) rest

/-- The ids a whole plan makes resolvable: those it carries and those it creates or updates. -/
def Resolvable (plan : SyncPlan) (localId : String) : Prop :=
  localId ∈ (seedRemoteIdsFromPlan plan).keys ∨ ∃ a ∈ plan.actions, a.resolves = some localId

/-- Every relationship create of the plan has resolvable endpoints. -/
def EndpointsResolvable (plan : SyncPlan) : Prop :=
  ∀ a ∈ plan.actions, ∀ rel, a.request = some (.createRelationship rel) →
    Resolvable plan rel.sourceLocalId ∧ Resolvable plan rel.targetLocalId

variable {σ : Type} {adapter : CollibraAdapter σ}

lemma performAction_keys {m m' : Dict String String} {a : SyncAction} {n : Nat} {s s' : σ}
    (h : performAction adapter m a s = (.ok (m', n), s')) (k : String) :
    k ∈ m'.keys ↔ k ∈ m.keys ∨ a.resolves = some k := by
  unfold SyncAction.resolves
  rcases performAction_cases h with ⟨asset, id, hr, -, rfl⟩ | ⟨id, asset, pn, pd, hr, -, rfl⟩ |
    ⟨rel, source, target, id, hr, -, -, -, rfl⟩ | ⟨hr, rfl, -⟩
  · rw [hr, Dict.mem_keys_set, Option.some_inj, or_comm, eq_comm]
  · rw [hr, Dict.mem_keys_set, Option.some_inj, or_comm, eq_comm]
  · simp [hr]
  · simp [hr]

lemma performAction_endpoints {m m' : Dict String String} {a : SyncAction} {n : Nat} {s s' : σ}
    (h : performAction adapter m a s = (.ok (m', n), s')) {rel : CollibraRelationshipSpec}
    (hr : a.request = some (.createRelationship rel)) :
    rel.sourceLocalId ∈ m.keys ∧ rel.targetLocalId ∈ m.keys := by
  rcases performAction_cases h with ⟨asset, id, hr', -, -⟩ | ⟨id, asset, pn, pd, hr', -, -⟩ |
    ⟨rel', source, target, id, hr', hs, ht, -, -⟩ | ⟨hr', -, -⟩
  · simp [hr] at hr'
  · simp [hr] at hr'
  · rw [hr] at hr'
    cases hr'
    exact ⟨Dict.mem_keys_iff.mpr ⟨_, hs⟩, Dict.mem_keys_iff.mpr ⟨_, ht⟩⟩
  · simp [hr] at hr'

lemma EndpointsReady.congr {known known' : String → Prop} (h : ∀ k, known k ↔ known' k)
    (actions : List SyncAction) : EndpointsReady known actions ↔ EndpointsReady known' actions := by
  have : known = known' := funext fun k => propext (h k)
  rw [this]

/-- A run that ends without a failure found every endpoint it needed. -/
theorem runActions_ready {m : Dict String String} {applied : Nat} {actions : List SyncAction}
    {s : σ} (h : (runActions adapter m applied actions s).1.failure = none) :
    EndpointsReady (· ∈ m.keys) actions := by
  induction actions generalizing m applied s with
  | nil => trivial
  | cons a rest ih =>
    simp only [runActions] at h
    rcases hp : performAction adapter m a s with ⟨_ | ⟨m', n⟩, t⟩
    · simp [hp] at h
    · simp only [hp] at h
      exact ⟨fun rel hr => performAction_endpoints hp hr,
        (EndpointsReady.congr (performAction_keys hp) rest).mp (ih h)⟩

/-- Every call of the adapter succeeds. -/
structure Obliging {σ : Type} (adapter : CollibraAdapter σ) : Prop where
  creates : ∀ asset s, ∃ remoteId s', adapter.createAsset asset s = (.ok remoteId, s')
  updates : ∀ remoteId asset patchName patchDisplayName s,
    ∃ s', adapter.updateAsset remoteId asset patchName patchDisplayName s = (.ok (), s')
  relates : ∀ rel source target s,
    ∃ remoteId s', adapter.createRelationship rel source target s = (.ok remoteId, s')

/-- Keeping a log refuses nothing. -/
lemma Obliging.recording (h : Obliging adapter) : Obliging (recording adapter) where
  creates asset s := by
    obtain ⟨remoteId, s', hcall⟩ := h.creates asset s.1
    exact ⟨remoteId, _, by simp only [Collibra.recording, record, hcall]; rfl⟩
  updates remoteId asset patchName patchDisplayName s := by
    obtain ⟨s', hcall⟩ := h.updates remoteId asset patchName patchDisplayName s.1
    exact ⟨_, by simp only [Collibra.recording, record, hcall]; rfl⟩
  relates rel source target s := by
    obtain ⟨remoteId, s', hcall⟩ := h.relates rel source target s.1
    exact ⟨remoteId, _, by simp only [Collibra.recording, record, hcall]; rfl⟩

/-- On an adapter that never fails, known endpoints are all a run needs. -/
theorem runActions_obliging (hok : Obliging adapter) {m : Dict String String} {applied : Nat}
    {actions : List SyncAction} {s : σ} (h : EndpointsReady (· ∈ m.keys) actions) :
    (runActions adapter m applied actions s).1.failure = none := by
  induction actions generalizing m applied s with
  | nil => rfl
  | cons a rest ih =>
    obtain ⟨hrel, hrest⟩ := h
    have hstep : ∃ m' n t, performAction adapter m a s = (.ok (m', n), t) := by
      unfold performAction
      cases hr : a.request with
      | none => exact ⟨_, _, _, rfl⟩
      | some r =>
        cases r with
        | createAsset asset =>
          obtain ⟨remoteId, s', hcall⟩ := hok.creates asset s
          simp only [hcall]
          exact ⟨_, _, _, rfl⟩
        | updateAsset remoteId asset pn pd =>
          obtain ⟨s', hcall⟩ := hok.updates remoteId asset pn pd s
          simp only [hcall]
          exact ⟨_, _, _, rfl⟩
        | createRelationship rel =>
          obtain ⟨hs, ht⟩ := hrel rel hr
          obtain ⟨source, hs⟩ := Dict.mem_keys_iff.mp hs
          obtain ⟨target, ht⟩ := Dict.mem_keys_iff.mp ht
          obtain ⟨remoteId, s', hcall⟩ := hok.relates rel source target s
          simp only [hs, ht, hcall]
          exact ⟨_, _, _, rfl⟩
    obtain ⟨m', n, t, hp⟩ := hstep
    simp only [runActions, hp]
    exact ih ((EndpointsReady.congr (performAction_keys hp) rest).mpr hrest)

/-- The adapter that answers every call with the same id. -/
def agreeable : CollibraAdapter Unit where
  createAsset _ s := (.ok "r", s)
  updateAsset _ _ _ _ s := (.ok (), s)
  createRelationship _ _ _ s := (.ok "r", s)

lemma agreeable_obliging : Obliging agreeable :=
  ⟨fun _ _ => ⟨_, _, rfl⟩, fun _ _ _ _ _ => ⟨_, rfl⟩, fun _ _ _ _ => ⟨_, _, rfl⟩⟩

/-- With the asset mutations in front, readiness is about the whole plan at once. -/
lemma EndpointsReady.append {known : String → Prop} {assets rels : List SyncAction}
    (hassets : ∀ a ∈ assets, ∀ rel, a.request ≠ some (.createRelationship rel))
    (hrels : ∀ a ∈ rels, a.resolves = none) :
    EndpointsReady known (assets ++ rels) ↔
      ∀ a ∈ rels, ∀ rel, a.request = some (.createRelationship rel) →
        (known rel.sourceLocalId ∨ ∃ b ∈ assets, b.resolves = some rel.sourceLocalId) ∧
        (known rel.targetLocalId ∨ ∃ b ∈ assets, b.resolves = some rel.targetLocalId) := by
  induction assets generalizing known with
  | nil =>
    simp only [List.nil_append, List.not_mem_nil, false_and, exists_false, or_false]
    induction rels generalizing known with
    | nil => simp [EndpointsReady]
    | cons a rest ih =>
      have hnone := hrels a (List.mem_cons_self ..)
      have hrest : EndpointsReady known rest ↔ _ :=
        ih (fun b hb => hrels b (List.mem_cons_of_mem _ hb))
      simp only [EndpointsReady, hnone, reduceCtorEq, or_false, hrest, List.mem_cons,
        forall_eq_or_imp]
  | cons a rest ih =>
    have ha := hassets a (List.mem_cons_self ..)
    have hrest : EndpointsReady (fun k => known k ∨ a.resolves = some k) (rest ++ rels) ↔ _ :=
      ih (fun b hb => hassets b (List.mem_cons_of_mem _ hb))
    simp only [List.cons_append, EndpointsReady, hrest, List.mem_cons, exists_eq_or_imp, or_assoc]
    constructor
    · exact fun h => h.2
    · exact fun h => ⟨fun rel hr => absurd hr (ha rel), h⟩

/-- The executor's order makes the plan's own ids available to every relationship create. -/
theorem ordered_ready_iff (plan : SyncPlan) :
    EndpointsReady (· ∈ (seedRemoteIdsFromPlan plan).keys)
      (orderedMutatingActions (mutatingActions plan)) ↔ EndpointsResolvable plan := by
  have mem_assets : ∀ a, a ∈ sortBy assetRank (ofKind .create .asset (mutatingActions plan)) ++
      sortBy (fun a => a.localId.getD "") (ofKind .update .asset (mutatingActions plan)) ↔
      a ∈ plan.actions ∧ a.objectKind = .asset ∧
        (a.actionType = .create ∨ a.actionType = .update) := by
    intro a
    rw [List.mem_append, mem_sortBy, mem_sortBy, ofKind_mutating _ _ (.inl rfl),
      ofKind_mutating _ _ (.inr rfl), mem_ofKind, mem_ofKind]
    tauto
  have mem_rels : ∀ a,
      a ∈ sortBy (fun a => a.localId.getD "") (ofKind .create .relationship (mutatingActions plan)) ↔
      a ∈ plan.actions ∧ a.actionType = .create ∧ a.objectKind = .relationship := by
    intro a
    rw [mem_sortBy, ofKind_mutating _ _ (.inl rfl), mem_ofKind]
  have resolves_asset : ∀ a : SyncAction, ∀ k, a.resolves = some k →
      a.objectKind = .asset ∧ (a.actionType = .create ∨ a.actionType = .update) := by
    intro a k h
    unfold SyncAction.resolves at h
    cases hr : a.request with
    | none => simp [hr] at h
    | some r =>
      cases r with
      | createAsset asset => exact ⟨(request_createAsset.mp hr).2.1, .inl (request_createAsset.mp hr).1⟩
      | updateAsset remoteId asset pn pd =>
        exact ⟨(request_updateAsset hr).2.1, .inr (request_updateAsset hr).1⟩
      | createRelationship rel => simp [hr] at h
  unfold orderedMutatingActions
  rw [EndpointsReady.append]
  · have known : ∀ k, (k ∈ (seedRemoteIdsFromPlan plan).keys ∨
        ∃ b ∈ sortBy assetRank (ofKind .create .asset (mutatingActions plan)) ++
          sortBy (fun a => a.localId.getD "") (ofKind .update .asset (mutatingActions plan)),
          b.resolves = some k) ↔ Resolvable plan k := by
      intro k
      unfold Resolvable
      constructor
      · rintro (h | ⟨b, hb, hk⟩)
        · exact .inl h
        · exact .inr ⟨b, ((mem_assets b).mp hb).1, hk⟩
      · rintro (h | ⟨b, hb, hk⟩)
        · exact .inl h
        · exact .inr ⟨b, (mem_assets b).mpr ⟨hb, resolves_asset b k hk⟩, hk⟩
    simp only [known]
    unfold EndpointsResolvable
    constructor
    · intro h a ha rel hr
      obtain ⟨ht, hk, -⟩ := request_createRelationship.mp hr
      exact h a ((mem_rels a).mpr ⟨ha, ht, hk⟩) rel hr
    · intro h a ha rel hr
      exact h a ((mem_rels a).mp ha).1 rel hr
  · intro a ha rel hr
    have hk := ((mem_assets a).mp ha).2.1
    rw [(request_createRelationship.mp hr).2.1] at hk
    cases hk
  · intro a ha
    cases hk : a.resolves with
    | none => rfl
    | some k =>
      have hasset := (resolves_asset a k hk).1
      rw [((mem_rels a).mp ha).2.2] at hasset
      cases hasset

end Endpoints

section Main

lemma applySyncPlanMutations_eq {σ : Type} (adapter : CollibraAdapter σ) (plan : SyncPlan) (s : σ) :
    executeSyncPlan adapter plan true s =
      let r := runActions adapter (seedRemoteIdsFromPlan plan) 0
        (orderedMutatingActions (mutatingActions plan)) s
      (⟨r.1.failure.isNone, false, r.1.applied, plan.unchanged.length, r.1.failure.map Prod.fst,
        r.1.failure.map (fun f => f.2.render), plan⟩, r.2) := by
  unfold executeSyncPlan applySyncPlanMutations
  rcases runActions adapter (seedRemoteIdsFromPlan plan) 0
    (orderedMutatingActions (mutatingActions plan)) s with ⟨⟨applied, failure⟩, s'⟩
  cases failure <;> rfl

/-- Whatever the adapter answers, the log realises a prefix of the ordered mutations. -/
theorem execute_log {σ : Type} (adapter : CollibraAdapter σ) (plan : SyncPlan) (s : σ) :
    ∃ done rest log s' error,
      orderedMutatingActions (mutatingActions plan) = done ++ rest ∧
      List.Forall₂ Realizes done log ∧
      executeSyncPlan (recording adapter) plan true (s, []) =
        (⟨rest.head?.isNone, false, done.length, plan.unchanged.length, rest.head?, error, plan⟩,
          (s', log)) := by
  rw [applySyncPlanMutations_eq]
  rcases hrun : runActions (recording adapter) (seedRemoteIdsFromPlan plan) 0
    (orderedMutatingActions (mutatingActions plan)) (s, []) with ⟨outcome, s', log⟩
  obtain ⟨done, rest, performed, hsplit, hall, rfl, happlied, hfail⟩ :=
    runActions_log (fun a ha => (mem_orderedMutatingActions.mp ha).2) hrun
  refine ⟨done, rest, _, s', outcome.failure.map (fun f => f.2.render), hsplit, hall, ?_⟩
  have hsucc : outcome.failure.isNone = rest.head?.isNone := by
    rw [← hfail, Option.isNone_map]
  have hcount : outcome.applied = done.length := by omega
  simp only [hsucc, hcount, hfail]

/-- An apply performs every planned mutation once, on every adapter, exactly when the plan holds no
relationship update or holds a relationship create that no run can reach an endpoint of. -/
theorem applies_exactly_once_iff (plan : SyncPlan) :
    (∀ (σ : Type) (adapter : CollibraAdapter σ) (s : σ), AppliesExactlyOnce adapter plan s) ↔
      RelationshipUpdateFree plan ∨ ¬ EndpointsResolvable plan := by
  have hlength : plan.creates.length + plan.updates.length =
      (orderedMutatingActions (mutatingActions plan)).length +
        (ofKind .update .relationship plan.actions).length := by
    simpa using (creates_updates_perm plan).length_eq
  constructor
  · intro h
    by_contra hcon
    rw [not_or, not_not] at hcon
    obtain ⟨hfree, hready⟩ := hcon
    have hok : (runActions (recording agreeable) (seedRemoteIdsFromPlan plan) 0
        (orderedMutatingActions (mutatingActions plan)) ((), [])).1.failure = none :=
      runActions_obliging agreeable_obliging.recording ((ordered_ready_iff plan).mpr hready)
    obtain ⟨done, rest, log, s', error, hsplit, -, hexec⟩ := execute_log agreeable plan ()
    have hnone : rest.head? = none := by
      have hfail := congrArg (fun r => r.1.failedAction) hexec
      rw [applySyncPlanMutations_eq] at hfail
      simpa [hok] using hfail.symm
    have honce := h Unit agreeable ()
    unfold AppliesExactlyOnce at honce
    rw [hexec] at honce
    obtain ⟨hcount, -⟩ := honce.1 (by simp [hnone])
    rw [List.head?_eq_none_iff.mp hnone, List.append_nil] at hsplit
    rw [hlength, hsplit] at hcount
    have hzero : (ofKind .update .relationship plan.actions).length = 0 := by
      simp only at hcount
      omega
    exact hfree (ofKind_update_relationship_eq_nil.mp (List.length_eq_zero_iff.mp hzero))
  · intro hcond σ adapter s
    obtain ⟨done, rest, log, s', error, hsplit, hall, hexec⟩ := execute_log adapter plan s
    unfold AppliesExactlyOnce
    rw [hexec]
    refine ⟨fun hsucc => ?_, fun hfail => ?_⟩
    · have hnil : rest = [] := by simpa using hsucc
      subst hnil
      rw [List.append_nil] at hsplit
      rcases hcond with hfree | hstuck
      · have hdrop := ofKind_update_relationship_eq_nil.mpr hfree
        refine ⟨by rw [hlength, hdrop, hsplit]; rfl, done, ?_, hall⟩
        have hperm := creates_updates_perm plan
        rw [hdrop, List.append_nil, hsplit] at hperm
        exact hperm.symm
      · have hnone := congrArg (fun r => r.1.failedAction) hexec
        rw [applySyncPlanMutations_eq] at hnone
        simp only [List.head?_nil, Option.map_eq_none_iff] at hnone
        exact absurd ((ordered_ready_iff plan).mp (runActions_ready hnone)) hstuck
    · cases rest with
      | nil => simp at hfail
      | cons next rest => exact ⟨done, next, rest, hsplit, hall, rfl, rfl⟩

/-- A saved plan with one entry: update a relationship. -/
def relationshipUpdatePayload : Json :=
  .obj [("actions", .arr [.obj [
    ("action_type", .str "update"), ("object_kind", .str "relationship"),
    ("local_id", .str "rel:fk"), ("remote_id", .str "r-1"),
    ("desired_asset", .obj [("local_id", .str "tbl:a"), ("name", .str "a"),
      ("asset_type_ref", .str "t"), ("domain_ref", .str "d")]),
    ("desired_relationship", .obj [("local_key", .str "rel:fk"),
      ("source_local_id", .str "tbl:a"), ("target_local_id", .str "tbl:b"),
      ("relation_type_ref", .str "fk")])]])]

/-- The loader accepts that plan, and an adapter on which nothing fails is never called. -/
theorem relationship_update_lost :
    (SyncPlan.fromDict (fun _ => true) relationshipUpdatePayload).toOption.map
      (fun plan => (executeSyncPlan (recording agreeable) plan true ((), [])).1.success) =
        some true ∧
    ∀ plan, SyncPlan.fromDict (fun _ => true) relationshipUpdatePayload = .ok plan →
      ¬ AppliesExactlyOnce agreeable plan () := by
  refine ⟨by decide +kernel, ?_⟩
  intro plan hplan honce
  have hcounts : (SyncPlan.fromDict (fun _ => true) relationshipUpdatePayload).toOption.map
      (fun plan => (executeSyncPlan (recording agreeable) plan true ((), [])).1.success &&
        decide ((executeSyncPlan (recording agreeable) plan true ((), [])).1.appliedCount ≠
          plan.creates.length + plan.updates.length)) = some true := by decide +kernel
  obtain ⟨plan', hplan', hcounts⟩ := toOption_map_eq_some.mp hcounts
  obtain rfl := Except.ok.inj (hplan.symm.trans hplan')
  simp only [Bool.and_eq_true, decide_eq_true_eq] at hcounts
  exact hcounts.2 (honce.1 hcounts.1).1

end Main

end CollibraGovernance.Collibra
