import CollibraGovernance.Reconciliation.OverlaySpec
import Mathlib.Data.List.ReduceOption

/-! The gate over a plan's assumptions, and what it leaves to be written. -/
namespace CollibraGovernance.Reconciliation
open Library Identity Domain Collibra

structure DiagnosticError where
  code : String
  path : String
  message : String
  deriving DecidableEq

/-- `ReconciliationError`, or an exception of another kind. -/
inductive BoundaryFailure where
  | refused (errors : List DiagnosticError)
  | uncaught (exception : String)

def blockedCode : AssessmentReason → String
  | .unsupported => "unsupported_effective_value"
  | .invalid => "invalid_or_ambiguous_authority"
  | _ => "unresolved_property_conflict"

section Validate
variable (isPrintable : Char → Bool) (conflictReport : PropertyConflictReport)

/-- The error of a result that applies and is not safe. -/
def blockedError (actionIndex propIndex : Nat) (result : PropertyConflictResult) : Option DiagnosticError :=
  let assessment := assessReconciliation result none none
  if assessment.applicable && !assessment.safe then
    some ⟨blockedCode assessment.reason,
      "/actions/" ++ toString actionIndex ++ "/properties/" ++ toString propIndex,
      "reconciliation blocked: " ++ assessment.reason.text⟩
  else none

/-- The error of one property of the assumptions. -/
def propertyError (actionIndex : Nat) (entry : Json × Nat) : Except String (Option DiagnosticError) := do
  let members ← entry.1.asMapping "AttributeError: property must be a mapping"
  if Json.get members "decision" = .null then return none
  else
    let identity ← identityFromSavedObject isPrintable (← Json.item members "object")
    let pointer := (← Json.item members "property").pyStr isPrintable
    return ((resultLookup conflictReport).get? (identity.canonicalBytes, pointer)).bind
      (blockedError actionIndex entry.2)

def actionErrors (entry : Json × Nat) : Except String (List DiagnosticError) := do
  let members ← entry.1.asMapping "AttributeError: action must be a mapping"
  let properties ← itemsOf (Json.get members "properties")
  let errors ← properties.zipIdx.mapM (propertyError isPrintable conflictReport entry.2)
  return errors.reduceOption

def boundaryErrors (assumptions : Json) : Except String (List DiagnosticError) := do
  let members ← assumptions.asMapping "AttributeError: assumptions must be a mapping"
  let actions ← itemsOf (Json.get members "actions")
  let errors ← actions.zipIdx.mapM (actionErrors isPrintable conflictReport)
  return errors.flatten

def validateAssumptionsSafety (assumptions : Json) : Except BoundaryFailure Unit :=
  match boundaryErrors isPrintable conflictReport assumptions with
  | .error exception => .error (.uncaught exception)
  | .ok [] => .ok ()
  | .ok errors => .error (.refused errors)

end Validate

section Accepted
variable {isPrintable : Char → Bool} {report : PropertyConflictReport}

/-- The error of a property as it is written. -/
def AssumptionProperty.error (report : PropertyConflictReport) (actionIndex propIndex : Nat)
    (p : AssumptionProperty) : Option DiagnosticError :=
  if p.decision = none then none
  else (decisionOf report p.object p.property).bind (blockedError actionIndex propIndex)

lemma propertyError_toDict (actionIndex propIndex : Nat) (p : AssumptionProperty) :
    propertyError isPrintable report actionIndex (p.toDict, propIndex) =
      .ok (p.error report actionIndex propIndex) := by
  unfold propertyError AssumptionProperty.error
  cases hdecision : p.decision with
  | none =>
    simp only [AssumptionProperty.toDict, hdecision]
    rfl
  | some r =>
    have hobject : identityFromSavedObject isPrintable p.object.toDict = .ok p.object :=
      identityFromSavedObject_of isPrintable rfl
    simp only [AssumptionProperty.toDict, hdecision]
    change (identityFromSavedObject isPrintable p.object.toDict >>= fun identity => _) = _
    rw [hobject, ok_bind]
    change Except.ok (((resultLookup report).get? (p.object.canonicalBytes, p.property.toPointer)).bind _) = _
    rw [resultLookup_get?]
    rfl

lemma mapM_zipIdx_map {α β : Type} {doc : α → Json} {f : Json × Nat → Except String β} {g : α → Nat → β} {xs : List α}
    (h : ∀ x k, f (doc x, k) = .ok (g x k)) :
    (xs.map doc).zipIdx.mapM f = .ok (xs.zipIdx.map fun e => g e.1 e.2) := by
  rw [List.zipIdx_map, List.mapM_map]
  exact mapM_eq_map fun e _ => h e.1 e.2

/-- The errors of an action as it is written. -/
def AssumptionAction.errors (report : PropertyConflictReport) (actionIndex : Nat) (a : AssumptionAction) :
    List DiagnosticError :=
  (a.properties.zipIdx.map fun e => e.1.error report actionIndex e.2).reduceOption

lemma actionErrors_toDict (a : AssumptionAction) (actionIndex : Nat) :
    actionErrors isPrintable report (a.toDict, actionIndex) = .ok (a.errors report actionIndex) := by
  change (itemsOf (.arr (a.properties.map AssumptionProperty.toDict)) >>= fun properties => _) = _
  rw [itemsOf_arr, ok_bind]
  dsimp only
  rw [mapM_zipIdx_map fun p k => propertyError_toDict actionIndex k p]
  rfl

lemma boundaryErrors_dict (actions : List AssumptionAction) :
    boundaryErrors isPrintable report (assumptionsDict actions) =
      .ok (actions.zipIdx.map fun e => e.1.errors report e.2).flatten := by
  change (itemsOf (.arr (actions.map AssumptionAction.toDict)) >>= fun properties => _) = _
  rw [itemsOf_arr, ok_bind, mapM_zipIdx_map actionErrors_toDict]
  rfl

/-- The gate accepts the assumptions of a plan only if every decision they record that applies is safe. -/
theorem validate_safe {actions : List AssumptionAction}
    (h : validateAssumptionsSafety isPrintable report (assumptionsDict actions) = .ok ()) :
    ∀ a ∈ actions, ∀ p ∈ a.properties, p.decision ≠ none → ∀ r, decisionOf report p.object p.property = some r →
      (assessReconciliation r none none).applicable = true → (assessReconciliation r none none).safe = true := by
  intro a ha p hp hdecision r hr happlicable
  by_contra hunsafe
  rw [validateAssumptionsSafety, boundaryErrors_dict] at h
  obtain ⟨i, hi⟩ := List.mem_iff_getElem?.mp ha
  obtain ⟨j, hj⟩ := List.mem_iff_getElem?.mp hp
  have herror : p.error report i j = blockedError i j r := by
    rw [AssumptionProperty.error, if_neg hdecision, hr, Option.bind_some]
  have hblocked : ∃ e, blockedError i j r = some e := by
    rw [blockedError]
    simp [happlicable, hunsafe]
  obtain ⟨e, he⟩ := hblocked
  have haction : e ∈ a.errors report i := by
    rw [AssumptionAction.errors, List.reduceOption_mem_iff]
    exact List.mem_map.mpr ⟨(p, j), List.mem_zipIdx_iff_getElem?.mpr hj, herror.trans he⟩
  have hall : e ∈ (actions.zipIdx.map fun e => e.1.errors report e.2).flatten :=
    List.mem_flatten.mpr ⟨_, List.mem_map.mpr ⟨(a, i), List.mem_zipIdx_iff_getElem?.mpr hi, rfl⟩, haction⟩
  cases herrors : (actions.zipIdx.map fun e => e.1.errors report e.2).flatten with
  | nil => rw [herrors] at hall; cases hall
  | cons _ _ => rw [herrors] at h; cases h

end Accepted
end CollibraGovernance.Reconciliation
