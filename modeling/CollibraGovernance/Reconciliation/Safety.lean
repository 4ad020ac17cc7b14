import CollibraGovernance.Domain.Conflicts

/-! Whether a conflict result may feed a target field, and the value it feeds. -/
namespace CollibraGovernance.Reconciliation
open Library Identity Domain

inductive TargetField where
  | displayName | description | dataType | owner
  deriving DecidableEq

/-- Typed target value after conversion; none clears the field. -/
structure RepresentableTargetValue where
  field : TargetField
  value : Option String
  deriving DecidableEq

def isOwnershipApplicable (kind : String) : Bool :=
  [nodeKindDataSource, nodeKindDataset, nodeKindTable].contains kind

def isDataTypeApplicable (kind : String) : Bool := kind = nodeKindColumn

def targetFieldForPath (path : PropertyPath) : Option TargetField :=
  if path.toPointer = "/name" then some .displayName
  else if path.toPointer = "/description" then some .description
  else if path.toPointer = "/attributes/data_type" then some .dataType
  else if path.toPointer = "/attributes/ownership" then some .owner
  else none

def pathApplicableToIdentity (path : PropertyPath) (identity : GraphNodeIdentity) : Bool :=
  match targetFieldForPath path with
  | none => false
  | some .dataType => isDataTypeApplicable identity.kind.val
  | some .owner => isOwnershipApplicable identity.kind.val
  | some _ => true

/-- A text or null, for the given field; blank texts may be excluded. -/
def convertText (field : TargetField) (blankAllowed : Bool) : Json → Option RepresentableTargetValue
  | .null => some ⟨field, none⟩
  | .str s => if blankAllowed || strip s ≠ "" then some ⟨field, some s⟩ else none
  | _ => none

/-- The name of the only owner. -/
def convertOwner : Json → Option RepresentableTargetValue
  | .null => some ⟨.owner, none⟩
  | .arr [.obj owner] =>
    match Json.get owner "name", Json.get owner "type" with
    | .str name, .str _ => if strip name ≠ "" then some ⟨.owner, some name⟩ else none
    | _, _ => none
  | _ => none

def convertEffectiveValue (path : PropertyPath) (identity : GraphNodeIdentity)
    (value : Option CanonicalValue) : Option RepresentableTargetValue :=
  if pathApplicableToIdentity path identity then
    match targetFieldForPath path, value with
    | some .displayName, some v => convertText .displayName false v.val
    | some .description, some v => convertText .description true v.val
    | some .dataType, some v => convertText .dataType false v.val
    | some .owner, some v => convertOwner v.val
    | _, _ => none
  else none

inductive AssessmentReason where
  | safe | unresolved | invalid | unsupported | notMapped
  deriving DecidableEq

def AssessmentReason.text : AssessmentReason → String
  | safe => "safe"
  | unresolved => "unresolved_conflict"
  | invalid => "invalid_or_ambiguous_authority"
  | unsupported => "unsupported_effective_value"
  | notMapped => "not_reconciliation_mapped"

structure ReconciliationAssessment where
  applicable : Bool
  safe : Bool
  reason : AssessmentReason
  deriving DecidableEq

/-- `assess_reconciliation`; identity and path default to those of the result. -/
def assessReconciliation (result : PropertyConflictResult) (identity : Option GraphNodeIdentity)
    (propertyPath : Option PropertyPath) : ReconciliationAssessment :=
  let objectIdentity := identity.getD result.objectIdentity
  let path := propertyPath.getD result.propertyPath
  if targetFieldForPath path = none ∨ pathApplicableToIdentity path objectIdentity = false then
    ⟨false, false, .notMapped⟩
  else
    match result.state with
    | .unresolvedConflict => ⟨true, false, .unresolved⟩
    | .invalidOrAmbiguousAuthority => ⟨true, false, .invalid⟩
    | _ =>
      match convertEffectiveValue path objectIdentity result.effectiveValue with
      | none => ⟨true, false, .unsupported⟩
      | some _ => ⟨true, true, .safe⟩

/-- What is safe applies, and the value it feeds exists. -/
theorem assessReconciliation_safe {result : PropertyConflictResult}
    (h : (assessReconciliation result none none).safe = true) :
    (assessReconciliation result none none).applicable = true ∧
      (convertEffectiveValue result.propertyPath result.objectIdentity result.effectiveValue).isSome = true := by
  unfold assessReconciliation at h ⊢
  simp only [Option.getD_none] at h ⊢
  split_ifs at h ⊢ with hmapped
  cases hstate : result.state <;> rw [hstate] at h
  case unresolvedConflict => cases h
  case invalidOrAmbiguousAuthority => cases h
  all_goals
    cases hvalue : convertEffectiveValue result.propertyPath result.objectIdentity result.effectiveValue with
    | none =>
      rw [hvalue] at h
      cases h
    | some _ => exact ⟨rfl, rfl⟩

end CollibraGovernance.Reconciliation
