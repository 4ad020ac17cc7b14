import CollibraGovernance.Drift.Policy
import CollibraGovernance.Comparison.Result

/-! Classifying the differences of a comparison against a drift policy. -/
namespace CollibraGovernance.Drift
open Library Identity Comparison

inductive DriftClassification where
  | expectedDifference | unexpectedDrift
  deriving DecidableEq

def DriftClassification.text : DriftClassification → String
  | expectedDifference => "expected_difference"
  | unexpectedDrift => "unexpected_drift"

/-- `CLASSIFICATION_RANK` -/
def DriftClassification.rank : DriftClassification → Nat
  | unexpectedDrift => 0
  | expectedDifference => 1

inductive DriftReason where
  | matchedPolicyRule | unmatchedDifference | expectationMismatch
  deriving DecidableEq

def DriftReason.text : DriftReason → String
  | matchedPolicyRule => "matched_policy_rule"
  | unmatchedDifference => "unmatched_difference"
  | expectationMismatch => "expectation_mismatch"

inductive DriftStatus where
  | noDifference | expectedDifference | unexpectedDrift
  deriving DecidableEq

def DriftStatus.text : DriftStatus → String
  | noDifference => "no_difference"
  | expectedDifference => "expected_difference"
  | unexpectedDrift => "unexpected_drift"

/-- A difference with its classification; property differences tell the property and its sides. -/
structure ClassifiedChange where
  change : ChangeKind
  classification : DriftClassification
  matchedRuleIds : List String
  objectIdentity : ComparisonObjectIdentity
  parentIdentity : Option ComparisonObjectIdentity
  reason : DriftReason
  observed : Option PropertyChange
  deriving DecidableEq

def ClassifiedChange.property (c : ClassifiedChange) : String := (c.observed.map PropertyChange.property).getD ""

section Classify
variable (index : PolicyIndex)

/-- `index.get(selector_key)` -/
def rulesFor (key : SelectorKey) : List NormalizedDriftRule := ((index.get? key).map Group.members).getD []

/-- `sorted(rule.id for rule in rules)` -/
def sortedIds (rules : List NormalizedDriftRule) : List String := sortBy id (rules.map NormalizedDriftRule.id)

/-- `_classify_object_change` -/
def classifyObjectChange (o : ObjectChange) : Checked ClassifiedChange :=
  let rules := rulesFor index (o.change, o.objectIdentity.canonicalBytes, none)
  if rules = [] then
    .ok ⟨o.change, .unexpectedDrift, [], o.objectIdentity, o.parentIdentity, .unmatchedDifference, none⟩
  else do
    let projection ← expectationProjectionForRules rules
    if projection = presenceOnly then
      return ⟨o.change, .expectedDifference, sortedIds rules, o.objectIdentity, o.parentIdentity,
        .matchedPolicyRule, none⟩
    else .error [⟨"AssertionError", "", ""⟩]

/-- `_expectations_satisfied` -/
def expectationsSatisfied (expected : Option Expected) (baseline candidate : ComparablePropertyValue) : Bool :=
  match expected with
  | none => true
  | some e =>
    if e.baseline.any (fun v => !propertyValuesEqual v baseline) then false
    else e.candidate.all (fun v => propertyValuesEqual v candidate)

/-- `_classify_property_change` -/
def classifyPropertyChange (o : ObjectChange) (c : PropertyChange) : Checked ClassifiedChange :=
  match rulesFor index (.changed, o.objectIdentity.canonicalBytes, some c.property) with
  | [] => .ok ⟨.changed, .unexpectedDrift, [], o.objectIdentity, o.parentIdentity, .unmatchedDifference, some c⟩
  | first :: rest => do
    let projection ← expectationProjectionForRules (first :: rest)
    let ruleIds := sortedIds (first :: rest)
    if projection = presenceOnly ∨ expectationsSatisfied first.expected c.baseline c.candidate then
      return ⟨.changed, .expectedDifference, ruleIds, o.objectIdentity, o.parentIdentity, .matchedPolicyRule,
        some c⟩
    else return ⟨.changed, .unexpectedDrift, ruleIds, o.objectIdentity, o.parentIdentity, .expectationMismatch,
      some c⟩

def classifyChange (o : ObjectChange) : Checked (List ClassifiedChange) :=
  match o.change with
  | .changed => o.propertyChanges.mapM (classifyPropertyChange index o)
  | _ => do return [← classifyObjectChange index o]

end Classify

/-- `_classified_sort_key` -/
def classifiedSortKey (c : ClassifiedChange) : Nat ×ₗ String ×ₗ Nat ×ₗ String ×ₗ String :=
  toLex (c.classification.rank, toLex (c.objectIdentity.canonicalBytes, toLex (c.change.rank,
    toLex (c.property, c.reason.text))))

def classifyDrift (changes : List ObjectChange) (policy : NormalizedDriftPolicy) :
    Checked (List ClassifiedChange) := do
  let classified ← changes.mapM (classifyChange (buildPolicyIndex policy))
  return sortBy classifiedSortKey classified.flatten

def deriveStatus (classified : List ClassifiedChange) : DriftStatus :=
  if classified = [] then .noDifference
  else if classified.any (fun c => c.classification = .unexpectedDrift) then .unexpectedDrift
  else .expectedDifference

structure DriftSummary where
  affectedObjects : Nat
  expectedDifferences : Nat
  propertyDrift : Nat
  unexpectedDrift : Nat
  deriving DecidableEq

/-- `_build_summary` -/
def buildSummary (classified : List ClassifiedChange) : DriftSummary where
  affectedObjects := (distinct (classified.map (fun c => c.objectIdentity.canonicalBytes))).length
  expectedDifferences := classified.countP (fun c => c.classification = .expectedDifference)
  propertyDrift := classified.countP (fun c => c.classification = .unexpectedDrift ∧ c.change = .changed)
  unexpectedDrift := classified.countP (fun c => c.classification = .unexpectedDrift)

/-- What drift reads of a comparison; it is identical when nothing changed. -/
structure ObservedComparison where
  contentIdentity : ContentIdentity
  objectChanges : List ObjectChange
  status : String
  agrees : status = "identical" ↔ objectChanges = []

structure DriftResult where
  classifiedChanges : List ClassifiedChange
  comparisonContentIdentity : ContentIdentity
  driftPolicyIdentity : Option ContentIdentity
  status : DriftStatus
  summary : DriftSummary
  deriving DecidableEq

/-- `_assert_status_invariants` -/
def assertStatusInvariants (status : DriftStatus) (classified : List ClassifiedChange)
    (summary : DriftSummary) : Checked Unit :=
  if summary.expectedDifferences + summary.unexpectedDrift ≠ classified.length then
    .error [⟨"ValueError", "", "summary counts do not match classified_changes length"⟩]
  else if status = .expectedDifference ∧ (classified = [] ∨ summary.unexpectedDrift ≠ 0) then
    .error [⟨"ValueError", "", "expected_difference requires classified changes without unexpected drift"⟩]
  else if status = .unexpectedDrift ∧ summary.unexpectedDrift = 0 then
    .error [⟨"ValueError", "", "unexpected_drift requires unexpected summary count"⟩]
  else .ok ()

def buildDriftResult (sha256 : String → String) (comparison : ObservedComparison)
    (policy : Option NormalizedDriftPolicy) : Checked DriftResult :=
  let policyIdentity := policy.map (fun p => driftPolicyIdentity sha256 p.toIdentityDict)
  if comparison.status = "identical" then
    .ok ⟨[], comparison.contentIdentity, policyIdentity, .noDifference, ⟨0, 0, 0, 0⟩⟩
  else
    match policy with
    | none => .error [⟨codeMissingDriftPolicy, "/policy",
        "drift policy is required when comparison has differences"⟩]
    | some p => do
      let classified ← classifyDrift comparison.objectChanges p
      let status := deriveStatus classified
      let summary := buildSummary classified
      assertStatusInvariants status classified summary
      return ⟨classified, comparison.contentIdentity, policyIdentity, status, summary⟩

end CollibraGovernance.Drift
