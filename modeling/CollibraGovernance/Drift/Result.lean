import CollibraGovernance.Comparison.LoadSpec
import CollibraGovernance.Drift.ClassifySpec

/-! The document of a drift result, and the comparison it is about. -/
namespace CollibraGovernance.Drift
open Library Identity Comparison Snapshots

def driftSchema : String := "governance-drift-result"
def driftVersion : String := "1"

def ClassifiedChange.toDict (c : ClassifiedChange) : Json :=
  .obj ((match c.observed with
      | none => []
      | some p => [("baseline", p.baseline.toDict), ("candidate", p.candidate.toDict),
          ("property", .str p.property)]) ++
    [("change", .str c.change.text), ("object_identity", c.objectIdentity.toDict),
      ("parent_identity", (c.parentIdentity.map ComparisonObjectIdentity.toDict).getD .null),
      ("classification", .str c.classification.text), ("matched_rule_ids", .arr (c.matchedRuleIds.map .str)),
      ("reason", .str c.reason.text)])

def DriftSummary.toDict (s : DriftSummary) : Json :=
  .obj [("affected_objects", .int s.affectedObjects), ("expected_differences", .int s.expectedDifferences),
    ("property_drift", .int s.propertyDrift), ("unexpected_drift", .int s.unexpectedDrift)]

def DriftResult.dictWithoutIdentity (d : DriftResult) : List (String × Json) :=
  [("classified_changes", .arr (d.classifiedChanges.map ClassifiedChange.toDict)),
    ("comparison_content_identity", d.comparisonContentIdentity.toDict),
    ("drift_policy_identity", (d.driftPolicyIdentity.map ContentIdentity.toDict).getD .null),
    ("drift_schema", .str driftSchema), ("drift_version", .str driftVersion), ("status", .str d.status.text),
    ("summary", d.summary.toDict), ("writes_performed", .int 0)]

/-- The members of the document of a drift result. -/
def DriftResult.members (sha256 : String → String) (d : DriftResult) : List (String × Json) :=
  d.dictWithoutIdentity ++
    [("content_identity", (driftResultIdentity sha256 (.obj d.dictWithoutIdentity)).toDict)]

section Observed
variable {sha256 : String → String} {isPrintable : Char → Bool} {a b : GovernanceSnapshot}
  {ack : RootAlignmentAck} {r : ComparisonResult}

lemma identical_iff (hr : ProperResult sha256 r) : r.status = "identical" ↔ r.objectChanges = [] := by
  rw [hr.status, statusOf_eq_identical, objectChanges_eq_nil hr]

/-- What drift reads of a comparison that was built. -/
def observedComparison (h : buildComparisonResult sha256 isPrintable a b ack = .ok r) : ObservedComparison where
  contentIdentity := snapshotComparisonIdentity sha256 (.obj r.dictWithoutIdentity)
  objectChanges := r.objectChanges
  status := r.status
  agrees := identical_iff (properResult_of_ok h)

end Observed

section Facts
variable {sha256 : String → String} {comparison : ObservedComparison} {policy : Option NormalizedDriftPolicy}
  {d : DriftResult}

/-- The counts of a drift result are those its status calls for. -/
structure StatusAgrees (d : DriftResult) : Prop where
  none : d.status = .noDifference → d.summary = ⟨0, 0, 0, 0⟩
  expected : d.status = .expectedDifference → 0 < d.summary.expectedDifferences ∧ d.summary.unexpectedDrift = 0
  unexpected : d.status = .unexpectedDrift → 0 < d.summary.unexpectedDrift
  policy : d.status ≠ .noDifference → d.driftPolicyIdentity ≠ .none

lemma statusAgrees_derived {classified : List ClassifiedChange} {compared : ContentIdentity}
    {policyIdentity : ContentIdentity} :
    StatusAgrees ⟨classified, compared, some policyIdentity, deriveStatus classified, buildSummary classified⟩ := by
  have hcount := countP_classification classified
  constructor
  · intro hstatus
    rw [deriveStatus_eq_none.mp hstatus]
    rfl
  · intro hstatus
    have hne : classified ≠ [] := by
      intro hnil
      rw [deriveStatus_eq_none.mpr hnil] at hstatus
      cases hstatus
    have hnone : classified.countP (fun c => c.classification = .unexpectedDrift) = 0 := by
      rw [List.countP_eq_zero]
      intro c hc hunexpected
      rw [deriveStatus_eq_unexpected.mpr ⟨c, hc, of_decide_eq_true hunexpected⟩] at hstatus
      cases hstatus
    have hlength := List.length_pos_iff.mpr hne
    refine ⟨?_, hnone⟩
    show 0 < classified.countP (fun c => c.classification = .expectedDifference)
    omega
  · intro hstatus
    obtain ⟨c, hc, hunexpected⟩ := deriveStatus_eq_unexpected.mp hstatus
    exact List.countP_pos_iff.mpr ⟨c, hc, decide_eq_true hunexpected⟩
  · intro _ hnone
    cases hnone

/-- Every drift result that is built has a status that fits its counts. -/
theorem statusAgrees_of_ok (h : buildDriftResult sha256 comparison policy = .ok d) : StatusAgrees d := by
  unfold buildDriftResult at h
  split_ifs at h with hidentical
  · cases h
    constructor <;> intro hstatus
    · rfl
    · cases hstatus
    · cases hstatus
    · exact absurd rfl hstatus
  · cases policy with
    | none => cases h
    | some p =>
      obtain ⟨classified, -, h⟩ := bind_eq_ok.mp h
      obtain ⟨-, -, h⟩ := bind_eq_ok.mp h
      cases h
      exact statusAgrees_derived

end Facts
end CollibraGovernance.Drift
