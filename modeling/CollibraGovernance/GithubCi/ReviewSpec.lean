import CollibraGovernance.Comparison.RoundTrip
import CollibraGovernance.Domain.ConflictSpec
import CollibraGovernance.Drift.Result
import CollibraGovernance.GithubCi.Review
import CollibraGovernance.Observations.RoundTrip

/-! What is built for review passes its own validation. -/
namespace CollibraGovernance.GithubCi
open Library Identity Domain Comparison Observations Reconciliation Drift Snapshots

section Schema
variable {sha256 : String → String}

lemma optionalSchema_of {schema : Json → Bool} {j : Json} (h : schema j = true) (hne : j ≠ .null) :
    optionalSchema schema j = true := by
  rw [optionalSchema, JsonSchema.oneOf_pair]
  exact Or.inr ⟨decide_eq_false hne, h⟩

lemma optionalIdentity_of (hdigest : HexDigest sha256) {c : ContentIdentity} (halgorithm : c.algorithm = algorithmName)
    (hversion : c.hashingContractVersion = hashingContractVersion) (htext : ∃ hashed, c.digest = sha256 hashed) :
    optionalSchema contentIdentitySchema c.toDict = true :=
  optionalSchema_of (contentIdentitySchema_of hdigest halgorithm hversion htext) (by simp [ContentIdentity.toDict])

lemma valueGroupSchema_toDict (o : PropertyObservation) : valueGroupSchema o.toValueGroupDict = true := by
  simp [valueGroupSchema, PropertyObservation.toValueGroupDict, JsonSchema.object, Json.lookup,
    provenanceSchema_of o.observed, JsonSchema.jsonValue_eq_true]

/-- The schema accepts a result exactly when it admits the kinds of its object. -/
lemma conflictResultSchema_toDict (r : PropertyConflictResult) :
    conflictResultSchema r.toIdentityDict = admitted r.objectIdentity := by
  have hobject := graphNodeIdentitySchema_toDict r.objectIdentity
  have hgroups : JsonSchema.array valueGroupSchema
      (.arr (r.valueGroups.map PropertyObservation.toValueGroupDict)) = true := by
    refine JsonSchema.array_iff.mpr ⟨_, rfl, ?_⟩
    intro j hj
    obtain ⟨o, -, rfl⟩ := List.mem_map.mp hj
    exact valueGroupSchema_toDict o
  have hreason : JsonSchema.texts ["SINGLE_OBSERVATION", "AGREEMENT", "RESOLVED_BY_AUTHORITY", "NO_AUTHORITY_RULE",
      "AUTHORITATIVE_SOURCE_NOT_OBSERVED", "AUTHORITATIVE_SOURCE_CONFLICTED", "INVALID_OR_AMBIGUOUS_AUTHORITY"]
        (.str r.reason.value) = true := by
    cases r.reason <;> decide
  have hstate : JsonSchema.texts ["SINGLE_OBSERVATION", "AGREEMENT", "RESOLVED_BY_AUTHORITY", "UNRESOLVED_CONFLICT",
      "INVALID_OR_AMBIGUOUS_AUTHORITY"] (.str r.state.value) = true := by
    cases r.state <;> decide
  have hpointer := text_of_ne (toPointer_ne r.propertyPath)
  cases heffective : r.effectiveValue <;> cases hwinning : r.winningRuleKey <;>
    simp [conflictResultSchema, PropertyConflictResult.toIdentityDict, heffective, hwinning, JsonSchema.object,
      Json.lookup, hobject, hgroups, hreason, hstate, hpointer, JsonSchema.jsonValue_eq_true,
      winningRuleKeySchema_toDict]

lemma reconciliationAssessmentSchema_of {r : PropertyConflictResult} (h : admitted r.objectIdentity = true)
    (a : ReconciliationAssessment) : reconciliationAssessmentSchema (assessmentEntry r a) = true := by
  have hobject := (graphNodeIdentitySchema_toDict r.objectIdentity).trans h
  have hreason : JsonSchema.texts ["safe", "unresolved_conflict", "invalid_or_ambiguous_authority",
      "unsupported_effective_value", "not_reconciliation_mapped"] (.str a.reason.text) = true := by
    cases a.reason <;> decide
  simp [reconciliationAssessmentSchema, assessmentEntry, JsonSchema.object, JsonSchema.boolean, Json.lookup, hobject,
    hreason, text_of_ne (toPointer_ne r.propertyPath)]

lemma conflictSummarySchema_of (states : List ConflictState) (reconciled : List Reconciled) :
    conflictSummarySchema (.obj (conflictSummary states reconciled)) = true := by
  simp [conflictSummarySchema, conflictSummary, allStates, stateSummaryKey, Reconciled.summaryKey, JsonSchema.object,
    JsonSchema.integer, Json.lookup]

lemma deriveConflictStatus_active (states : List ConflictState) (reconciled : List Reconciled) :
    deriveConflictStatus states reconciled ∈ ["clear", "findings", "blocked"] := by
  unfold deriveConflictStatus
  split_ifs <;> simp

end Schema

/-- A conflicts lane the validator has nothing against. -/
structure ConflictsAccepted (sha256 : String → String) (conflicts : List (String × Json)) : Prop where
  schema : conflictsBlockSchema (.obj conflicts) = true
  invariants : (if Json.get conflicts "status" = .str "not_run" then assertIdleConflicts conflicts
    else assertActiveConflicts sha256 conflicts) = .ok ()

/-- A drift lane the validator has nothing against. -/
structure DriftAccepted (drift : List (String × Json)) : Prop where
  schema : driftBlockSchema (.obj drift) = true
  invariants : (if Json.get drift "status" = .str "not_run" then assertIdleDrift drift
    else assertActiveDrift drift) = .ok ()

lemma emptyConflicts_accepted (sha256 : String → String) : ConflictsAccepted sha256 emptyConflictsBlock :=
  ⟨by decide, by rw [if_pos (by decide)]; rfl⟩

lemma emptyDrift_accepted : DriftAccepted emptyDriftBlock := ⟨by decide, by rw [if_pos (by decide)]; rfl⟩

section Conflicts
variable {sha256 : String → String}

lemma conflictStateOf_value (state : ConflictState) : conflictStateOf (.str state.value) = some state := by
  cases state <;> decide

lemma get_result (r : PropertyConflictResult) : ∃ members, r.toIdentityDict = .obj members ∧
    Json.get members "object" = r.objectIdentity.toDict ∧
    Json.get members "property" = .str r.propertyPath.toPointer ∧ Json.get members "state" = .str r.state.value :=
  ⟨_, rfl, by simp [Json.get, Json.lookup], by simp [Json.get, Json.lookup], by simp [Json.get, Json.lookup]⟩

lemma get_assessment (r : PropertyConflictResult) (a : ReconciliationAssessment) :
    ∃ members, assessmentEntry r a = .obj members ∧ Json.get members "object" = r.objectIdentity.toDict ∧
      Json.get members "property" = .str r.propertyPath.toPointer ∧
      Json.get members "applicable" = .bool a.applicable ∧ Json.get members "safe" = .bool a.safe :=
  ⟨_, rfl, by simp [Json.get], by simp [Json.get, Json.lookup], by simp [Json.get, Json.lookup],
    by simp [Json.get, Json.lookup]⟩

lemma ensure_of {holds : Bool} (h : holds = true) (path message : String) : ensure holds path message = .ok () :=
  if_pos h

/-- An entry of the lane is counted under the state of its result and the outcome of its assessment. -/
lemma checkAssessment_ok (r : PropertyConflictResult) (a : ReconciliationAssessment) (index : Nat) :
    checkAssessment index r.toIdentityDict (assessmentEntry r a) = .ok (r.state, reconciledAs a) := by
  obtain ⟨members, hmembers, hobject, hproperty, hstate⟩ := get_result r
  obtain ⟨assessed, hassessed, hobject', hproperty', happlicable, hsafe⟩ := get_assessment r a
  rw [hmembers, hassessed, checkAssessment]
  simp only [hobject, hproperty, hstate, hobject', hproperty', happlicable, hsafe, Json.pyEquals_self, ensure_of,
    ok_bind, conflictStateOf_value, Json.truthy]
  rfl

lemma count_reconciled (reconciled : List Reconciled) :
    reconciled.count .safe + reconciled.count .blocked + reconciled.count .notApplicable = reconciled.length := by
  induction reconciled with
  | nil => rfl
  | cons k rest ih =>
    rw [List.length_cons, ← ih]
    cases k <;> simp <;> omega

lemma countIs_state (states : List ConflictState) (reconciled : List Reconciled) (s : ConflictState) :
    countIs (conflictSummary states reconciled) (stateSummaryKey s) (states.count s) = true := by
  cases s <;> simp [countIs, conflictSummary, allStates, stateSummaryKey, Json.lookup]

lemma countIs_reconciled (states : List ConflictState) (reconciled : List Reconciled) (k : Reconciled) :
    countIs (conflictSummary states reconciled) k.summaryKey (reconciled.count k) = true := by
  cases k <;> simp [countIs, conflictSummary, allStates, stateSummaryKey, Reconciled.summaryKey, Json.lookup]

/-- The summary counts what it is built from. -/
theorem checkConflictCounts_ok {states : List ConflictState} {reconciled : List Reconciled}
    (h : states.length = reconciled.length) :
    checkConflictCounts (conflictSummary states reconciled) states reconciled = .ok () := by
  rw [checkConflictCounts, forM_eq_ok.mpr (fun s _ => ensure_of (countIs_state states reconciled s) _ _), ok_bind,
    forM_eq_ok.mpr (fun k _ => ensure_of (countIs_reconciled states reconciled k) _ _), ok_bind]
  exact ensure_of (decide_eq_true (h ▸ count_reconciled reconciled)) _ _

variable {report : PropertyConflictReport} {assess : PropertyConflictResult → ReconciliationAssessment}
  {observationsIdentity authorityIdentity : Json}

/-- The lane of a report whose results are each assessed. -/
def conflictsBlockOf (sha256 : String → String) (report : PropertyConflictReport)
    (assess : PropertyConflictResult → ReconciliationAssessment) (observationsIdentity authorityIdentity : Json) :
    List (String × Json) :=
  [("status", .str (deriveConflictStatus (report.results.map PropertyConflictResult.state)
      (report.results.map (fun r => reconciledAs (assess r))))),
    ("observations_content_identity", observationsIdentity), ("authority_content_identity", authorityIdentity),
    ("conflict_report_content_identity", (report.contentIdentity sha256).toDict),
    ("summary", .obj (conflictSummary (report.results.map PropertyConflictResult.state)
      (report.results.map (fun r => reconciledAs (assess r))))),
    ("conflict_report", report.toIdentityDict),
    ("reconciliation_assessments", .arr (report.results.map (fun r => assessmentEntry r (assess r))))]

lemma buildConflictsBlock_eq : buildConflictsBlock sha256 report (report.results.map assess) observationsIdentity
    authorityIdentity = .ok (conflictsBlockOf sha256 report assess observationsIdentity authorityIdentity) := by
  have hzip : report.results.zip (report.results.map assess) = report.results.map (fun r => (r, assess r)) := by
    rw [← List.zip_map', List.map_id']
  rw [buildConflictsBlock, if_neg (by simp), hzip, List.map_map, List.map_map]
  rfl

lemma conflictsBlockSchema_of (hdigest : HexDigest sha256)
    (hobservations : optionalSchema contentIdentitySchema observationsIdentity = true)
    (hauthority : optionalSchema contentIdentitySchema authorityIdentity = true)
    (hkinds : ∀ r ∈ report.results, admitted r.objectIdentity = true) :
    conflictsBlockSchema (.obj (conflictsBlockOf sha256 report assess observationsIdentity authorityIdentity)) =
      true := by
  have hidentity : optionalSchema contentIdentitySchema (report.contentIdentity sha256).toDict = true :=
    optionalIdentity_of hdigest rfl rfl ⟨_, rfl⟩
  have hresults : JsonSchema.array conflictResultSchema
      (.arr (report.results.map PropertyConflictResult.toIdentityDict)) = true := by
    refine JsonSchema.array_iff.mpr ⟨_, rfl, ?_⟩
    intro j hj
    obtain ⟨r, hr, rfl⟩ := List.mem_map.mp hj
    exact (conflictResultSchema_toDict r).trans (hkinds r hr)
  have hreport : optionalSchema conflictReportSchema report.toIdentityDict = true := by
    refine optionalSchema_of ?_ (by simp [PropertyConflictReport.toIdentityDict])
    simp [conflictReportSchema, PropertyConflictReport.toIdentityDict, JsonSchema.object, JsonSchema.texts,
      Json.lookup, hresults]
  have hassessments : JsonSchema.array reconciliationAssessmentSchema
      (.arr (report.results.map (fun r => assessmentEntry r (assess r)))) = true := by
    refine JsonSchema.array_iff.mpr ⟨_, rfl, ?_⟩
    intro j hj
    obtain ⟨r, hr, rfl⟩ := List.mem_map.mp hj
    exact reconciliationAssessmentSchema_of (hkinds r hr) _
  have hsummary := conflictSummarySchema_of (report.results.map PropertyConflictResult.state)
    (report.results.map (fun r => reconciledAs (assess r)))
  have hstatus := deriveConflictStatus_active (report.results.map PropertyConflictResult.state)
    (report.results.map (fun r => reconciledAs (assess r)))
  simp only [List.mem_cons, List.not_mem_nil, or_false] at hstatus
  simp [conflictsBlockSchema, conflictsBlockOf, JsonSchema.object, JsonSchema.texts, Json.lookup, hobservations,
    hauthority, hidentity, hreport, hassessments, hsummary, hstatus]

/-- The report as the validator reads it. -/
lemma get_report (report : PropertyConflictReport) : ∃ members,
    report.toIdentityDict = .obj members ∧
    Json.get members "conflict_schema" = .str "governance-property-conflicts" ∧
    Json.get members "conflict_version" = .str "1" ∧
    Json.get members "results" = .arr (report.results.map PropertyConflictResult.toIdentityDict) :=
  ⟨_, rfl, by simp [Json.get], by simp [Json.get, Json.lookup], by simp [Json.get, Json.lookup]⟩

/-- The validator counts the entries as the builder did. -/
theorem assertActiveConflicts_ok (hobservations : isMapping observationsIdentity = true)
    (hauthority : isMapping authorityIdentity = true) : assertActiveConflicts sha256
      (conflictsBlockOf sha256 report assess observationsIdentity authorityIdentity) = .ok () := by
  set states := report.results.map PropertyConflictResult.state with hstates
  set reconciled := report.results.map (fun r => reconciledAs (assess r)) with hreconciled
  set block := conflictsBlockOf sha256 report assess observationsIdentity authorityIdentity with hblock
  obtain ⟨members, hmembers, hschema, hversion, hresults⟩ := get_report report
  have hreport : Json.get block "conflict_report" = .obj members := hmembers ▸ by
    simp [hblock, conflictsBlockOf, Json.get, Json.lookup]
  have hassessments : Json.get block "reconciliation_assessments" =
      .arr (report.results.map (fun r => assessmentEntry r (assess r))) := by
    simp [hblock, conflictsBlockOf, Json.get, Json.lookup]
  have hsummary : Json.get block "summary" = .obj (conflictSummary states reconciled) := by
    simp [hblock, conflictsBlockOf, Json.get, Json.lookup, hstates, hreconciled]
  have hstatus : Json.get block "status" = .str (deriveConflictStatus states reconciled) := by
    simp [hblock, conflictsBlockOf, Json.get, hstates, hreconciled]
  have hidentity : Json.get block "conflict_report_content_identity" =
      (propertyConflictReportIdentity sha256 (.obj members)).toDict := hmembers ▸ by
    simp [hblock, conflictsBlockOf, Json.get, Json.lookup, PropertyConflictReport.contentIdentity]
  have hpresent : ["observations_content_identity", "authority_content_identity",
      "conflict_report_content_identity"].forM (requireIdentity block "conflicts") = .ok () := by
    refine forM_eq_ok.mpr ?_
    simp only [List.mem_cons, List.not_mem_nil, or_false, forall_eq_or_imp, forall_eq]
    refine ⟨ensure_of ?_ _ _, ensure_of ?_ _ _, ensure_of ?_ _ _⟩
    · simpa [hblock, conflictsBlockOf, Json.get, Json.lookup] using hobservations
    · simpa [hblock, conflictsBlockOf, Json.get, Json.lookup] using hauthority
    · rw [hidentity]
      rfl
  have hcounted : ((report.results.map PropertyConflictResult.toIdentityDict).zip
      (report.results.map (fun r => assessmentEntry r (assess r)))).zipIdx.mapM
        (fun e => checkAssessment e.2 e.1.1 e.1.2) =
      .ok (report.results.map (fun r => (r.state, reconciledAs (assess r)))) := by
    rw [List.zip_map', List.zipIdx_map, List.mapM_map]
    exact mapM_zipIdx_eq_map (fun r _ n => checkAssessment_ok r (assess r) n)
  have hlength : countIs (conflictSummary states reconciled) "properties_analyzed" report.results.length = true := by
    simp [countIs, conflictSummary, hstates]
  have hcounts : checkConflictCounts (conflictSummary states reconciled) states reconciled = .ok () :=
    checkConflictCounts_ok (by simp [hstates, hreconciled])
  rw [assertActiveConflicts, hpresent, ok_bind, hreport]
  simp only [hschema, hversion, hresults, hassessments, hsummary, List.length_map, decide_true, ensure_of, ok_bind,
    hlength, hcounted, List.map_map, Function.comp_def]
  rw [← hstates, ← hreconciled, hcounts, ok_bind, hstatus, hidentity]
  simp only [decide_true, Json.pyEquals_self, ensure_of, ok_bind]

theorem conflicts_accepted (hdigest : HexDigest sha256) {observations authority : ContentIdentity}
    (hobservations : optionalSchema contentIdentitySchema observations.toDict = true)
    (hauthority : optionalSchema contentIdentitySchema authority.toDict = true)
    (hkinds : ∀ r ∈ report.results, admitted r.objectIdentity = true) :
    ConflictsAccepted sha256 (conflictsBlockOf sha256 report assess observations.toDict authority.toDict) := by
  refine ⟨conflictsBlockSchema_of hdigest hobservations hauthority hkinds, ?_⟩
  rw [if_neg]
  · exact assertActiveConflicts_ok rfl rfl
  · have hstatus := deriveConflictStatus_active (report.results.map PropertyConflictResult.state)
      (report.results.map (fun r => reconciledAs (assess r)))
    intro hidle
    rw [conflictsBlockOf, Json.get, Json.lookup_cons_self, Option.getD_some, Json.str.injEq] at hidle
    rw [hidle] at hstatus
    exact absurd hstatus (by decide)

end Conflicts

section DriftLane
variable {sha256 : String → String} {isPrintable : Char → Bool} {r : ComparisonResult} {d : DriftResult}

/-- The lane of a comparison and a drift result. -/
def driftBlockOf (sha256 : String → String) (r : ComparisonResult) (d : DriftResult) : List (String × Json) :=
  [("status", .str d.status.text), ("baseline_snapshot_identity", r.baseline.contentIdentity.toDict),
    ("candidate_snapshot_identity", r.candidate.contentIdentity.toDict),
    ("comparison_content_identity", d.comparisonContentIdentity.toDict),
    ("drift_policy_identity", (d.driftPolicyIdentity.map ContentIdentity.toDict).getD .null),
    ("drift_result_content_identity", (driftResultIdentity sha256 (.obj d.dictWithoutIdentity)).toDict),
    ("summary", d.summary.toDict)]

lemma asDict_identity (c : ContentIdentity) : asDict c.toDict = .ok c.toDict := rfl

lemma buildDriftBlock_eq :
    buildDriftBlock isPrintable (r.members sha256) (d.members sha256) = .ok (driftBlockOf sha256 r d) := by
  have hne : ∀ c : ContentIdentity, c.toDict ≠ .null := fun c => by simp [ContentIdentity.toDict]
  cases hpolicy : d.driftPolicyIdentity <;>
    simp [buildDriftBlock, ComparisonResult.members, ComparisonResult.dictWithoutIdentity, DriftResult.members,
      DriftResult.dictWithoutIdentity, ArtifactMetadata.toDict, DriftSummary.toDict, driftSummaryKeys, Json.get,
      Json.item, Json.lookup, asDict_identity, asCount, Json.pyStr, ok_bind, hpolicy, hne, driftBlockOf, pure,
      Except.pure]

/-- Every identity of the lane is one the schema accepts. -/
structure ProperIdentities (sha256 : String → String) (r : ComparisonResult) (d : DriftResult) : Prop where
  result : ProperResult sha256 r
  compared : optionalSchema contentIdentitySchema d.comparisonContentIdentity.toDict = true
  policy : ∀ c ∈ d.driftPolicyIdentity, optionalSchema contentIdentitySchema c.toDict = true

lemma driftBlockSchema_of (hdigest : HexDigest sha256) (h : ProperIdentities sha256 r d) :
    driftBlockSchema (.obj (driftBlockOf sha256 r d)) = true := by
  have hbaseline := optionalIdentity_of hdigest h.result.baseline.algorithm h.result.baseline.hashing
    h.result.baseline.digest
  have hcandidate := optionalIdentity_of hdigest h.result.candidate.algorithm h.result.candidate.hashing
    h.result.candidate.digest
  have hcompared := h.compared
  have hpolicy : optionalSchema contentIdentitySchema
      ((d.driftPolicyIdentity.map ContentIdentity.toDict).getD .null) = true := by
    cases hidentity : d.driftPolicyIdentity with
    | none => rfl
    | some c => exact h.policy c hidentity
  have hresult : optionalSchema contentIdentitySchema
      (driftResultIdentity sha256 (.obj d.dictWithoutIdentity)).toDict = true :=
    optionalIdentity_of hdigest rfl rfl ⟨_, rfl⟩
  have hsummary : optionalSchema driftSummarySchema d.summary.toDict = true := by
    refine optionalSchema_of ?_ (by simp [DriftSummary.toDict])
    simp [driftSummarySchema, driftSummaryKeys, DriftSummary.toDict, JsonSchema.object, JsonSchema.integer, Json.lookup]
  have hstatus : JsonSchema.texts ["not_run", "no_difference", "expected_difference", "unexpected_drift"]
      (.str d.status.text) = true := by
    cases d.status <;> decide
  simp [driftBlockSchema, driftBlockOf, JsonSchema.object, Json.lookup, hbaseline, hcandidate, hcompared, hpolicy,
    hresult, hsummary, hstatus]

/-- The counts as the validator reads them. -/
def countRead (s : DriftSummary) (key : String) : Int :=
  ((Json.lookup (membersOf s.toDict) key).getD (.int (-1))).number.getD (-1)

lemma countRead_eq (s : DriftSummary) : countRead s "affected_objects" = s.affectedObjects ∧
    countRead s "expected_differences" = s.expectedDifferences ∧ countRead s "property_drift" = s.propertyDrift ∧
      countRead s "unexpected_drift" = s.unexpectedDrift := by
  refine ⟨?_, ?_, ?_, ?_⟩ <;> simp [countRead, DriftSummary.toDict, membersOf, Json.lookup]

lemma checkDriftCounts_ok (h : StatusAgrees d) : checkDriftCounts d.status.text (countRead d.summary) = .ok () := by
  obtain ⟨haffected, hexpected, hproperty, hunexpected⟩ := countRead_eq d.summary
  have hnonneg : driftSummaryKeys.any (fun key => countRead d.summary key < 0) = false := by
    simp [driftSummaryKeys, haffected, hexpected, hproperty, hunexpected]
  rw [checkDriftCounts, if_neg (by simp [hnonneg])]
  cases hstatus : d.status with
  | noDifference =>
    rw [if_pos (by decide)]
    rw [h.none hstatus]
    exact ensure_of (by decide) _ _
  | expectedDifference =>
    obtain ⟨hpositive, hzero⟩ := h.expected hstatus
    rw [if_neg (by decide), if_pos (by decide)]
    refine ensure_of ?_ _ _
    simp [hexpected, hunexpected, hpositive, hzero]
  | unexpectedDrift =>
    rw [if_neg (by decide), if_neg (by decide)]
    refine ensure_of ?_ _ _
    simp [hunexpected, h.unexpected hstatus]

/-- The status of the lane fits its counts and its policy. -/
theorem assertActiveDrift_ok (h : StatusAgrees d) : assertActiveDrift (driftBlockOf sha256 r d) = .ok () := by
  set block := driftBlockOf sha256 r d with hblock
  have hpresent : ["baseline_snapshot_identity", "candidate_snapshot_identity", "comparison_content_identity",
      "drift_result_content_identity"].forM (requireIdentity block "drift") = .ok () := by
    refine forM_eq_ok.mpr ?_
    simp only [List.mem_cons, List.not_mem_nil, or_false, forall_eq_or_imp, forall_eq]
    refine ⟨ensure_of ?_ _ _, ensure_of ?_ _ _, ensure_of ?_ _ _, ensure_of ?_ _ _⟩ <;>
      simp [hblock, driftBlockOf, Json.get, Json.lookup, ContentIdentity.toDict, isMapping]
  have hsummary : Json.get block "summary" = .obj (membersOf d.summary.toDict) := by
    simp [hblock, driftBlockOf, Json.get, Json.lookup, DriftSummary.toDict, membersOf]
  have hstatus : Json.get block "status" = .str d.status.text := by
    simp [hblock, driftBlockOf, Json.get]
  have hpolicy : Json.get block "drift_policy_identity" =
      (d.driftPolicyIdentity.map ContentIdentity.toDict).getD .null := by
    simp [hblock, driftBlockOf, Json.get, Json.lookup]
  have hcounts := checkDriftCounts_ok h
  rw [assertActiveDrift, hpresent, ok_bind, hsummary, hstatus]
  simp only [hpolicy]
  cases hvalue : d.driftPolicyIdentity with
  | none =>
    have hnone : d.status = .noDifference := by
      by_contra hne
      exact h.policy hne hvalue
    rw [hnone] at hcounts ⊢
    exact hcounts
  | some c =>
    have hmapping : isMapping c.toDict = true := rfl
    cases hkind : d.status <;> rw [hkind] at hcounts <;> exact hcounts

theorem drift_accepted (hdigest : HexDigest sha256) (hidentities : ProperIdentities sha256 r d)
    (h : StatusAgrees d) : DriftAccepted (driftBlockOf sha256 r d) := by
  refine ⟨driftBlockSchema_of hdigest hidentities, ?_⟩
  rw [if_neg]
  · exact assertActiveDrift_ok h
  · intro hidle
    rw [driftBlockOf, Json.get, Json.lookup_cons_self, Option.getD_some, Json.str.injEq] at hidle
    revert hidle
    cases d.status <;> decide

end DriftLane

section Review
variable {sha256 : String → String} {isPrintable : Char → Bool} {iterErrors : Json → List JsonSchema.Failure}

/-- Two accepted lanes make an accepted review result. -/
theorem validateReviewResult_ok (hdigest : HexDigest sha256)
    (hvalidator : ∀ document, iterErrors document = [] ↔ reviewSchemaAccepts document = true)
    {conflicts drift : Option (List (String × Json))}
    (hconflicts : ConflictsAccepted sha256 (conflicts.getD emptyConflictsBlock))
    (hdrift : DriftAccepted (drift.getD emptyDriftBlock)) :
    validateReviewResult sha256 isPrintable iterErrors (buildReviewResult sha256 conflicts drift) =
      .ok (buildReviewResult sha256 conflicts drift) := by
  obtain ⟨hconflictsSchema, hconflicts⟩ := hconflicts
  obtain ⟨hdriftSchema, hdrift⟩ := hdrift
  rw [buildReviewResult]
  generalize conflicts.getD emptyConflictsBlock = c at *
  generalize drift.getD emptyDriftBlock = e at *
  set identity := ciReviewResultIdentity sha256 (.obj (reviewWithoutIdentity c e)) with hidentity
  set payload := reviewWithoutIdentity c e ++ [("content_identity", identity.toDict)] with hpayload
  have hstatus : deriveReviewStatus c e = "passed" ∨ deriveReviewStatus c e = "blocked" := by
    rw [deriveReviewStatus]
    split_ifs
    · exact Or.inr rfl
    · exact Or.inl rfl
  have hcontent : contentIdentitySchema identity.toDict = true := contentIdentitySchema_of hdigest rfl rfl ⟨_, rfl⟩
  have haccepts : reviewSchemaAccepts (.obj payload) = true := by
    simp [reviewSchemaAccepts, hpayload, reviewWithoutIdentity, JsonSchema.object, Json.lookup, hconflictsSchema,
      hdriftSchema, hstatus, hcontent, JsonSchema.texts, JsonSchema.integerConst]
  have hverified : verifyContentIdentity sha256 isPrintable payload = .ok () := by
    have hget : Json.get payload "content_identity" = .obj (membersOf identity.toDict) := by
      simp [hpayload, reviewWithoutIdentity, Json.get, Json.lookup, ContentIdentity.toDict, membersOf]
    have hwithout : payload.filter (fun m => m.1 ≠ "content_identity") = reviewWithoutIdentity c e := by
      simp [hpayload, reviewWithoutIdentity]
    rw [verifyContentIdentity, hget]
    simp only [hwithout, contentIdentityOf_toDict, ← hidentity]
    rfl
  have hlanes : assertLaneInvariants sha256 payload = .ok () := by
    have hgetConflicts : membersOf (Json.get payload "conflicts") = c := by
      simp [hpayload, reviewWithoutIdentity, Json.get, membersOf]
    have hgetDrift : membersOf (Json.get payload "drift") = e := by
      simp [hpayload, reviewWithoutIdentity, Json.get, Json.lookup, membersOf]
    have hgetStatus : Json.get payload "status" = .str (deriveReviewStatus c e) := by
      simp [hpayload, reviewWithoutIdentity, Json.get, Json.lookup]
    have hgetWrites : Json.get payload "writes_performed" = .int 0 := by
      simp [hpayload, reviewWithoutIdentity, Json.get, Json.lookup]
    rw [assertLaneInvariants]
    simp only [hgetConflicts, hgetDrift, hgetStatus, hgetWrites, decide_true, Json.number_int, ensure_of, ok_bind]
    by_cases hidle : Json.get c "status" = .str "not_run"
    · rw [if_pos hidle] at hconflicts ⊢
      rw [hconflicts, ok_bind, hdrift]
    · rw [if_neg hidle] at hconflicts ⊢
      rw [hconflicts, ok_bind, hdrift]
  have hschema : Json.get payload "review_schema" = .str reviewSchema := by
    simp [hpayload, reviewWithoutIdentity, Json.get, Json.lookup]
  have hversion : Json.get payload "review_version" = .str reviewVersion := by
    simp [hpayload, reviewWithoutIdentity, Json.get, Json.lookup]
  rw [validateReviewResult, if_neg (by simp [hschema]), if_neg (by simp [hversion]),
    if_neg (by simp [(hvalidator _).mpr haccepts]), hverified, ok_bind, hlanes, ok_bind]
  rfl

variable {a b a' b' : GovernanceSnapshot} {ack ack' : RootAlignmentAck} {r r' : ComparisonResult}
  {policy : Option NormalizedDriftPolicy} {d : DriftResult}

lemma properIdentities_of (hdigest : HexDigest sha256) (hr : buildComparisonResult sha256 isPrintable a b ack = .ok r)
    (hr' : buildComparisonResult sha256 isPrintable a' b' ack' = .ok r')
    (hd : buildDriftResult sha256 (observedComparison hr') policy = .ok d) : ProperIdentities sha256 r d := by
  have hcompared : d.comparisonContentIdentity = snapshotComparisonIdentity sha256 (.obj r'.dictWithoutIdentity) ∧
      d.driftPolicyIdentity = policy.map (fun p => driftPolicyIdentity sha256 p.toIdentityDict) := by
    unfold buildDriftResult at hd
    split_ifs at hd with hidentical
    · cases hd
      exact ⟨rfl, rfl⟩
    · cases policy with
      | none => cases hd
      | some p =>
        obtain ⟨classified, -, hd⟩ := bind_eq_ok.mp hd
        obtain ⟨-, -, hd⟩ := bind_eq_ok.mp hd
        cases hd
        exact ⟨rfl, rfl⟩
  refine ⟨properResult_of_ok hr, ?_, ?_⟩
  · rw [hcompared.1]
    exact optionalIdentity_of hdigest rfl rfl ⟨_, rfl⟩
  · intro c hc
    rw [hcompared.2] at hc
    obtain ⟨p, -, rfl⟩ := Option.map_eq_some_iff.mp hc
    exact optionalIdentity_of hdigest rfl rfl ⟨_, rfl⟩

/-- What is built for review from a conflict report over admitted kinds, and from any comparison and drift
result, is accepted, whichever lanes were run. -/
theorem review_result_accepted (hdigest : HexDigest sha256)
    (hvalidator : ∀ document, iterErrors document = [] ↔ reviewSchemaAccepts document = true)
    (authority : NormalizedAuthorityPolicySet) (observations : PropertyObservationSet)
    (hr : buildComparisonResult sha256 isPrintable a b ack = .ok r)
    (hr' : buildComparisonResult sha256 isPrintable a' b' ack' = .ok r')
    (hd : buildDriftResult sha256 (observedComparison hr') policy = .ok d) :
    ∃ conflicts drift,
      buildConflictsBlock sha256 (analyzePropertyConflicts authority observations)
          ((analyzePropertyConflicts authority observations).results.map (assessReconciliation · none none))
          (observations.contentIdentity sha256).toDict (authority.contentIdentity sha256).toDict = .ok conflicts ∧
      buildDriftBlock isPrintable (r.members sha256) (d.members sha256) = .ok drift ∧
      ∀ conflictLane driftLane : Bool,
        (conflictLane = true → ∀ o ∈ observations.observations, admitted o.objectIdentity = true) →
        validateReviewResult sha256 isPrintable iterErrors (buildReviewResult sha256
            (if conflictLane then some conflicts else none) (if driftLane then some drift else none)) =
          .ok (buildReviewResult sha256
            (if conflictLane then some conflicts else none) (if driftLane then some drift else none)) := by
  refine ⟨_, _, buildConflictsBlock_eq, buildDriftBlock_eq, ?_⟩
  intro conflictLane driftLane hkinds
  refine validateReviewResult_ok hdigest hvalidator ?_ ?_
  · cases conflictLane with
    | false => exact emptyConflicts_accepted sha256
    | true =>
      refine conflicts_accepted hdigest (optionalIdentity_of hdigest rfl rfl ⟨_, rfl⟩)
        (optionalIdentity_of hdigest rfl rfl ⟨_, rfl⟩) ?_
      intro x hx
      obtain ⟨e, he, rfl⟩ := mem_results.mp hx
      exact hkinds rfl e.2.base ((mem_group he).mp e.2.base_mem).1
  · cases driftLane with
    | false => exact emptyDrift_accepted
    | true => exact drift_accepted hdigest (properIdentities_of hdigest hr hr' hd) (statusAgrees_of_ok hd)

/-- Nothing is accepted that the schema refuses. -/
lemma schema_of_accepted (hvalidator : ∀ document, iterErrors document = [] ↔ reviewSchemaAccepts document = true)
    {document accepted : Json} (h : validateReviewResult sha256 isPrintable iterErrors document = .ok accepted) :
    reviewSchemaAccepts document = true := by
  rw [← hvalidator]
  cases document with
  | obj payload =>
    rw [validateReviewResult] at h
    split_ifs at h with hschema hversion herrors
    exact not_not.mp herrors
  | _ => cases h

end Review

lemma anyPolicy_normalized : (⟨[]⟩ : NormalizedDriftPolicy).Normalized := by
  constructor <;> simp

theorem shops_review_accepted : ∃ conflicts drift,
    buildConflictsBlock constantDigest (analyzePropertyConflicts (.of []) ordersStatistics)
        ((analyzePropertyConflicts (.of []) ordersStatistics).results.map (assessReconciliation · none none))
        (ordersStatistics.contentIdentity constantDigest).toDict
        ((NormalizedAuthorityPolicySet.of []).contentIdentity constantDigest).toDict = .ok conflicts ∧
    validateReviewResult constantDigest (fun _ => true) (validatorOf reviewSchemaAccepts)
        (buildReviewResult constantDigest (some conflicts) (some drift)) =
      .ok (buildReviewResult constantDigest (some conflicts) (some drift)) := by
  have hok : (buildComparisonResult constantDigest (fun _ => true) (shopSnapshot customerShop)
      (shopSnapshot anonymousShop) ⟨false, false⟩).toOption.isSome = true := by
    decide +kernel
  obtain ⟨r, hr⟩ := exists_ok hok
  have hdrift : ∃ d, buildDriftResult constantDigest (observedComparison hr) (some ⟨[]⟩) = .ok d := by
    obtain ⟨classified, -, hd⟩ := buildDriftResult_eq anyPolicy_normalized
    exact ⟨_, hd⟩
  obtain ⟨d, hd⟩ := hdrift
  have hkinds : ∀ o ∈ ordersStatistics.observations, admitted o.objectIdentity = true := by decide +kernel
  obtain ⟨conflicts, drift, hconflicts, -, haccepted⟩ := review_result_accepted constantDigest_hex
    (validatorOf_iff reviewSchemaAccepts) (.of []) ordersStatistics hr hr hd
  exact ⟨conflicts, drift, hconflicts, haccepted true true (fun _ => hkinds)⟩

lemma dashboard_nonblank : isBlank "dashboard" = false := by decide
lemma dashboard_ne_column : (Stripped.of "dashboard" dashboard_nonblank).val ≠ nodeKindColumn := by decide
lemma title_nonempty : ["name"] ≠ [] := by decide
lemma title_observed : [ordersScan] ≠ [] := List.cons_ne_nil _ _
lemma title_merged : mergeProvenance [ordersScan] = [ordersScan] := rfl

def dashboardTitle : PropertyObservationSet := .fromObservations
  [⟨.root (.of "orders" orders_nonblank) (.of "dashboard" dashboard_nonblank) (.of "orders" orders_nonblank)
      dashboard_ne_column, ⟨["name"], title_nonempty⟩, canonicalizeJsonValue (.str "Orders"), [ordersScan],
    title_observed, title_merged⟩]

/-- A report about a node of another kind is analyzed and built, and refused by the schema. -/
theorem dashboard_review_refused : ∃ conflicts,
    buildConflictsBlock constantDigest (analyzePropertyConflicts (.of []) dashboardTitle)
        ((analyzePropertyConflicts (.of []) dashboardTitle).results.map (assessReconciliation · none none))
        (dashboardTitle.contentIdentity constantDigest).toDict
        ((NormalizedAuthorityPolicySet.of []).contentIdentity constantDigest).toDict = .ok conflicts ∧
    ∀ iterErrors : Json → List JsonSchema.Failure,
      (∀ document, iterErrors document = [] ↔ reviewSchemaAccepts document = true) → ∀ accepted,
        validateReviewResult constantDigest (fun _ => true) iterErrors
          (buildReviewResult constantDigest (some conflicts) none) ≠ .ok accepted := by
  refine ⟨_, buildConflictsBlock_eq, ?_⟩
  intro iterErrors hvalidator accepted h
  have hrefused : reviewSchemaAccepts (buildReviewResult constantDigest (some (conflictsBlockOf constantDigest
      (analyzePropertyConflicts (.of []) dashboardTitle) (assessReconciliation · none none)
      (dashboardTitle.contentIdentity constantDigest).toDict
      ((NormalizedAuthorityPolicySet.of []).contentIdentity constantDigest).toDict)) none) = false := by
    decide +kernel
  rw [schema_of_accepted hvalidator h] at hrefused
  cases hrefused

end CollibraGovernance.GithubCi
