import CollibraGovernance.Observations.RuleKeySchema
import CollibraGovernance.Observations.Artifact
import CollibraGovernance.Reconciliation.Safety

/-! The review result: how its conflicts and drift lanes are built, and how a document is validated. -/
namespace CollibraGovernance.GithubCi
open Library Identity Domain Comparison Observations Reconciliation

def reviewSchema : String := "governance-ci-review-result"
def reviewVersion : String := "1"

def ciReviewResultIdentity (sha256 : String → String) (withoutIdentity : Json) : ContentIdentity :=
  sha256Identity sha256 "gov-ci-review-v1\n" withoutIdentity

/-! Building. -/

/-- Which count of the summary an assessment goes into. -/
inductive Reconciled where
  | safe | blocked | notApplicable
  deriving DecidableEq

def reconciledOf (applicable safe : Bool) : Reconciled :=
  if !applicable then .notApplicable else if safe then .safe else .blocked

def Reconciled.summaryKey : Reconciled → String
  | safe => "reconciliation_safe"
  | blocked => "reconciliation_blocked"
  | notApplicable => "reconciliation_not_applicable"

/-- The count of the summary a state goes into. -/
def stateSummaryKey : ConflictState → String
  | .singleObservation => "single_observation"
  | .agreement => "agreement"
  | .resolvedByAuthority => "resolved_by_authority"
  | .unresolvedConflict => "unresolved_conflict"
  | .invalidOrAmbiguousAuthority => "invalid_or_ambiguous_authority"

def allStates : List ConflictState :=
  [.singleObservation, .agreement, .resolvedByAuthority, .unresolvedConflict, .invalidOrAmbiguousAuthority]

/-- The summary of the properties with the given states and assessments. -/
def conflictSummary (states : List ConflictState) (reconciled : List Reconciled) : List (String × Json) :=
  ("properties_analyzed", .int states.length) ::
    (allStates.map (fun s => (stateSummaryKey s, Json.int (states.count s))) ++
      [Reconciled.safe, .blocked, .notApplicable].map
        (fun k => (k.summaryKey, Json.int (reconciled.count k))))

def emptyConflictSummary : List (String × Json) := conflictSummary [] []

def emptyConflictsBlock : List (String × Json) :=
  [("status", .str "not_run"), ("observations_content_identity", .null), ("authority_content_identity", .null),
    ("conflict_report_content_identity", .null), ("summary", .obj emptyConflictSummary),
    ("conflict_report", .null), ("reconciliation_assessments", .arr [])]

def emptyDriftBlock : List (String × Json) :=
  [("status", .str "not_run"), ("baseline_snapshot_identity", .null), ("candidate_snapshot_identity", .null),
    ("comparison_content_identity", .null), ("drift_policy_identity", .null),
    ("drift_result_content_identity", .null), ("summary", .null)]

def assessmentEntry (result : PropertyConflictResult) (assessment : ReconciliationAssessment) : Json :=
  .obj [("object", result.objectIdentity.toDict), ("property", .str result.propertyPath.toPointer),
    ("applicable", .bool assessment.applicable), ("safe", .bool assessment.safe),
    ("reason", .str assessment.reason.text)]

/-- `_derive_conflict_status` -/
def deriveConflictStatus (states : List ConflictState) (reconciled : List Reconciled) : String :=
  if 0 < reconciled.count .blocked then "blocked"
  else if 0 < states.count .unresolvedConflict + states.count .invalidOrAmbiguousAuthority then "findings"
  else "clear"

def reconciledAs (assessment : ReconciliationAssessment) : Reconciled :=
  reconciledOf assessment.applicable assessment.safe

def buildConflictsBlock (sha256 : String → String) (report : PropertyConflictReport)
    (assessments : List ReconciliationAssessment) (observationsContentIdentity authorityContentIdentity : Json) :
    Except String (List (String × Json)) :=
  if assessments.length ≠ report.results.length then
    .error "assessments must align 1:1 with conflict report results"
  else
    let states := report.results.map PropertyConflictResult.state
    let reconciled := assessments.map reconciledAs
    .ok [("status", .str (deriveConflictStatus states reconciled)),
      ("observations_content_identity", observationsContentIdentity),
      ("authority_content_identity", authorityContentIdentity),
      ("conflict_report_content_identity", (report.contentIdentity sha256).toDict),
      ("summary", .obj (conflictSummary states reconciled)), ("conflict_report", report.toIdentityDict),
      ("reconciliation_assessments", .arr ((report.results.zip assessments).map
        (fun e => assessmentEntry e.1 e.2)))]

/-- `int(value)` of a float: its fraction is cut off. -/
def truncated (f : FloatText) : Int :=
  match Json.integralOf f with
  | some n => n
  | none =>
    -- a fraction with an exponent is below one
    if f.text.toList.contains 'e' then 0
    else match f.text.toList with
      | '-' :: body => -(Json.decimalValue (body.takeWhile (· ≠ '.')))
      | body => Json.decimalValue (body.takeWhile (· ≠ '.'))

/-- `int(value)` of a text in ASCII: digits with single underscores between them, a sign, and white space around. -/
def intOfText (text : String) : Option Int :=
  let (sign, body) := match (strip text).toList with
    | '-' :: rest => ((-1 : Int), rest)
    | '+' :: rest => (1, rest)
    | rest => (1, rest)
  if (body.splitOn '_').all (fun part => part ≠ [] && part.all Char.isDigit) then
    some (sign * Json.decimalValue (body.filter (· ≠ '_')))
  else none

/-- `int(value)` of a count -/
def asCount : Json → Except String Json
  | .int i => .ok (.int i)
  | .bool b => .ok (.int (if b then 1 else 0))
  | .float f => .ok (.int (truncated f))
  | .str text => match intOfText text with
    | some i => .ok (.int i)
    | none => .error "ValueError"
  | _ => .error "TypeError"

example : asCount (.float ⟨"-1.5", by decide⟩) = .ok (.int (-1)) ∧ asCount (.str " +1_0 ") = .ok (.int 10) := by
  decide

/-- `dict(value)` -/
def asDict (j : Json) : Except String Json := (Json.asMapping j "TypeError").map Json.obj

def driftSummaryKeys : List String :=
  ["affected_objects", "expected_differences", "property_drift", "unexpected_drift"]

def buildDriftBlock (isPrintable : Char → Bool) (comparison driftResult : List (String × Json)) :
    Except String (List (String × Json)) :=
  match Json.get comparison "baseline", Json.get comparison "candidate", Json.get driftResult "summary" with
  | .obj baseline, .obj candidate, .obj summary => do
    let status ← Json.item driftResult "status"
    let baselineIdentity ← asDict (← Json.item baseline "content_identity")
    let candidateIdentity ← asDict (← Json.item candidate "content_identity")
    let comparisonIdentity ← asDict (← Json.item driftResult "comparison_content_identity")
    let policyIdentity ← if Json.get driftResult "drift_policy_identity" = .null then .ok .null
      else asDict (Json.get driftResult "drift_policy_identity")
    let resultIdentity ← asDict (← Json.item driftResult "content_identity")
    let counts ← driftSummaryKeys.mapM (fun key => do return (key, ← asCount (← Json.item summary key)))
    return [("status", .str (status.pyStr isPrintable)), ("baseline_snapshot_identity", baselineIdentity),
      ("candidate_snapshot_identity", candidateIdentity), ("comparison_content_identity", comparisonIdentity),
      ("drift_policy_identity", policyIdentity), ("drift_result_content_identity", resultIdentity),
      ("summary", .obj counts)]
  | .obj _, .obj _, _ => .error "drift_result must include summary"
  | _, _, _ => .error "comparison must include baseline and candidate metadata"

def deriveReviewStatus (conflicts drift : List (String × Json)) : String :=
  if Json.get conflicts "status" = .str "blocked" ∨ Json.get drift "status" = .str "unexpected_drift" then "blocked"
  else "passed"

/-- The review result before its identity is added. -/
def reviewWithoutIdentity (conflicts drift : List (String × Json)) : List (String × Json) :=
  [("conflicts", .obj conflicts), ("drift", .obj drift), ("review_schema", .str reviewSchema),
    ("review_version", .str reviewVersion), ("status", .str (deriveReviewStatus conflicts drift)),
    ("writes_performed", .int 0)]

def buildReviewResult (sha256 : String → String) (conflicts drift : Option (List (String × Json))) : Json :=
  let withoutIdentity := reviewWithoutIdentity (conflicts.getD emptyConflictsBlock) (drift.getD emptyDriftBlock)
  .obj (withoutIdentity ++
    [("content_identity", (ciReviewResultIdentity sha256 (.obj withoutIdentity)).toDict)])

/-! `governance-ci-review-result.v1.schema.json` -/

def valueGroupSchema : Json → Bool := JsonSchema.object
  [⟨"value", true, JsonSchema.jsonValue⟩,
    ⟨"provenance", true, JsonSchema.sized 1 none provenanceRecordSchema⟩]

def conflictResultSchema : Json → Bool := JsonSchema.object
  [⟨"object", true, graphNodeIdentitySchema⟩, ⟨"property", true, JsonSchema.text 1⟩,
    ⟨"reason", true, JsonSchema.texts ["SINGLE_OBSERVATION", "AGREEMENT", "RESOLVED_BY_AUTHORITY",
      "NO_AUTHORITY_RULE", "AUTHORITATIVE_SOURCE_NOT_OBSERVED", "AUTHORITATIVE_SOURCE_CONFLICTED",
      "INVALID_OR_AMBIGUOUS_AUTHORITY"]⟩,
    ⟨"state", true, JsonSchema.texts ["SINGLE_OBSERVATION", "AGREEMENT", "RESOLVED_BY_AUTHORITY",
      "UNRESOLVED_CONFLICT", "INVALID_OR_AMBIGUOUS_AUTHORITY"]⟩,
    ⟨"value_groups", true, JsonSchema.array valueGroupSchema⟩, ⟨"effective_value", false, JsonSchema.jsonValue⟩,
    ⟨"winning_rule_key", false, winningRuleKeySchema⟩]

def conflictReportSchema : Json → Bool := JsonSchema.object
  [⟨"conflict_schema", true, JsonSchema.texts ["governance-property-conflicts"]⟩,
    ⟨"conflict_version", true, JsonSchema.texts ["1"]⟩,
    ⟨"results", true, JsonSchema.array conflictResultSchema⟩]

def conflictSummarySchema : Json → Bool := JsonSchema.object
  (["properties_analyzed", "single_observation", "agreement", "resolved_by_authority", "unresolved_conflict",
    "invalid_or_ambiguous_authority", "reconciliation_safe", "reconciliation_blocked",
    "reconciliation_not_applicable"].map (fun name => ⟨name, true, JsonSchema.integer 0⟩))

def reconciliationAssessmentSchema : Json → Bool := JsonSchema.object
  [⟨"object", true, graphNodeIdentitySchema⟩, ⟨"property", true, JsonSchema.text 1⟩,
    ⟨"applicable", true, JsonSchema.boolean⟩, ⟨"safe", true, JsonSchema.boolean⟩,
    ⟨"reason", true, JsonSchema.texts ["safe", "unresolved_conflict", "invalid_or_ambiguous_authority",
      "unsupported_effective_value", "not_reconciliation_mapped"]⟩]

def conflictsBlockSchema : Json → Bool := JsonSchema.object
  [⟨"status", true, JsonSchema.texts ["not_run", "clear", "findings", "blocked"]⟩,
    ⟨"observations_content_identity", true, optionalSchema contentIdentitySchema⟩,
    ⟨"authority_content_identity", true, optionalSchema contentIdentitySchema⟩,
    ⟨"conflict_report_content_identity", true, optionalSchema contentIdentitySchema⟩,
    ⟨"summary", true, conflictSummarySchema⟩, ⟨"conflict_report", true, optionalSchema conflictReportSchema⟩,
    ⟨"reconciliation_assessments", true, JsonSchema.array reconciliationAssessmentSchema⟩]

def driftSummarySchema : Json → Bool := JsonSchema.object
  (driftSummaryKeys.map (fun name => ⟨name, true, JsonSchema.integer 0⟩))

def driftBlockSchema : Json → Bool := JsonSchema.object
  [⟨"status", true, JsonSchema.texts ["not_run", "no_difference", "expected_difference", "unexpected_drift"]⟩,
    ⟨"baseline_snapshot_identity", true, optionalSchema contentIdentitySchema⟩,
    ⟨"candidate_snapshot_identity", true, optionalSchema contentIdentitySchema⟩,
    ⟨"comparison_content_identity", true, optionalSchema contentIdentitySchema⟩,
    ⟨"drift_policy_identity", true, optionalSchema contentIdentitySchema⟩,
    ⟨"drift_result_content_identity", true, optionalSchema contentIdentitySchema⟩,
    ⟨"summary", true, optionalSchema driftSummarySchema⟩]

/-- Whether the schema accepts a document. -/
def reviewSchemaAccepts : Json → Bool := JsonSchema.object
  [⟨"review_schema", true, JsonSchema.texts [reviewSchema]⟩,
    ⟨"review_version", true, JsonSchema.texts [reviewVersion]⟩,
    ⟨"status", true, JsonSchema.texts ["passed", "blocked"]⟩, ⟨"conflicts", true, conflictsBlockSchema⟩,
    ⟨"drift", true, driftBlockSchema⟩, ⟨"writes_performed", true, JsonSchema.integerConst 0⟩,
    ⟨"content_identity", true, contentIdentitySchema⟩]

/-! Validating. -/

inductive ReviewResultErrorCode where
  | readError | parseError | invalidArtifact | unsupportedSchema | unsupportedVersion | integrityMismatch
  | writeError
  deriving DecidableEq

structure ReviewResultDiagnostic where
  code : ReviewResultErrorCode
  path : String
  message : String
  deriving DecidableEq

abbrev Reviewed (α : Type) := Except (List ReviewResultDiagnostic) α

/-- `_invalid` -/
def invalid {α : Type} (path message : String) : Reviewed α := .error [⟨.invalidArtifact, path, message⟩]

/-- `if not holds: raise _invalid(path, message)` -/
def ensure (holds : Bool) (path message : String) : Reviewed Unit :=
  if holds then .ok () else invalid path message

def isMapping : Json → Bool
  | .obj _ => true
  | _ => false

def requireIdentity (block : List (String × Json)) (lane key : String) : Reviewed Unit :=
  ensure (isMapping (Json.get block key)) ("/" ++ lane ++ "/" ++ key) ("active " ++ lane ++ " lane requires " ++ key)

/-- `int(summary.get(key, -1)) == count` -/
def countIs (summary : List (String × Json)) (key : String) (count : Nat) : Bool :=
  ((Json.lookup summary key).getD (.int (-1))).number = some (count : Int)

def conflictStateOf (state : Json) : Option ConflictState := allStates.find? (fun s => state = .str s.value)

/-- One result with its assessment: the state and the assessment it is counted under. -/
def checkAssessment (index : Nat) (result assessment : Json) : Reviewed (ConflictState × Reconciled) :=
  let path := "/conflicts/reconciliation_assessments/" ++ toString index
  match result, assessment with
  | .obj r, .obj a => do
    ensure (Json.pyEquals (Json.get a "object") (Json.get r "object")) (path ++ "/object")
      "assessment object must match conflict result object"
    ensure (Json.pyEquals (Json.get a "property") (Json.get r "property")) (path ++ "/property")
      "assessment property must match conflict result property"
    match conflictStateOf (Json.get r "state") with
    | none =>
      invalid ("/conflicts/conflict_report/results/" ++ toString index ++ "/state") "unrecognized conflict state"
    | some state => return (state, reconciledOf (Json.get a "applicable").truthy (Json.get a "safe").truthy)
  | _, _ => invalid path "assessment/result entries must be objects"

/-- The counts of the summary are those of the entries. -/
def checkConflictCounts (summary : List (String × Json)) (states : List ConflictState)
    (reconciled : List Reconciled) : Reviewed Unit := do
  allStates.forM (fun s => ensure (countIs summary (stateSummaryKey s) (states.count s))
    ("/conflicts/summary/" ++ stateSummaryKey s)
    ("conflicts summary." ++ stateSummaryKey s ++ " does not match conflict_report.results"))
  [Reconciled.safe, .blocked, .notApplicable].forM (fun k =>
    ensure (countIs summary k.summaryKey (reconciled.count k)) ("/conflicts/summary/" ++ k.summaryKey)
      (k.summaryKey ++ " does not match assessments"))
  ensure (reconciled.count .safe + reconciled.count .blocked + reconciled.count .notApplicable = states.length)
    "/conflicts/summary" "reconciliation counts must sum to properties_analyzed"

section Validate
/-! The schema validator is a third-party library: it receives a document and reports the failed
keywords of the schema above. -/
variable (sha256 : String → String) (isPrintable : Char → Bool)
  (iterErrors : Json → List JsonSchema.Failure)

def assertActiveConflicts (conflicts : List (String × Json)) : Reviewed Unit := do
  ["observations_content_identity", "authority_content_identity", "conflict_report_content_identity"].forM
    (requireIdentity conflicts "conflicts")
  match Json.get conflicts "conflict_report" with
  | .obj report => do
    ensure (Json.get report "conflict_schema" = .str "governance-property-conflicts")
      "/conflicts/conflict_report/conflict_schema" "conflict_report must declare governance-property-conflicts"
    ensure (Json.get report "conflict_version" = .str "1") "/conflicts/conflict_report/conflict_version"
      "conflict_report must declare version 1"
    match Json.get report "results", Json.get conflicts "reconciliation_assessments",
      Json.get conflicts "summary" with
    | .arr results, .arr assessments, .obj summary => do
      ensure (assessments.length = results.length) "/conflicts/reconciliation_assessments"
        "reconciliation_assessments must align 1:1 with conflict_report.results"
      ensure (countIs summary "properties_analyzed" results.length) "/conflicts/summary/properties_analyzed"
        "properties_analyzed must equal conflict_report.results length"
      let counted ← (results.zip assessments).zipIdx.mapM (fun e => checkAssessment e.2 e.1.1 e.1.2)
      let states := counted.map Prod.fst
      let reconciled := counted.map Prod.snd
      checkConflictCounts summary states reconciled
      ensure (Json.get conflicts "status" = .str (deriveConflictStatus states reconciled)) "/conflicts/status"
        "conflicts.status contradicts summary/assessment semantics"
      ensure (Json.pyEquals (Json.get conflicts "conflict_report_content_identity")
          (propertyConflictReportIdentity sha256 (.obj report)).toDict)
        "/conflicts/conflict_report_content_identity" "conflict_report_content_identity mismatch"
    | .arr _, .arr _, _ => invalid "/conflicts/summary" "conflicts summary must be an object"
    | .arr _, _, _ => invalid "/conflicts/reconciliation_assessments" "reconciliation_assessments must be a list"
    | _, _, _ => invalid "/conflicts/conflict_report/results" "conflict_report.results must be a list"
  | _ => invalid "/conflicts/conflict_report" "active conflicts lane requires conflict_report"

/-- The counts of an active drift lane that its status calls for. -/
def checkDriftCounts (status : String) (counts : String → Int) : Reviewed Unit :=
  if driftSummaryKeys.any (fun key => counts key < 0) then
    invalid "/drift/summary" "drift summary counts must be non-negative integers"
  else if status = "no_difference" then
    ensure (driftSummaryKeys.all (fun key => counts key = 0)) "/drift/summary"
      "no_difference requires all drift summary counts to be 0"
  else if status = "expected_difference" then
    ensure (0 < counts "expected_differences" && counts "unexpected_drift" = 0) "/drift/summary"
      "expected_difference requires expected_differences>0 and unexpected_drift==0"
  else ensure (0 < counts "unexpected_drift") "/drift/summary/unexpected_drift"
    "unexpected_drift requires unexpected_drift>0"

def assertActiveDrift (drift : List (String × Json)) : Reviewed Unit := do
  ["baseline_snapshot_identity", "candidate_snapshot_identity", "comparison_content_identity",
    "drift_result_content_identity"].forM (requireIdentity drift "drift")
  match Json.get drift "summary", Json.get drift "status" with
  | .obj summary, .str status => do
    let policyIdentity := Json.get drift "drift_policy_identity"
    if status = "expected_difference" ∨ status = "unexpected_drift" then
      ensure (isMapping policyIdentity) "/drift/drift_policy_identity"
        (status ++ " requires non-null drift_policy_identity")
    else if status = "no_difference" then
      ensure (policyIdentity = .null || isMapping policyIdentity) "/drift/drift_policy_identity"
        "drift_policy_identity must be null or ContentIdentity"
    else invalid "/drift/status" "unrecognized active drift status"
    checkDriftCounts status (fun key => (((Json.lookup summary key).getD (.int (-1))).number).getD (-1))
  | .obj _, _ => invalid "/drift/status" "unrecognized active drift status"
  | _, _ => invalid "/drift/summary" "active drift lane requires summary"

/-- What a conflicts lane that was not run holds. -/
def assertIdleConflicts (conflicts : List (String × Json)) : Reviewed Unit := do
  ensure (Json.get conflicts "conflict_report" = .null &&
    !(Json.get conflicts "reconciliation_assessments").truthy) "/conflicts" "not_run conflicts lane must be empty"
  ["observations_content_identity", "authority_content_identity", "conflict_report_content_identity"].forM
    (fun key => ensure (Json.get conflicts key = .null) ("/conflicts/" ++ key)
      "not_run conflicts identities must be null")
  ensure ((membersOf (Json.get conflicts "summary")).all (fun m => m.2.number = some 0)) "/conflicts/summary"
    "not_run conflicts summary counts must be 0"

/-- What a drift lane that was not run holds. -/
def assertIdleDrift (drift : List (String × Json)) : Reviewed Unit := do
  ensure (Json.get drift "summary" = .null) "/drift/summary" "not_run drift summary must be null"
  ["baseline_snapshot_identity", "candidate_snapshot_identity", "comparison_content_identity",
    "drift_policy_identity", "drift_result_content_identity"].forM
    (fun key => ensure (Json.get drift key = .null) ("/drift/" ++ key) "not_run drift identities must be null")

def assertLaneInvariants (payload : List (String × Json)) : Reviewed Unit := do
  let conflicts := membersOf (Json.get payload "conflicts")
  let drift := membersOf (Json.get payload "drift")
  ensure (Json.get payload "status" = .str (deriveReviewStatus conflicts drift)) "/status"
    "review-result status inconsistent with lane statuses"
  ensure ((Json.get payload "writes_performed").number = some 0) "/writes_performed"
    "review-result writes_performed must be 0"
  if Json.get conflicts "status" = .str "not_run" then assertIdleConflicts conflicts
  else assertActiveConflicts sha256 conflicts
  if Json.get drift "status" = .str "not_run" then assertIdleDrift drift
  else assertActiveDrift drift

def verifyContentIdentity (payload : List (String × Json)) : Reviewed Unit :=
  match Json.get payload "content_identity" with
  | .obj identityRaw =>
    if hasExactKeys identityRaw ["algorithm", "hashing_contract_version", "digest"] then
      let withoutIdentity := payload.filter (fun m => m.1 ≠ "content_identity")
      if contentIdentityOf isPrintable identityRaw = ciReviewResultIdentity sha256 (.obj withoutIdentity) then .ok ()
      else .error [⟨.integrityMismatch, "/content_identity", "review-result content_identity mismatch"⟩]
    else invalid "/content_identity" "review-result content_identity keys invalid"
  | _ => invalid "/content_identity" "review-result content_identity must be an object"

def reviewDiagnostic (failure : JsonSchema.Failure) : ReviewResultDiagnostic :=
  ⟨.invalidArtifact, "/" ++ "/".intercalate failure.absolutePath, "review-result schema validation failed"⟩

def validateReviewResult (document : Json) : Reviewed Json :=
  match document with
  | .obj payload =>
    if Json.get payload "review_schema" ≠ .str reviewSchema then
      .error [⟨.unsupportedSchema, "/review_schema", "unsupported review-result schema"⟩]
    else if Json.get payload "review_version" ≠ .str reviewVersion then
      .error [⟨.unsupportedVersion, "/review_version", "unsupported review-result version"⟩]
    else if iterErrors document ≠ [] then .error ((sortFailures (iterErrors document)).map reviewDiagnostic)
    else do
      verifyContentIdentity sha256 isPrintable payload
      assertLaneInvariants sha256 payload
      return document
  | _ => .error [⟨.parseError, "/", "review-result root must be a mapping"⟩]

end Validate
end CollibraGovernance.GithubCi
