import CollibraGovernance.GithubCi.HumanValue
import CollibraGovernance.Library.RecursiveSchema
import CollibraGovernance.Library.Outcome
import CollibraGovernance.Odcs.Mapper

/-! The Markdown reports and the workflow annotations of the GitHub action. -/
namespace CollibraGovernance.GithubCi
open Library

/-! ### Results of an action -/

inductive ActionStatus where
  | passed | blocked | failed
  deriving DecidableEq

/-- `_STATUS_OVERALL`, also `_REVIEW_STATUS` -/
def ActionStatus.label : ActionStatus → String
  | passed => "PASS"
  | blocked => "BLOCKED"
  | failed => "FAILED"

inductive ValidationStatus where
  | notRun | passed | failed
  deriving DecidableEq

def ValidationStatus.label : ValidationStatus → String
  | notRun => "NOT RUN"
  | passed => "PASS"
  | failed => "FAILED"

inductive PolicyStatus where
  | notRun | passed | blocked | failed
  deriving DecidableEq

def PolicyStatus.label : PolicyStatus → String
  | notRun => "NOT RUN"
  | passed => "PASS"
  | blocked => "BLOCKED"
  | failed => "FAILED"

inductive PlanStatus where
  | notRun | generated | blocked | failed
  deriving DecidableEq

def PlanStatus.label : PlanStatus → String
  | notRun => "NOT RUN"
  | generated => "GENERATED"
  | blocked => "BLOCKED"
  | failed => "FAILED"

structure PolicyOutcome where
  status : PolicyStatus
  violationCount : Int
  errorCount : Int
  warningCount : Int
  resultPath : Option String
  deriving DecidableEq

structure PlanOutcome where
  status : PlanStatus
  createCount : Int
  updateCount : Int
  unchangedCount : Int
  remoteOnlyCount : Int
  planPath : Option String
  resultPath : Option String
  deriving DecidableEq

structure ActionResult where
  status : ActionStatus
  failureCode : Option String
  validation : ValidationStatus
  policy : PolicyOutcome
  plan : PlanOutcome
  deriving DecidableEq

/-- A document of the action: the members of an object. -/
abbrev Members := List (String × Json)

/-- A text that is there and not empty. -/
def presentText : Option String → Option String := Option.filter (· ≠ "")

/-- A count as it is printed. -/
def countText (n : Int) : String := String.ofList (intText n)

/-- The items of a value that is a list. -/
def listOf : Json → List Json
  | .arr items => items
  | _ => []

def rstrip (strips : Char → Bool) (value : String) : String :=
  String.ofList (value.toList.reverse.dropWhile strips).reverse

/-- A name under the root of the artifacts. -/
def underRoot (artifactsRelative : Option String) (name : String) : String :=
  let root := rstrip (· = '/') (artifactsRelative.getD "")
  if root = "" then name else root ++ "/" ++ name

/-! Which characters print and which make up words is a table of the Unicode version in use. -/
structure CharTables where
  isPrintable : Char → Bool
  isWide : Char → Bool

/-- `\w` -/
def CharTables.isWord (tables : CharTables) (c : Char) : Bool :=
  c.isAlphanum || c = '_' || (0x80 ≤ c.toNat && tables.isWide c)

/-- Equal letters up to case; the dotless and the dotted capital i fold to i. -/
def sameLetter (letter c : Char) : Bool :=
  c = letter || c = letter.toUpper || (letter = 'i' && (c = 'ı' || c = 'İ'))

section Renderers
variable (tables : CharTables)

/-- `re.sub(r"(?i)\bapplied\b", "not-requested", text)` -/
def withoutApplied (text : String) : String :=
  String.ofList (replaceWord tables.isWord sameLetter "applied".toList "not-requested".toList 0 false text.toList)

/-- `"\n".join(lines) + "\n"` -/
def joinLines (lines : List String) : String := "\n".intercalate lines ++ "\n"

/-- `str(item.get(key, ""))` -/
def textOf (item : Members) (key : String) : String :=
  ((Json.lookup item key).getD (.str "")).pyStr tables.isPrintable

/-! ### The report -/

def maxMarkdownViolations : Nat := 20
def maxMarkdownPlanActions : Nat := 20
def maxAnnotations : Nat := 20

def violationLine (item : Members) : String :=
  let name := Json.get item "object_name"
  let namePart := if name.truthy = true then " name=" ++ name.pyStr tables.isPrintable else ""
  textOf tables item "severity" ++ " policy=" ++ textOf tables item "policy_id" ++ " kind=" ++
    textOf tables item "object_kind" ++ " id=" ++ textOf tables item "object_id" ++ namePart ++ " reason=" ++
    textOf tables item "reason"

/-- The upper-case name of an action that is planned, if it is one. -/
def plannedAction (item : Members) : Option String :=
  match Json.get item "action_type" with
  | .str "create" => some "CREATE"
  | .str "update" => some "UPDATE"
  | _ => none

def planActionLine (item : Members) : Option String :=
  (plannedAction item).map fun action =>
    let localId := Json.get item "local_id"
    rstrip isSpace (action ++ " " ++ if localId.truthy = true then localId.pyStr tables.isPrintable else "")

def planActionLines (planDict : Members) : List String :=
  (Odcs.mappings (listOf (Json.get planDict "actions"))).filterMap (planActionLine tables)

structure ReportInput where
  actionResult : ActionResult
  policyReport : Option Members
  planDict : Option Members
  artifactsRelative : Option String

namespace ReportInput

/-- The violations listed by the policy report. -/
def violations (input : ReportInput) : List Json :=
  listOf (Json.get (input.policyReport.getD []) "violations")

/-- The planned actions, which are shown when a plan was generated. -/
def actions (input : ReportInput) : List String :=
  if input.actionResult.plan.status = .generated then planActionLines tables (input.planDict.getD []) else []

/-- The path of the policy result, or the place where it belongs. -/
def policyReference (input : ReportInput) : String :=
  (presentText input.actionResult.policy.resultPath).getD (underRoot input.artifactsRelative "policy-result.json")

def actionResultPath (input : ReportInput) : String := underRoot input.artifactsRelative "action-result.json"

def planReference (input : ReportInput) : Option String :=
  (presentText input.actionResult.plan.planPath).or (presentText input.actionResult.plan.resultPath)

def statusLines (input : ReportInput) : List String :=
  let result := input.actionResult
  ["# Governance as Code", "", "## Status", "OVERALL: " ++ result.status.label,
    "CONFIGURATION: " ++ result.validation.label, "POLICY: " ++ result.policy.status.label,
    "PLAN: " ++ result.plan.status.label, "EXECUTION: NOT REQUESTED", "Writes performed: 0", "", "## Policy",
    "Violations: " ++ countText result.policy.violationCount ++ " (errors=" ++ countText result.policy.errorCount ++
      ", warnings=" ++ countText result.policy.warningCount ++ ")"]

def violationLines (input : ReportInput) : List String :=
  let shown := input.violations.take maxMarkdownViolations
  let omitted := input.violations.length - shown.length
  (Odcs.mappings shown).map (fun item => "- " ++ escapeMarkdown (violationLine tables item)) ++
    if 0 < omitted then
      ["- … omitted " ++ countText omitted ++ " more; see " ++ escapeMarkdown input.policyReference]
    else []

def planLines (input : ReportInput) : List String :=
  let plan := input.actionResult.plan
  let shown := (input.actions tables).take maxMarkdownPlanActions
  let omitted := (input.actions tables).length - shown.length
  ["", "## Plan", "Create: " ++ countText plan.createCount, "Update: " ++ countText plan.updateCount,
    "Unchanged: " ++ countText plan.unchangedCount, "Remote only: " ++ countText plan.remoteOnlyCount] ++
    shown.map (fun entry => "- " ++ escapeMarkdown entry) ++
    if 0 < omitted then ["- … omitted " ++ countText omitted ++ " more CREATE/UPDATE actions"] else []

def artifactLines (input : ReportInput) : List String :=
  ["", "## Artifacts", "- action-result: " ++ escapeMarkdown input.actionResultPath] ++
    (presentText input.actionResult.policy.resultPath).toList.map
      (fun path => "- policy-result: " ++ escapeMarkdown path) ++
    input.planReference.toList.map (fun path => "- plan: " ++ escapeMarkdown path)

def lines (input : ReportInput) : List String :=
  input.statusLines ++ input.violationLines tables ++ input.planLines tables ++ input.artifactLines

end ReportInput

def renderReport (input : ReportInput) : String := withoutApplied tables (joinLines (input.lines tables))

/-! ### Annotations -/

/-- The annotation of a violation, if its severity has one. -/
def annotateViolation (severity command : String) (item : Members) : Option String :=
  if Json.get item "severity" = .str severity then
    some (command ++ escapeWorkflowCommand (violationLine tables item))
  else none

def annotationCandidates (actionResult : ActionResult) (policyReport : Option Members) : List String :=
  let violations := Odcs.mappings (listOf (Json.get (policyReport.getD []) "violations"))
  let code := (presentText actionResult.failureCode).getD "action_contract_invalid"
  let hard := if actionResult.status = .failed then
      ["::error::" ++ escapeWorkflowCommand ("governance action failed: " ++ code)]
    else []
  hard ++ violations.filterMap (annotateViolation tables "error" "::error::") ++
    violations.filterMap (annotateViolation tables "warning" "::warning::")

def buildAnnotations (actionResult : ActionResult) (policyReport : Option Members) : List String :=
  let candidates := annotationCandidates tables actionResult policyReport
  if candidates.length ≤ maxAnnotations then candidates
  else
    let kept := candidates.take (maxAnnotations - 1)
    kept ++ ["::warning::" ++ escapeWorkflowCommand ("governance annotations truncated; omitted " ++
      countText (candidates.length - kept.length : Nat) ++ " additional items")]

/-! ### The impact report -/

def maxImpactListItems : Nat := 20
def maxImpactPaths : Nat := 10

def nodeLabel (node : Members) : String := textOf tables node "kind" ++ "/" ++ textOf tables node "logical_id"

def identityLines (nodes : Json) : List String := (Odcs.mappings (listOf nodes)).map (nodeLabel tables)

def policyLine (item : Members) : String :=
  "id=" ++ textOf tables item "policy_id" ++ " severity=" ++ textOf tables item "severity" ++ " rule=" ++
    textOf tables item "rule_type" ++ " matches=" ++ countText (listOf (Json.get item "matched_objects")).length

def policyLines (policies : Json) : List String := (Odcs.mappings (listOf policies)).map (policyLine tables)

/-- The members of a value that is an object, else none. -/
def objectMembers : Json → Members
  | .obj members => members
  | _ => []

def stepText (step : Members) : String :=
  textOf tables step "traversal" ++ ":" ++ textOf tables (objectMembers (Json.get step "edge")) "kind"

def pathLine (item : Members) : String :=
  let steps := (Odcs.mappings (listOf (Json.get item "steps"))).map (stepText tables)
  "root=" ++ nodeLabel tables (objectMembers (Json.get item "root")) ++ " target=" ++
    nodeLabel tables (objectMembers (Json.get item "target")) ++ " distance=" ++ textOf tables item "distance" ++
    " steps=" ++ ",".intercalate steps

def pathLines (paths : Json) : List String := (Odcs.mappings (listOf paths)).map (pathLine tables)

inductive ImpactStatus where
  | clear | impacted | failed | notRun
  deriving DecidableEq

def ImpactStatus.label : ImpactStatus → String
  | clear => "CLEAR"
  | impacted => "IMPACTED"
  | failed => "FAILED"
  | notRun => "NOT RUN"

structure ImpactInput where
  impactStatus : ImpactStatus
  impactResult : Option Members
  impactResultPath : Option String
  failureCode : Option String
  diagnostic : Option Members
  artifactsRelative : Option String

/-- `_bounded_list_section` -/
def boundedListSection (title : String) (items : List String) (limit : Nat) (impactResultPath : String) :
    List String :=
  ["", "## " ++ title] ++
    if items = [] then ["(none)"]
    else (items.take limit).map (fun entry => "- " ++ impactSafeDisplay tables.isPrintable entry) ++
      if limit < items.length then
        ["- showing " ++ countText limit ++ " of " ++ countText items.length ++ "; see " ++
          impactSafeDisplay tables.isPrintable
            (if impactResultPath = "" then "impact-result.json" else impactResultPath)]
      else []

namespace ImpactInput

def payload (input : ImpactInput) : Members := objectMembers (Json.get (input.impactResult.getD []) "impact")

def reference (input : ImpactInput) : String :=
  (presentText input.impactResultPath).getD (underRoot input.artifactsRelative "impact-result.json")

/-- The sections of the report: title, entries, and how many of them are shown. -/
def sections (input : ImpactInput) : List (String × List String × Nat) :=
  [("Changed roots", identityLines tables (Json.get input.payload "changed_nodes"), maxImpactListItems),
    ("Direct nodes", identityLines tables (Json.get input.payload "direct_nodes"), maxImpactListItems),
    ("Transitive nodes", identityLines tables (Json.get input.payload "transitive_nodes"), maxImpactListItems),
    ("Governance assets", identityLines tables (Json.get input.payload "governance_assets"), maxImpactListItems),
    ("Associated contracts", identityLines tables (Json.get input.payload "associated_contracts"),
      maxImpactListItems),
    ("Affected policies", policyLines tables (Json.get (input.impactResult.getD []) "affected_policies"),
      maxImpactListItems),
    ("Explainable paths", pathLines tables (Json.get input.payload "paths"), maxImpactPaths)]

/-- The counts of the report: label and entries. -/
def counts (input : ImpactInput) : List (String × List String) :=
  [("Changed: ", identityLines tables (Json.get input.payload "changed_nodes")),
    ("Direct: ", identityLines tables (Json.get input.payload "direct_nodes")),
    ("Transitive: ", identityLines tables (Json.get input.payload "transitive_nodes")),
    ("Contracts: ", identityLines tables (Json.get input.payload "associated_contracts")),
    ("Governance assets: ", identityLines tables (Json.get input.payload "governance_assets")),
    ("Affected policies: ", policyLines tables (Json.get (input.impactResult.getD []) "affected_policies"))]

def diagnosticLine (item : Members) : String :=
  "- code=" ++ impactSafeDisplay tables.isPrintable (textOf tables item "code") ++
    " path=" ++ impactSafeDisplay tables.isPrintable (textOf tables item "path") ++
    " message=" ++ impactSafeDisplay tables.isPrintable (textOf tables item "message")

def diagnosticLines (diagnostic : Members) : List String :=
  let errors := listOf (Json.get diagnostic "errors")
  let shown := errors.take maxImpactListItems
  ["", "## Diagnostics"] ++
    if errors = [] then ["- impact analysis failed"]
    else (Odcs.mappings shown).map (diagnosticLine tables) ++
      if shown.length < errors.length then
        ["- showing " ++ countText shown.length ++ " of " ++ countText errors.length ++ "; see diagnostics"]
      else []

def lines (input : ImpactInput) : List String :=
  ["# Governance as Code — Impact", "", "## Status", "IMPACT: " ++ input.impactStatus.label,
    "EXECUTION: NOT REQUESTED", "Writes performed: 0"] ++
    (presentText input.failureCode).toList.map
      (fun code => "Failure: " ++ impactSafeDisplay tables.isPrintable code) ++
    (if input.impactStatus = .clear ∨ input.impactStatus = .impacted then
      ["", "## Counts"] ++ (input.counts tables).map (fun e => e.1 ++ countText e.2.length) ++
        (input.sections tables).flatMap fun e => boundedListSection tables e.1 e.2.1 e.2.2 input.reference
    else (input.diagnostic.map (diagnosticLines tables)).getD []) ++
    ["", "## Artifacts", match presentText input.impactResultPath with
      | some path => "- impact-result: " ++ impactSafeDisplay tables.isPrintable path
      | none => "- impact-result: (none)"]

end ImpactInput

def renderImpactReport (input : ImpactInput) : String := withoutApplied tables (joinLines (input.lines tables))

/-! ### The review report -/

def maxReviewConflictItems : Nat := 20
def maxReviewDriftItems : Nat := 20

inductive ConflictStatus where
  | notRun | clear | findings | blocked
  deriving DecidableEq

def ConflictStatus.label : ConflictStatus → String
  | notRun => "NOT RUN"
  | clear => "CLEAR"
  | findings => "FINDINGS"
  | blocked => "BLOCKED"

inductive DriftStatus where
  | notRun | noDifference | expectedDifference | unexpectedDrift | failed
  deriving DecidableEq

def DriftStatus.label : DriftStatus → String
  | notRun => "NOT RUN"
  | noDifference => "NO DIFFERENCE"
  | expectedDifference => "EXPECTED DIFFERENCE"
  | unexpectedDrift => "UNEXPECTED DRIFT"
  | failed => "FAILED"

/-- `_digest_display` -/
def digestDisplay (identity : Json) : String :=
  match Json.get (objectMembers identity) "digest" with
  | .str digest => if digest = "" then "(none)" else reviewSafeScalar digest
  | _ => "(none)"

/-- The parts of `_compact_object_identity`: the object, then its parents. -/
def compactParts (object : Json) : List String :=
  match object with
  | .obj members =>
    (textOf tables members "namespace" ++ "/" ++ textOf tables members "kind" ++ "/" ++
      textOf tables members "logical_id") :: compactParts (Json.get members "parent")
  | _ => []
termination_by object.depth
decreasing_by exact Json.depth_get_lt members "parent"

def compactObjectIdentity (object : Members) : String := " under ".intercalate (compactParts tables (.obj object))

/-- `int(summary.get(key, 0))` of a summary, which holds integers. -/
def summaryCount (summary : Members) (key : String) : Int := (((Json.lookup summary key).getD (.int 0)).number).getD 0

/-- The states of a finding that is listed, with its place among the findings. -/
def conflictPriority (state : String) : Option Nat :=
  if state = "INVALID_OR_AMBIGUOUS_AUTHORITY" then some 0
  else if state = "UNRESOLVED_CONFLICT" then some 1
  else if state = "RESOLVED_BY_AUTHORITY" then some 2
  else none

/-- The exception that leaves a renderer. -/
inductive RenderError where
  | unicodeEncodeError
  deriving DecidableEq

def isSurrogate (c : CodePoint) : Bool := 0xD800 ≤ c.val && c.val < 0xE000

/-- `text.encode("utf-8")`, kept as the text: a surrogate has no encoding. -/
def utf8Encoded (text : List CodePoint) : Except RenderError String :=
  if text.any isSurrogate = true then .error .unicodeEncodeError
  else .ok (String.ofList (text.map fun c => Char.ofNat c.val))

variable (sha256 : String → String)

/-- A finding that is listed. -/
structure NotableConflict where
  priority : Nat
  result : Members
  assessment : Members
  object : Members
  property : List CodePoint

/-- The finding of one entry, if it is listed. Where its property is a text, `property` gives its code points. -/
def notableConflict (property : Option (List CodePoint)) (result assessment : Json) : Option NotableConflict :=
  match result, assessment with
  | .obj result, .obj assessment =>
    match conflictPriority (textOf tables result "state"), Json.get result "object" with
    | some priority, .obj object =>
      some ⟨priority, result, assessment, object, property.getD (ofChars (textOf tables result "property").toList)⟩
    | _, _ => none
  | _, _ => none

/-- The findings that are listed, in the order of the results. -/
def notableConflicts (properties : Nat → Option (List CodePoint)) (reviewResult : Members) : List NotableConflict :=
  let conflicts := objectMembers (Json.get reviewResult "conflicts")
  match Json.get conflicts "conflict_report", Json.get conflicts "reconciliation_assessments" with
  | .obj report, .arr assessments =>
    match Json.get report "results" with
    | .arr results =>
      if results.length ≠ assessments.length then []
      else (results.zip assessments).zipIdx.filterMap fun e => notableConflict tables (properties e.2) e.1.1 e.1.2
    | _ => []
  | _, _ => []

/-- One finding: its sort key and its line. -/
def conflictItem (finding : NotableConflict) : Except RenderError ((Nat ×ₗ String ×ₗ String) × String) := do
  let property ← utf8Encoded finding.property
  let state := textOf tables finding.result "state"
  let blocks := (Json.get finding.assessment "applicable").truthy &&
    !((Json.lookup finding.assessment "safe").getD (.bool true)).truthy
  let canonical := (Json.obj finding.object).canonicalJson
  let parts := ["kind=" ++ reviewSafeScalar (textOf tables finding.object "kind"),
    "logical_id=" ++ reviewSafeScalar (textOf tables finding.object "logical_id"),
    "property=" ++ reviewSafeScalar property, "state=" ++ reviewSafeScalar state,
    "reason=" ++ reviewSafeScalar (textOf tables finding.result "reason"),
    "object_identity=" ++ reviewSafeScalar (compactObjectIdentity tables finding.object),
    "object_identity_digest=" ++ reviewSafeScalar (sha256 canonical),
    "blocks_reconciliation=" ++ if blocks = true then "true" else "false"] ++
    if state = "RESOLVED_BY_AUTHORITY" then ["authority_resolved=true"] else []
  return (toLex (finding.priority, toLex (canonical ++ "\x00" ++ property, property)), "- " ++ " ".intercalate parts)

def reviewConflictItemLines (properties : Nat → Option (List CodePoint)) (reviewResult : Members) :
    Except RenderError (List String) := do
  let notable ← (notableConflicts tables properties reviewResult).mapM (conflictItem tables sha256)
  return (sortBy Prod.fst notable).map Prod.snd

/-- An unexpected change. -/
structure UnexpectedDrift where
  item : Members
  object : Members
  property : List CodePoint

/-- One change, if it is unexpected. Where its property is a text, `property` gives its code points. -/
def unexpectedDrift (property : Option (List CodePoint)) (item : Json) : Option UnexpectedDrift :=
  match item with
  | .obj item =>
    if Json.get item "classification" ≠ .str "unexpected_drift" then none
    else match Json.get item "object_identity" with
      | .obj object =>
        some ⟨item, object, property.getD (match Json.get item "property" with
          | .str text => ofChars text.toList
          | _ => [])⟩
      | _ => none
  | _ => none

def unexpectedDrifts (properties : Nat → Option (List CodePoint)) (driftResult : Option Members) :
    List UnexpectedDrift :=
  (listOf (Json.get (driftResult.getD []) "classified_changes")).zipIdx.filterMap
    fun e => unexpectedDrift (properties e.2) e.1

/-- One unexpected change: its sort key and its line. -/
def driftItem (change : UnexpectedDrift) : Except RenderError (String × String) := do
  let property ← utf8Encoded change.property
  let path := "/".intercalate ((listOf (Json.get change.object "path")).map (Json.pyStr tables.isPrintable))
  let parts := ["change=" ++ reviewSafeScalar (textOf tables change.item "change"),
    "kind=" ++ reviewSafeScalar (textOf tables change.object "kind"), "path=" ++ reviewSafeScalar path] ++
    (if property = "" then [] else ["property=" ++ reviewSafeScalar property]) ++
    ["reason=" ++ reviewSafeScalar (textOf tables change.item "reason")]
  return ((Json.obj change.object).canonicalJson ++ "\x00" ++ property, "- " ++ " ".intercalate parts)

def reviewDriftItemLines (properties : Nat → Option (List CodePoint)) (driftResult : Option Members) :
    Except RenderError (List String) := do
  let unexpected ← (unexpectedDrifts properties driftResult).mapM (driftItem tables)
  return (sortBy Prod.fst unexpected).map Prod.snd

/-- The texts of a document are texts of characters. Those under `property` may hold lone surrogates, too: the code
points of the texts under `property` of the results and of the classified changes are given by their places. -/
structure ReviewInput where
  reviewStatus : ActionStatus
  reviewResult : Option Members
  driftResult : Option Members
  failureCode : Option String
  artifactsRelative : Option String
  reviewResultPath : Option String
  comparisonResultPath : Option String
  driftResultPath : Option String
  conflictStatus : ConflictStatus
  driftStatus : DriftStatus
  resultProperties : Nat → Option (List CodePoint)
  changeProperties : Nat → Option (List CodePoint)

namespace ReviewInput

/-- The block of the review result under a key, unless its lane was not run. -/
def block (input : ReviewInput) (key : String) : Option Members :=
  match Json.get (input.reviewResult.getD []) key with
  | .obj members => if Json.get members "status" = .str "not_run" then none else some members
  | _ => none

/-- A review that failed before its drift lane is shown as failed there, too. -/
def reportDriftStatus (input : ReviewInput) : DriftStatus :=
  if input.reviewStatus = .failed ∧ input.driftStatus = .notRun ∧ (presentText input.failureCode).isSome = true then
    .failed
  else input.driftStatus

/-- The findings that are shown under a heading, and how many there are. -/
def findingLines (heading : String) (items : List String) (limit : Nat) (reference : String) : List String :=
  let shown := items.take limit
  (if shown = [] then [] else ["", heading] ++ shown) ++
    if shown.length < items.length then
      ["showing " ++ countText shown.length ++ " of " ++ countText items.length ++ "; see " ++
        reviewSafeScalar reference]
    else []

def conflictLines (input : ReviewInput) (conflicts : Members) (items : List String) : List String :=
  let summary := objectMembers (Json.get conflicts "summary")
  ["", "## Authority & conflicts", "Properties analyzed: " ++ countText (summaryCount summary "properties_analyzed"),
    "Resolved by authority: " ++ countText (summaryCount summary "resolved_by_authority"),
    "Unresolved conflicts: " ++ countText (summaryCount summary "unresolved_conflict"),
    "Invalid / ambiguous authority: " ++ countText (summaryCount summary "invalid_or_ambiguous_authority"),
    "Reconciliation blocked: " ++ countText (summaryCount summary "reconciliation_blocked")] ++
    findingLines "Notable conflict findings:" items maxReviewConflictItems
      ((presentText input.reviewResultPath).getD (underRoot input.artifactsRelative "review-result.json"))

def driftLines (input : ReviewInput) (drift : Members) (items : List String) : List String :=
  let summary := objectMembers (Json.get drift "summary")
  ["", "## Drift", "Baseline snapshot: " ++ digestDisplay (Json.get drift "baseline_snapshot_identity"),
    "Candidate snapshot: " ++ digestDisplay (Json.get drift "candidate_snapshot_identity"),
    "Status: " ++ reviewSafeScalar (textOf tables drift "status"),
    "Expected differences: " ++ countText (summaryCount summary "expected_differences"),
    "Unexpected drift: " ++ countText (summaryCount summary "unexpected_drift"),
    "Affected objects: " ++ countText (summaryCount summary "affected_objects"),
    "Property drift: " ++ countText (summaryCount summary "property_drift")] ++
    findingLines "Unexpected drift findings:" items maxReviewDriftItems
      ((presentText input.driftResultPath).getD (underRoot input.artifactsRelative "drift-result.json"))

/-- The lines of the report, with those of its findings. -/
def linesWith (input : ReviewInput) (conflictItems driftItems : List String) : List String :=
  ["# Governance as Code — Review", "", "## Status", "REVIEW: " ++ input.reviewStatus.label,
    "CONFLICTS: " ++ input.conflictStatus.label, "DRIFT: " ++ input.reportDriftStatus.label,
    "EXECUTION: NOT REQUESTED", "Writes performed: 0"] ++
    (presentText input.failureCode).toList.map (fun code => "Failure: " ++ reviewSafeScalar code) ++
    ((input.block "conflicts").map fun conflicts => input.conflictLines conflicts conflictItems).getD [] ++
    ((input.block "drift").map fun drift => input.driftLines tables drift driftItems).getD [] ++
    ["", "## Artifacts", match presentText input.reviewResultPath with
      | some path => "- review-result: " ++ reviewSafeScalar path
      | none => "- review-result: (none)"] ++
    (presentText input.comparisonResultPath).toList.map
      (fun path => "- comparison-result: " ++ reviewSafeScalar path) ++
    (presentText input.driftResultPath).toList.map (fun path => "- drift-result: " ++ reviewSafeScalar path)

def conflictItems (input : ReviewInput) : Except RenderError (List String) :=
  if (input.block "conflicts").isSome = true then
    reviewConflictItemLines tables sha256 input.resultProperties (input.reviewResult.getD [])
  else .ok []

def driftItems (input : ReviewInput) : Except RenderError (List String) :=
  if (input.block "drift").isSome = true then reviewDriftItemLines tables input.changeProperties input.driftResult
  else .ok []

end ReviewInput

def renderReviewReport (input : ReviewInput) : Except RenderError String := do
  let conflictItems ← input.conflictItems tables sha256
  let driftItems ← input.driftItems tables
  return joinLines (input.linesWith tables conflictItems driftItems)

end Renderers
end CollibraGovernance.GithubCi
