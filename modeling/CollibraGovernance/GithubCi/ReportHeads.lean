import CollibraGovernance.GithubCi.Report

/-! The literal heads of report lines, which depend on counts and statuses only. -/
namespace CollibraGovernance.GithubCi
open Library

/-! ### Erasing texts -/

/-- What is left of an untrusted text: whether it is empty. -/
def eraseText (text : String) : String := if text = "" then "" else "text"

/-- The members that hold statuses. -/
def statusKeys : List String := ["severity", "action_type", "state", "status", "classification"]

mutual
/-- All texts but the statuses are erased. -/
def eraseTexts : Json → Json
  | .str s => .str (eraseText s)
  | .arr items => .arr (eraseItems items)
  | .obj members => .obj (eraseMembers members)
  | .null => .null
  | .bool b => .bool b
  | .int i => .int i
  | .float f => .float f

def eraseItems : List Json → List Json
  | [] => []
  | j :: js => eraseTexts j :: eraseItems js

def eraseMembers : List (String × Json) → List (String × Json)
  | [] => []
  | (k, j) :: ms => (k, if k ∈ statusKeys then j else eraseTexts j) :: eraseMembers ms
end

@[simp] lemma eraseItems_eq_map (items : List Json) : eraseItems items = items.map eraseTexts := by
  induction items with
  | nil => rfl
  | cons j js ih => rw [eraseItems, ih, List.map_cons]

lemma lookup_eraseMembers (members : Members) (key : String) :
    Json.lookup (eraseMembers members) key =
      (Json.lookup members key).map fun j => if key ∈ statusKeys then j else eraseTexts j := by
  induction members with
  | nil => rfl
  | cons m ms ih =>
    obtain ⟨k, j⟩ := m
    rw [eraseMembers]
    by_cases hk : k = key
    · subst hk
      rw [Json.lookup_cons_self, Json.lookup_cons_self, Option.map_some]
    · have hskip : ∀ v rest, Json.lookup ((k, v) :: rest) key = Json.lookup rest key := by
        intro v rest
        unfold Json.lookup
        rw [List.find?_cons_of_neg (by simpa using hk)]
      rw [hskip, hskip, ih]

lemma lookup_status {key : String} (h : key ∈ statusKeys) (members : Members) :
    Json.lookup (eraseMembers members) key = Json.lookup members key := by
  rw [lookup_eraseMembers]
  simp only [h, if_true, Option.map_id']

lemma get_status {key : String} (h : key ∈ statusKeys) (members : Members) :
    Json.get (eraseMembers members) key = Json.get members key := by
  rw [Json.get, Json.get, lookup_status h]

lemma get_erased {key : String} (h : key ∉ statusKeys) (members : Members) :
    Json.get (eraseMembers members) key = eraseTexts (Json.get members key) := by
  rw [Json.get, Json.get, lookup_eraseMembers]
  cases Json.lookup members key with
  | none => rfl
  | some j =>
    rw [Option.map_some, if_neg h]
    rfl

@[simp] lemma listOf_erased (j : Json) : listOf (eraseTexts j) = (listOf j).map eraseTexts := by
  cases j with
  | arr items =>
    rw [eraseTexts, eraseItems_eq_map]
    rfl
  | _ => rfl

@[simp] lemma objectMembers_erased (j : Json) : objectMembers (eraseTexts j) = eraseMembers (objectMembers j) := by
  cases j <;> rfl

@[simp] lemma mappings_erased (items : List Json) :
    Odcs.mappings (items.map eraseTexts) = (Odcs.mappings items).map eraseMembers := by
  induction items with
  | nil => rfl
  | cons j js ih =>
    cases j with
    | obj members => exact congrArg (eraseMembers members :: ·) ih
    | _ => exact ih

@[simp] lemma getD_erased (document : Option Members) :
    (document.map eraseMembers).getD [] = eraseMembers (document.getD []) := by
  cases document <;> rfl

lemma isSome_presentText_erased (text : Option String) :
    (presentText (text.map eraseText)).isSome = (presentText text).isSome := by
  cases text with
  | none => rfl
  | some t =>
    unfold presentText eraseText
    by_cases h : t = "" <;> simp [Option.filter, h]

/-- One head for a text that is there. -/
def optionalHead (head : String) (present : Bool) : List String := if present = true then [head] else []

/-! ### The report -/

def eraseAction (result : ActionResult) : ActionResult :=
  { result with
    failureCode := result.failureCode.map eraseText
    policy := { result.policy with resultPath := result.policy.resultPath.map eraseText }
    plan := { result.plan with
      planPath := result.plan.planPath.map eraseText, resultPath := result.plan.resultPath.map eraseText } }

/-- The heads of a list of which some items are shown, and a last line when there are more. -/
def listHeads (head omittedHead : String) (shown : Nat) (more : Bool) : List String :=
  List.replicate shown head ++ optionalHead omittedHead more

namespace ReportInput

def erased (input : ReportInput) : ReportInput :=
  ⟨eraseAction input.actionResult, input.policyReport.map eraseMembers, input.planDict.map eraseMembers,
    input.artifactsRelative.map eraseText⟩

def heads (tables : CharTables) (input : ReportInput) : List String :=
  let result := input.actionResult
  ["# Governance as Code", "", "## Status", "OVERALL: " ++ result.status.label,
    "CONFIGURATION: " ++ result.validation.label, "POLICY: " ++ result.policy.status.label,
    "PLAN: " ++ result.plan.status.label, "EXECUTION: NOT REQUESTED", "Writes performed: 0", "", "## Policy",
    "Violations: "] ++
    listHeads "- " "- … omitted " (Odcs.mappings (input.violations.take maxMarkdownViolations)).length
      (maxMarkdownViolations < input.violations.length) ++
    (["", "## Plan", "Create: ", "Update: ", "Unchanged: ", "Remote only: "] ++
      listHeads "- " "- … omitted " (min maxMarkdownPlanActions (input.actions tables).length)
        (maxMarkdownPlanActions < (input.actions tables).length)) ++
    (["", "## Artifacts", "- action-result: "] ++
      optionalHead "- policy-result: " (presentText result.policy.resultPath).isSome ++
      optionalHead "- plan: " input.planReference.isSome)

end ReportInput

/-! ### Annotations -/

def annotationHeads (actionResult : ActionResult) (policyReport : Option Members) : List String :=
  let violations := Odcs.mappings (listOf (Json.get (policyReport.getD []) "violations"))
  let of severity := violations.countP fun item => Json.get item "severity" = .str severity
  let candidates := optionalHead "::error::" (actionResult.status = .failed) ++
    List.replicate (of "error") "::error::" ++ List.replicate (of "warning") "::warning::"
  if candidates.length ≤ maxAnnotations then candidates
  else candidates.take (maxAnnotations - 1) ++ ["::warning::"]

/-! ### The impact report -/

/-- The heads of one section. -/
def sectionHeads (title : String) (count limit : Nat) : List String :=
  ["", "## " ++ title] ++
    if count = 0 then ["(none)"] else listHeads "- " "- showing " (min limit count) (limit < count)

def diagnosticHeads (diagnostic : Members) : List String :=
  let errors := listOf (Json.get diagnostic "errors")
  ["", "## Diagnostics"] ++
    if errors.length = 0 then ["- impact analysis failed"]
    else listHeads "- code=" "- showing " (Odcs.mappings (errors.take maxImpactListItems)).length
      (maxImpactListItems < errors.length)

namespace ImpactInput

def erased (input : ImpactInput) : ImpactInput :=
  ⟨input.impactStatus, input.impactResult.map eraseMembers, input.impactResultPath.map eraseText,
    input.failureCode.map eraseText, input.diagnostic.map eraseMembers, input.artifactsRelative.map eraseText⟩

def heads (tables : CharTables) (input : ImpactInput) : List String :=
  ["# Governance as Code — Impact", "", "## Status", "IMPACT: " ++ input.impactStatus.label,
    "EXECUTION: NOT REQUESTED", "Writes performed: 0"] ++
    optionalHead "Failure: " (presentText input.failureCode).isSome ++
    (if input.impactStatus = .clear ∨ input.impactStatus = .impacted then
      ["", "## Counts"] ++ (input.counts tables).map Prod.fst ++
        (input.sections tables).flatMap fun e => sectionHeads e.1 e.2.1.length e.2.2
    else (input.diagnostic.map diagnosticHeads).getD []) ++
    ["", "## Artifacts", "- impact-result: "]

end ImpactInput

/-! ### The review report -/

namespace ReviewInput

/-- Code points are erased up to whether there are any. -/
def eraseCodePoints (text : List CodePoint) : List CodePoint := if text = [] then [] else ofChars "text".toList

def erased (input : ReviewInput) : ReviewInput :=
  ⟨input.reviewStatus, input.reviewResult.map eraseMembers, input.driftResult.map eraseMembers,
    input.failureCode.map eraseText, input.artifactsRelative.map eraseText, input.reviewResultPath.map eraseText,
    input.comparisonResultPath.map eraseText, input.driftResultPath.map eraseText, input.conflictStatus,
    input.driftStatus, fun place => (input.resultProperties place).map eraseCodePoints,
    fun place => (input.changeProperties place).map eraseCodePoints⟩

/-- The heads of the findings under a heading. -/
def findingHeads (heading head : String) (count limit : Nat) : List String :=
  (if min limit count = 0 then [] else ["", heading] ++ List.replicate (min limit count) head) ++
    optionalHead "showing " (limit < count)

def heads (tables : CharTables) (input : ReviewInput) : List String :=
  ["# Governance as Code — Review", "", "## Status", "REVIEW: " ++ input.reviewStatus.label,
    "CONFLICTS: " ++ input.conflictStatus.label, "DRIFT: " ++ input.reportDriftStatus.label,
    "EXECUTION: NOT REQUESTED", "Writes performed: 0"] ++
    optionalHead "Failure: " (presentText input.failureCode).isSome ++
    (if (input.block "conflicts").isSome = true then
      ["", "## Authority & conflicts", "Properties analyzed: ", "Resolved by authority: ", "Unresolved conflicts: ",
        "Invalid / ambiguous authority: ", "Reconciliation blocked: "] ++
        findingHeads "Notable conflict findings:" "- kind="
          (notableConflicts tables input.resultProperties (input.reviewResult.getD [])).length maxReviewConflictItems
    else []) ++
    (if (input.block "drift").isSome = true then
      ["", "## Drift", "Baseline snapshot: ", "Candidate snapshot: ", "Status: ", "Expected differences: ",
        "Unexpected drift: ", "Affected objects: ", "Property drift: "] ++
        findingHeads "Unexpected drift findings:" "- change="
          (unexpectedDrifts input.changeProperties input.driftResult).length maxReviewDriftItems
    else []) ++
    ["", "## Artifacts", "- review-result: "] ++
    optionalHead "- comparison-result: " (presentText input.comparisonResultPath).isSome ++
    optionalHead "- drift-result: " (presentText input.driftResultPath).isSome

end ReviewInput

/-! ### Heads do not depend on texts -/

lemma textOf_status (tables : CharTables) {key : String} (h : key ∈ statusKeys) (members : Members) :
    textOf tables (eraseMembers members) key = textOf tables members key := by
  rw [textOf, textOf, lookup_status h]

lemma violations_erased (input : ReportInput) : input.erased.violations = input.violations.map eraseTexts := by
  unfold ReportInput.violations ReportInput.erased
  rw [getD_erased, get_erased (by decide), listOf_erased]

lemma isSome_planActionLine_erased (tables : CharTables) (item : Members) :
    (planActionLine tables (eraseMembers item)).isSome = (planActionLine tables item).isSome := by
  unfold planActionLine
  rw [Option.isSome_map, Option.isSome_map, plannedAction, plannedAction,
    get_status (show "action_type" ∈ statusKeys by decide)]

lemma length_filterMap_erased {α β γ : Type} {f : α → Option β} {g : γ → Option β} {e : α → γ}
    (h : ∀ a, (g (e a)).isSome = (f a).isSome) (xs : List α) :
    ((xs.map e).filterMap g).length = (xs.filterMap f).length := by
  rw [List.length_filterMap_eq_countP, List.length_filterMap_eq_countP, List.countP_map]
  exact congrFun (congrArg List.countP (funext h)) xs

lemma length_actions_erased (tables : CharTables) (input : ReportInput) :
    (input.erased.actions tables).length = (input.actions tables).length := by
  unfold ReportInput.actions
  rw [show input.erased.actionResult.plan.status = input.actionResult.plan.status from rfl]
  split_ifs
  · unfold planActionLines
    rw [show input.erased.planDict = input.planDict.map eraseMembers from rfl, getD_erased, get_erased (by decide),
      listOf_erased, mappings_erased]
    exact length_filterMap_erased (isSome_planActionLine_erased tables) _
  · rfl

lemma isSome_planReference_erased (input : ReportInput) :
    input.erased.planReference.isSome = input.planReference.isSome := by
  unfold ReportInput.planReference
  rw [Option.isSome_or, Option.isSome_or]
  exact congrArg₂ (· || ·) (isSome_presentText_erased _) (isSome_presentText_erased _)

theorem ReportInput.heads_erased (tables : CharTables) (input : ReportInput) :
    input.erased.heads tables = input.heads tables := by
  unfold heads
  dsimp only
  rw [violations_erased, length_actions_erased, isSome_planReference_erased, ← List.map_take, mappings_erased,
    List.length_map, List.length_map,
    show (presentText input.erased.actionResult.policy.resultPath).isSome =
      (presentText input.actionResult.policy.resultPath).isSome from isSome_presentText_erased _]
  rfl

theorem annotationHeads_erased (actionResult : ActionResult) (policyReport : Option Members) :
    annotationHeads (eraseAction actionResult) (policyReport.map eraseMembers) =
      annotationHeads actionResult policyReport := by
  unfold annotationHeads
  rw [getD_erased, get_erased (by decide), listOf_erased, mappings_erased]
  simp only [List.countP_map, Function.comp_def, get_status (show "severity" ∈ statusKeys by decide)]
  rfl

lemma length_identityLines_erased (tables : CharTables) (nodes : Json) :
    (identityLines tables (eraseTexts nodes)).length = (identityLines tables nodes).length := by
  simp only [identityLines, listOf_erased, mappings_erased, List.length_map]

lemma length_policyLines_erased (tables : CharTables) (policies : Json) :
    (policyLines tables (eraseTexts policies)).length = (policyLines tables policies).length := by
  simp only [policyLines, listOf_erased, mappings_erased, List.length_map]

lemma length_pathLines_erased (tables : CharTables) (paths : Json) :
    (pathLines tables (eraseTexts paths)).length = (pathLines tables paths).length := by
  simp only [pathLines, listOf_erased, mappings_erased, List.length_map]

lemma payload_erased (input : ImpactInput) : input.erased.payload = eraseMembers input.payload := by
  unfold ImpactInput.payload ImpactInput.erased
  rw [getD_erased, get_erased (by decide), objectMembers_erased]

lemma diagnosticHeads_erased (diagnostic : Members) :
    diagnosticHeads (eraseMembers diagnostic) = diagnosticHeads diagnostic := by
  unfold diagnosticHeads
  rw [get_erased (by decide), listOf_erased]
  simp only [← List.map_take, mappings_erased, List.length_map]

/-- The section heads, from the numbers of the entries. -/
lemma sections_erased (tables : CharTables) (input : ImpactInput) :
    (input.erased.sections tables).map (fun e => (e.1, e.2.1.length, e.2.2)) =
      (input.sections tables).map (fun e => (e.1, e.2.1.length, e.2.2)) := by
  unfold ImpactInput.sections
  rw [payload_erased, show input.erased.impactResult = input.impactResult.map eraseMembers from rfl, getD_erased]
  simp only [List.map_cons, List.map_nil, get_erased (show "changed_nodes" ∉ statusKeys by decide),
    get_erased (show "direct_nodes" ∉ statusKeys by decide),
    get_erased (show "transitive_nodes" ∉ statusKeys by decide),
    get_erased (show "governance_assets" ∉ statusKeys by decide),
    get_erased (show "associated_contracts" ∉ statusKeys by decide),
    get_erased (show "affected_policies" ∉ statusKeys by decide), get_erased (show "paths" ∉ statusKeys by decide),
    length_identityLines_erased, length_policyLines_erased, length_pathLines_erased]

theorem ImpactInput.heads_erased (tables : CharTables) (input : ImpactInput) :
    input.erased.heads tables = input.heads tables := by
  have hsections : (input.erased.sections tables).flatMap (fun e => sectionHeads e.1 e.2.1.length e.2.2) =
      (input.sections tables).flatMap fun e => sectionHeads e.1 e.2.1.length e.2.2 := by
    have h := congrArg (List.flatMap fun e : String × Nat × Nat => sectionHeads e.1 e.2.1 e.2.2)
      (sections_erased tables input)
    rwa [List.flatMap_map, List.flatMap_map] at h
  have hdiagnostic : (input.erased.diagnostic.map diagnosticHeads).getD [] =
      (input.diagnostic.map diagnosticHeads).getD [] := by
    rw [show input.erased.diagnostic = input.diagnostic.map eraseMembers from rfl, Option.map_map,
      show diagnosticHeads ∘ eraseMembers = diagnosticHeads from funext diagnosticHeads_erased]
  unfold heads
  rw [hsections, hdiagnostic, show (presentText input.erased.failureCode).isSome =
    (presentText input.failureCode).isSome from isSome_presentText_erased _]
  rfl

lemma block_erased (input : ReviewInput) {key : String} (hkey : key ∉ statusKeys) :
    (input.erased.block key).isSome = (input.block key).isSome := by
  unfold ReviewInput.block ReviewInput.erased
  rw [getD_erased, get_erased hkey]
  cases Json.get (input.reviewResult.getD []) key with
  | obj members =>
    rw [eraseTexts]
    dsimp only
    rw [get_status (by decide)]
    split_ifs <;> rfl
  | _ => rfl

lemma isSome_notableConflict_erased (tables : CharTables) (property property' : Option (List CodePoint))
    (result assessment : Json) :
    (notableConflict tables property (eraseTexts result) (eraseTexts assessment)).isSome =
      (notableConflict tables property' result assessment).isSome := by
  cases result with
  | obj r =>
    cases assessment with
    | obj a =>
      rw [eraseTexts, eraseTexts]
      unfold notableConflict
      dsimp only
      rw [textOf_status tables (by decide), get_erased (by decide)]
      cases conflictPriority (textOf tables r "state") with
      | none => rfl
      | some priority => cases Json.get r "object" <;> rfl
    | _ => rfl
  | _ => rfl

/-- Entries that are kept alike, whatever their properties, are as many. -/
lemma length_filterMap_zipIdx_erased {α β γ : Type} {f : Nat → α → Option β} {g : Nat → γ → Option β} {e : α → γ}
    (h : ∀ n m a, (g n (e a)).isSome = (f m a).isSome) (xs : List α) :
    ((xs.map e).zipIdx.filterMap fun x => g x.2 x.1).length = (xs.zipIdx.filterMap fun x => f x.2 x.1).length := by
  rw [List.zipIdx_map]
  exact length_filterMap_erased (fun x : α × Nat => h x.2 x.2 x.1) _

lemma length_notableConflicts_erased (tables : CharTables) (properties properties' : Nat → Option (List CodePoint))
    (reviewResult : Members) :
    (notableConflicts tables properties (eraseMembers reviewResult)).length =
      (notableConflicts tables properties' reviewResult).length := by
  unfold notableConflicts
  rw [get_erased (by decide), objectMembers_erased]
  dsimp only
  rw [get_erased (by decide), get_erased (by decide)]
  cases Json.get (objectMembers (Json.get reviewResult "conflicts")) "conflict_report" with
  | obj report =>
    cases Json.get (objectMembers (Json.get reviewResult "conflicts")) "reconciliation_assessments" with
    | arr assessments =>
      rw [eraseTexts, eraseTexts, eraseItems_eq_map]
      dsimp only
      rw [get_erased (by decide)]
      cases Json.get report "results" with
      | arr results =>
        rw [eraseTexts, eraseItems_eq_map]
        dsimp only
        rw [List.length_map, List.length_map]
        split_ifs
        · rfl
        · rw [List.zip_map]
          exact length_filterMap_zipIdx_erased (f := fun n e => notableConflict tables (properties' n) e.1 e.2)
            (g := fun n e => notableConflict tables (properties n) e.1 e.2) (e := Prod.map eraseTexts eraseTexts)
            (fun n m e => isSome_notableConflict_erased tables (properties n) (properties' m) e.1 e.2) _
      | _ => rfl
    | _ => rfl
  | _ => rfl

lemma isSome_unexpectedDrift_erased (property property' : Option (List CodePoint)) (item : Json) :
    (unexpectedDrift property (eraseTexts item)).isSome = (unexpectedDrift property' item).isSome := by
  cases item with
  | obj item =>
    rw [eraseTexts]
    unfold unexpectedDrift
    dsimp only
    rw [get_status (by decide), get_erased (show "object_identity" ∉ statusKeys by decide)]
    split_ifs
    · rfl
    · cases Json.get item "object_identity" <;> rfl
  | _ => rfl

lemma length_unexpectedDrifts_erased (properties properties' : Nat → Option (List CodePoint))
    (driftResult : Option Members) :
    (unexpectedDrifts properties (driftResult.map eraseMembers)).length =
      (unexpectedDrifts properties' driftResult).length := by
  unfold unexpectedDrifts
  rw [getD_erased, get_erased (by decide), listOf_erased]
  exact length_filterMap_zipIdx_erased
    (fun n m item => isSome_unexpectedDrift_erased (properties n) (properties' m) item) _

lemma reportDriftStatus_erased (input : ReviewInput) : input.erased.reportDriftStatus = input.reportDriftStatus := by
  unfold ReviewInput.reportDriftStatus
  rw [show (presentText input.erased.failureCode).isSome = (presentText input.failureCode).isSome from
    isSome_presentText_erased _]
  rfl

theorem ReviewInput.heads_erased (tables : CharTables) (input : ReviewInput) :
    input.erased.heads tables = input.heads tables := by
  unfold heads
  rw [block_erased input (by decide), block_erased input (by decide), reportDriftStatus_erased,
    show input.erased.reviewResult = input.reviewResult.map eraseMembers from rfl, getD_erased,
    length_notableConflicts_erased tables input.erased.resultProperties input.resultProperties,
    show input.erased.driftResult = input.driftResult.map eraseMembers from rfl,
    length_unexpectedDrifts_erased input.erased.changeProperties input.changeProperties,
    show (presentText input.erased.failureCode).isSome = (presentText input.failureCode).isSome from
      isSome_presentText_erased _,
    show (presentText input.erased.comparisonResultPath).isSome = (presentText input.comparisonResultPath).isSome from
      isSome_presentText_erased _,
    show (presentText input.erased.driftResultPath).isSome = (presentText input.driftResultPath).isSome from
      isSome_presentText_erased _]
  rfl

end CollibraGovernance.GithubCi
