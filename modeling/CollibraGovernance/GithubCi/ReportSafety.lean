import CollibraGovernance.GithubCi.ReportLines

/-! Untrusted texts cannot add lines to annotations, impact reports and review reports, and what this leaves of
the report of violations and plan. -/
namespace CollibraGovernance.GithubCi
open Library

variable (tables : CharTables) (sha256 : String → String)

/-! ### Annotations -/

section Annotations
variable (actionResult : ActionResult) (policyReport : Option Members)

lemma annotateViolation_some {severity command line : String} {item : Members}
    (h : annotateViolation tables severity command item = some line) :
    line = command ++ escapeWorkflowCommand (violationLine tables item) := by
  unfold annotateViolation at h
  split_ifs at h
  cases h
  rfl

lemma starts_violationAnnotations (severity command : String) (violations : List Members) :
    Starts (List.replicate (violations.countP fun item => Json.get item "severity" = .str severity) command)
      (violations.filterMap (annotateViolation tables severity command)) := by
  have hlength : (violations.filterMap (annotateViolation tables severity command)).length =
      violations.countP fun item => Json.get item "severity" = .str severity := by
    rw [List.length_filterMap_eq_countP]
    refine List.countP_congr fun item _ => ?_
    unfold annotateViolation
    split_ifs with h <;> simp [h]
  rw [← hlength]
  refine starts_of_forall fun line hline => ?_
  obtain ⟨item, -, hsome⟩ := List.mem_filterMap.mp hline
  rw [annotateViolation_some tables hsome]
  exact prefix_append_text _ _

lemma starts_annotations :
    Starts (annotationHeads actionResult policyReport) (buildAnnotations tables actionResult policyReport) := by
  unfold annotationHeads buildAnnotations
  dsimp only
  set violations := Odcs.mappings (listOf (Json.get (policyReport.getD []) "violations")) with hviolations
  set heads := optionalHead "::error::" (decide (actionResult.status = .failed)) ++
    List.replicate (violations.countP fun item => Json.get item "severity" = .str "error") "::error::" ++
    List.replicate (violations.countP fun item => Json.get item "severity" = .str "warning") "::warning::" with hheads
  have hcandidates : Starts heads (annotationCandidates tables actionResult policyReport) := by
    unfold annotationCandidates
    refine starts_append (starts_append ?_ ?_) ?_
    · exact starts_if (prefix_append_text _ _)
    · exact starts_violationAnnotations tables "error" "::error::" violations
    · exact starts_violationAnnotations tables "warning" "::warning::" violations
  rw [← hcandidates.length_eq]
  split_ifs
  · exact hcandidates
  · exact starts_append (List.forall₂_take _ hcandidates) (starts_cons starts_nil)

lemma allLines_violationAnnotations {severity command : String} (h : IsLine command) (violations : List Members) :
    AllLines (violations.filterMap (annotateViolation tables severity command)) := by
  intro line hline
  obtain ⟨item, -, hsome⟩ := List.mem_filterMap.mp hline
  rw [annotateViolation_some tables hsome, isLine_append]
  exact ⟨h, isLine_escapeWorkflowCommand _⟩

lemma allLines_annotations : AllLines (buildAnnotations tables actionResult policyReport) := by
  have hcandidates : AllLines (annotationCandidates tables actionResult policyReport) := by
    unfold annotationCandidates
    dsimp only
    rw [allLines_append, allLines_append]
    refine ⟨⟨?_, allLines_violationAnnotations tables (by decide) _⟩,
      allLines_violationAnnotations tables (by decide) _⟩
    split_ifs
    · simp only [allLines_cons, allLines_nil, isLine_append, isLine_escapeWorkflowCommand]
      decide
    · exact allLines_nil
  unfold buildAnnotations
  dsimp only
  split_ifs
  · exact hcandidates
  · rw [allLines_append]
    refine ⟨fun line hline => hcandidates line (List.mem_of_mem_take hline), ?_⟩
    simp only [allLines_cons, allLines_nil, isLine_append, isLine_escapeWorkflowCommand]
    decide

end Annotations

/-! ### The impact report -/

lemma allLines_optional {f : String → String} {text : Option String} (h : ∀ t, IsLine (f t)) :
    AllLines (text.toList.map f) := allLines_map.mpr fun t _ => h t

lemma starts_section (title : String) (items : List String) (limit : Nat) (path : String) :
    Starts (sectionHeads title items.length limit) (boundedListSection tables title items limit path) := by
  unfold sectionHeads boundedListSection
  refine starts_append (starts_self_cons (starts_self_cons starts_nil)) ?_
  by_cases h : items = []
  · rw [if_pos h, if_pos (by rw [h]; rfl)]
    exact starts_self_cons starts_nil
  · rw [if_neg h, if_neg (by rwa [List.length_eq_zero_iff]), listHeads, ← List.length_take]
    refine starts_append (starts_map _) ?_
    simp only [String.append_assoc]
    exact starts_if (prefix_append_text _ _)

lemma allLines_section {title : String} (h : IsLine title) (items : List String) (limit : Nat) (path : String) :
    AllLines (boundedListSection tables title items limit path) := by
  unfold boundedListSection
  rw [allLines_append]
  refine ⟨?_, ?_⟩
  · simp only [allLines_cons, allLines_nil, isLine_append, h, and_true]
    decide
  · by_cases hitems : items = []
    · rw [if_pos hitems]
      decide
    · rw [if_neg hitems, allLines_append, allLines_map]
      refine ⟨fun entry _ => isLine_append.mpr ⟨by decide, isLine_impactSafeDisplay _ _⟩, allLines_if ?_⟩
      simp only [allLines_cons, allLines_nil, isLine_append, isLine_impactSafeDisplay, isLine_countText]
      decide

namespace ImpactInput
variable (input : ImpactInput)

lemma starts_diagnosticLine (item : Members) : "- code=".toList <+: (diagnosticLine tables item).toList := by
  unfold diagnosticLine
  simp only [String.append_assoc]
  exact prefix_append_text _ _

lemma starts_diagnosticLines (diagnostic : Members) :
    Starts (diagnosticHeads diagnostic) (diagnosticLines tables diagnostic) := by
  unfold diagnosticHeads diagnosticLines
  dsimp only
  refine starts_append (starts_self_cons (starts_self_cons starts_nil)) ?_
  by_cases h : listOf (Json.get diagnostic "errors") = []
  · rw [if_pos h, if_pos (by rw [h]; rfl)]
    exact starts_self_cons starts_nil
  · rw [if_neg h, if_neg (by rwa [List.length_eq_zero_iff]), listHeads]
    refine starts_append ?_ ?_
    · have hstarts := starts_of_forall (List.forall_mem_map.mpr fun item
        (_ : item ∈ Odcs.mappings ((listOf (Json.get diagnostic "errors")).take maxImpactListItems)) =>
          starts_diagnosticLine tables item)
      rwa [List.length_map] at hstarts
    · have hlt : ((listOf (Json.get diagnostic "errors")).take maxImpactListItems).length <
          (listOf (Json.get diagnostic "errors")).length ↔
          maxImpactListItems < (listOf (Json.get diagnostic "errors")).length := by
        rw [List.length_take]
        omega
      simp only [hlt, String.append_assoc]
      exact starts_if (prefix_append_text _ _)

lemma allLines_diagnosticLines (diagnostic : Members) : AllLines (diagnosticLines tables diagnostic) := by
  unfold diagnosticLines
  dsimp only
  rw [allLines_append]
  refine ⟨by decide, ?_⟩
  have hitems : ∀ items : List Members, AllLines (items.map (diagnosticLine tables)) := by
    intro items
    refine allLines_map.mpr fun item _ => ?_
    unfold diagnosticLine
    simp only [isLine_append, isLine_impactSafeDisplay]
    decide
  split_ifs
  · exact allLines_cons.mpr ⟨by decide, allLines_nil⟩
  · rw [allLines_append]
    refine ⟨hitems _, ?_⟩
    simp only [allLines_cons, allLines_nil, isLine_append, isLine_countText]
    decide
  · rw [allLines_append]
    exact ⟨hitems _, allLines_nil⟩

lemma starts_sections (reference : String) (sections : List (String × List String × Nat)) :
    Starts (sections.flatMap fun e => sectionHeads e.1 e.2.1.length e.2.2)
      (sections.flatMap fun e => boundedListSection tables e.1 e.2.1 e.2.2 reference) := by
  induction sections with
  | nil => exact starts_nil
  | cons e es ih => exact starts_append (starts_section tables e.1 e.2.1 e.2.2 reference) ih

lemma starts_counts (counts : List (String × List String)) :
    Starts (counts.map Prod.fst) (counts.map fun e => e.1 ++ countText e.2.length) := by
  induction counts with
  | nil => exact starts_nil
  | cons e es ih => exact starts_cons ih

lemma starts_heads : Starts (input.heads tables) (input.lines tables) := by
  unfold heads lines
  refine starts_append (starts_append (starts_append ?_ (starts_optional _)) ?_) ?_
  · iterate 6 refine starts_self_cons ?_
    exact starts_nil
  · split_ifs
    · rw [List.append_assoc, List.append_assoc]
      exact starts_append (starts_self_cons (starts_self_cons starts_nil))
        (starts_append (starts_counts _) (starts_sections tables _ _))
    · cases input.diagnostic with
      | none => exact starts_nil
      | some diagnostic => exact starts_diagnosticLines tables diagnostic
  · refine starts_self_cons (starts_self_cons ?_)
    cases presentText input.impactResultPath with
    | none => exact List.Forall₂.cons (prefix_append_text "- impact-result: " "(none)") starts_nil
    | some path => exact starts_cons starts_nil

lemma isLine_sectionTitles : ∀ e ∈ input.sections tables, IsLine e.1 := by
  unfold sections
  simp only [List.forall_mem_cons]
  refine ⟨by decide, by decide, by decide, by decide, by decide, by decide, by decide, ?_⟩
  exact fun _ h => absurd h List.not_mem_nil

lemma isLine_countLabels : ∀ e ∈ input.counts tables, IsLine e.1 := by
  unfold counts
  simp only [List.forall_mem_cons]
  refine ⟨by decide, by decide, by decide, by decide, by decide, by decide, ?_⟩
  exact fun _ h => absurd h List.not_mem_nil

lemma allLines_lines : AllLines (input.lines tables) := by
  have hstatus : IsLine input.impactStatus.label := by cases input.impactStatus <;> decide
  unfold lines
  rw [allLines_append, allLines_append, allLines_append]
  refine ⟨⟨⟨?_, ?_⟩, ?_⟩, ?_⟩
  · simp only [allLines_cons, allLines_nil, isLine_append, hstatus, and_true]
    decide
  · exact allLines_optional fun code => isLine_append.mpr ⟨by decide, isLine_impactSafeDisplay _ _⟩
  · split_ifs
    · rw [allLines_append, allLines_append, allLines_map]
      refine ⟨⟨by decide, fun e he => ?_⟩, fun line hline => ?_⟩
      · exact isLine_append.mpr ⟨isLine_countLabels tables input e he, isLine_countText _⟩
      · obtain ⟨e, he, hline⟩ := List.mem_flatMap.mp hline
        exact allLines_section tables (isLine_sectionTitles tables input e he) _ _ _ line hline
    · cases input.diagnostic with
      | none => exact allLines_nil
      | some diagnostic => exact allLines_diagnosticLines tables diagnostic
  · refine allLines_cons.mpr ⟨by decide, allLines_cons.mpr ⟨by decide, allLines_cons.mpr ⟨?_, allLines_nil⟩⟩⟩
    cases presentText input.impactResultPath with
    | none => exact (by decide : IsLine "- impact-result: (none)")
    | some path => exact isLine_append.mpr ⟨by decide, isLine_impactSafeDisplay _ _⟩

lemma inert_sectionHeads {title : String} (h : inert sameLetter appliedWord ("## " ++ title).toList = true)
    (count limit : Nat) : Inert (sectionHeads title count limit) := by
  unfold sectionHeads
  rw [inert_append]
  refine ⟨inert_cons.mpr ⟨by decide, inert_cons.mpr ⟨h, inert_nil⟩⟩, ?_⟩
  split_ifs
  · exact inert_cons.mpr ⟨by decide, inert_nil⟩
  · exact inert_listHeads (by decide) (by decide)

lemma inert_diagnosticHeads (diagnostic : Members) : Inert (diagnosticHeads diagnostic) := by
  unfold diagnosticHeads
  dsimp only
  rw [inert_append]
  refine ⟨inert_cons.mpr ⟨by decide, inert_cons.mpr ⟨by decide, inert_nil⟩⟩, ?_⟩
  split_ifs
  · exact inert_cons.mpr ⟨by decide, inert_nil⟩
  · exact inert_listHeads (by decide) (by decide)

lemma inert_sectionTitles :
    ∀ e ∈ input.sections tables, inert sameLetter appliedWord ("## " ++ e.1).toList = true := by
  unfold sections
  simp only [List.forall_mem_cons]
  refine ⟨by decide, by decide, by decide, by decide, by decide, by decide, by decide, ?_⟩
  exact fun _ h => absurd h List.not_mem_nil

lemma inert_counts : Inert ((input.counts tables).map Prod.fst) := by
  unfold counts
  simp only [List.map_cons, List.map_nil, inert_cons, inert_nil, and_true]
  decide

lemma inert_heads : Inert (input.heads tables) := by
  have hstatus : inert sameLetter appliedWord ("IMPACT: " ++ input.impactStatus.label).toList = true := by
    cases input.impactStatus <;> decide
  unfold heads
  rw [inert_append, inert_append, inert_append]
  refine ⟨⟨⟨?_, inert_optional (by decide)⟩, ?_⟩, ?_⟩
  · simp only [inert_cons, inert_nil, hstatus, true_and, and_true]
    decide
  · split_ifs
    · rw [inert_append, inert_append]
      refine ⟨⟨?_, inert_counts tables input⟩, fun head hhead => ?_⟩
      · simp only [inert_cons, inert_nil, and_true]
        decide
      · obtain ⟨e, he, hhead⟩ := List.mem_flatMap.mp hhead
        exact inert_sectionHeads (inert_sectionTitles tables input e he) _ _ head hhead
    · cases input.diagnostic with
      | none => exact inert_nil
      | some diagnostic => exact inert_diagnosticHeads diagnostic
  · simp only [inert_cons, inert_nil, and_true]
    decide

/-- The impact report has the lines that counts and statuses call for, whatever its texts are. -/
theorem follows_impact : Follows (input.heads tables) (renderImpactReport tables input).toList := by
  have hne : input.lines tables ≠ [] := by simp [lines]
  rw [renderImpactReport, follows_redacted hne (inert_heads tables input) (starts_heads tables input)]
  exact allLines_lines tables input

end ImpactInput

/-! ### The review report -/

/-- A part that is there or not. -/
lemma starts_part {heads : List String} {f : Members → List String} {part : Option Members}
    (h : part.isSome = true → ∀ members, Starts heads (f members)) :
    Starts (if part.isSome = true then heads else []) ((part.map f).getD []) := by
  cases part with
  | none => exact starts_nil
  | some members => exact h rfl members

lemma allLines_part {f : Members → List String} {part : Option Members}
    (h : part.isSome = true → ∀ members, AllLines (f members)) : AllLines ((part.map f).getD []) := by
  cases part with
  | none => exact allLines_nil
  | some members => exact h rfl members

lemma isLine_digestDisplay (identity : Json) : IsLine (digestDisplay identity) := by
  unfold digestDisplay
  split
  · split_ifs
    · decide
    · exact isLine_reviewSafeScalar _
  · decide

/-- Words of one line each, joined by spaces after a dash. -/
lemma isLine_joined {parts : List String} (h : AllLines parts) : IsLine ("- " ++ " ".intercalate parts) := by
  rw [isLine_append]
  refine ⟨by decide, ?_⟩
  unfold IsLine
  rw [String.toList_intercalate]
  induction parts with
  | nil => exact oneLine_nil
  | cons part parts ih =>
    rw [allLines_cons] at h
    cases parts with
    | nil =>
      rw [List.map_cons, List.map_nil, List.intercalate_singleton]
      exact h.1
    | cons next rest =>
      rw [List.map_cons, List.map_cons, List.intercalate_cons_cons, oneLine_append, oneLine_append]
      exact ⟨⟨h.1, by decide⟩, ih h.2⟩

/-- A joined line starts with its first word. -/
lemma starts_joined {a rest : String} {parts : List String} :
    ("- " ++ a).toList <+: ("- " ++ " ".intercalate ((a ++ rest) :: parts)).toList := by
  cases parts with
  | nil =>
    rw [String.intercalate_singleton, ← String.append_assoc]
    exact prefix_append_text _ _
  | cons next parts =>
    rw [String.intercalate_cons_cons, String.append_assoc, String.append_assoc, ← String.append_assoc]
    exact prefix_append_text _ _

/-- A text is encoded unless it has a surrogate. -/
lemma utf8Encoded_isOk {text : List CodePoint} :
    (∃ encoded, utf8Encoded text = .ok encoded) ↔ text.any isSurrogate = false := by
  unfold utf8Encoded
  split_ifs with h
  · simp [h]
  · exact iff_of_true ⟨_, rfl⟩ (Bool.eq_false_of_not_eq_true h)

/-- The lines of findings, once each has its sort key. -/
structure FindingLines (P : String → Prop) (count : Nat) (items : List String) : Prop where
  length : items.length = count
  line : ∀ item ∈ items, P item ∧ IsLine item

section Findings
variable {α κ : Type} [LinearOrder κ] {f : α → Except RenderError (κ × String)} {xs : List α}

lemma findingLines_of_ok {P : String → Prop} {items : List String}
    (hf : ∀ x item, f x = .ok item → P item.2 ∧ IsLine item.2)
    (h : (do
      let found ← xs.mapM f
      return (sortBy Prod.fst found).map Prod.snd) = .ok items) : FindingLines P xs.length items := by
  obtain ⟨found, hfound, hitems⟩ := bind_eq_ok.mp h
  cases pure_eq_ok.mp hitems
  have hall := mapM_eq_ok.mp hfound
  refine ⟨?_, ?_⟩
  · rw [List.length_map, length_sortBy, hall.length_eq]
  · intro line hline
    obtain ⟨item, hitem, rfl⟩ := List.mem_map.mp hline
    obtain ⟨x, -, hx⟩ := (mapM_mem hfound).1 item (mem_sortBy.mp hitem)
    exact hf x item hx

lemma findings_isOk {P : α → Prop} (hf : ∀ x, (∃ item, f x = .ok item) ↔ P x) :
    (∃ items, (do
      let found ← xs.mapM f
      return (sortBy Prod.fst found).map Prod.snd) = .ok items) ↔ ∀ x ∈ xs, P x := by
  constructor
  · intro ⟨items, h⟩ x hx
    obtain ⟨found, hfound, -⟩ := bind_eq_ok.mp h
    obtain ⟨item, -, hitem⟩ := (mapM_mem hfound).2 x hx
    exact (hf x).mp ⟨item, hitem⟩
  · intro h
    obtain ⟨found, hfound⟩ := exists_mapM_ok fun x hx => (hf x).mpr (h x hx)
    exact ⟨_, bind_eq_ok.mpr ⟨found, hfound, rfl⟩⟩

end Findings

lemma conflictItem_line (finding : NotableConflict) (item : (Nat ×ₗ String ×ₗ String) × String)
    (h : conflictItem tables sha256 finding = .ok item) : "- kind=".toList <+: item.2.toList ∧ IsLine item.2 := by
  obtain ⟨property, -, hitem⟩ := bind_eq_ok.mp h
  cases pure_eq_ok.mp hitem
  refine ⟨starts_joined (a := "kind="), isLine_joined ?_⟩
  rw [allLines_append]
  refine ⟨?_, allLines_if (by decide)⟩
  simp only [allLines_cons, allLines_nil, isLine_append, isLine_reviewSafeScalar, and_true]
  refine ⟨by decide, by decide, by decide, by decide, by decide, by decide, by decide, by decide, ?_⟩
  split_ifs <;> decide

lemma conflictItem_isOk (finding : NotableConflict) :
    (∃ item, conflictItem tables sha256 finding = .ok item) ↔ finding.property.any isSurrogate = false := by
  rw [← utf8Encoded_isOk]
  constructor
  · rintro ⟨item, h⟩
    obtain ⟨property, hproperty, -⟩ := bind_eq_ok.mp h
    exact ⟨property, hproperty⟩
  · rintro ⟨property, hproperty⟩
    exact ⟨_, bind_eq_ok.mpr ⟨property, hproperty, rfl⟩⟩

lemma driftItem_line (change : UnexpectedDrift) (item : String × String) (h : driftItem tables change = .ok item) :
    "- change=".toList <+: item.2.toList ∧ IsLine item.2 := by
  obtain ⟨property, -, hitem⟩ := bind_eq_ok.mp h
  cases pure_eq_ok.mp hitem
  refine ⟨starts_joined (a := "change="), isLine_joined ?_⟩
  rw [allLines_append, allLines_append]
  refine ⟨⟨?_, ?_⟩, ?_⟩
  · simp only [allLines_cons, allLines_nil, isLine_append, isLine_reviewSafeScalar, and_true]
    decide
  · split_ifs
    · exact allLines_nil
    · exact allLines_cons.mpr ⟨isLine_append.mpr ⟨by decide, isLine_reviewSafeScalar _⟩, allLines_nil⟩
  · exact allLines_cons.mpr ⟨isLine_append.mpr ⟨by decide, isLine_reviewSafeScalar _⟩, allLines_nil⟩

lemma driftItem_isOk (change : UnexpectedDrift) :
    (∃ item, driftItem tables change = .ok item) ↔ change.property.any isSurrogate = false := by
  rw [← utf8Encoded_isOk]
  constructor
  · rintro ⟨item, h⟩
    obtain ⟨property, hproperty, -⟩ := bind_eq_ok.mp h
    exact ⟨property, hproperty⟩
  · rintro ⟨property, hproperty⟩
    exact ⟨_, bind_eq_ok.mpr ⟨property, hproperty, rfl⟩⟩

namespace ReviewInput
variable (input : ReviewInput)

/-- The property of no finding that the report lists has a surrogate, and that of no unexpected change. -/
def Encodable : Prop :=
  ((input.block "conflicts").isSome = true →
    ∀ finding ∈ notableConflicts tables input.resultProperties (input.reviewResult.getD []),
      finding.property.any isSurrogate = false) ∧
  ((input.block "drift").isSome = true →
    ∀ change ∈ unexpectedDrifts input.changeProperties input.driftResult, change.property.any isSurrogate = false)

/-- The lines that are found for the listed findings. -/
def ConflictsFound (conflictItems : List String) : Prop :=
  (input.block "conflicts").isSome = true →
    FindingLines (fun line => "- kind=".toList <+: line.toList)
      (notableConflicts tables input.resultProperties (input.reviewResult.getD [])).length conflictItems

def DriftFound (driftItems : List String) : Prop :=
  (input.block "drift").isSome = true →
    FindingLines (fun line => "- change=".toList <+: line.toList)
      (unexpectedDrifts input.changeProperties input.driftResult).length driftItems

lemma conflictsFound_of_ok {conflictItems : List String} (h : input.conflictItems tables sha256 = .ok conflictItems) :
    input.ConflictsFound tables conflictItems := by
  intro hblock
  rw [ReviewInput.conflictItems, if_pos hblock] at h
  exact findingLines_of_ok (conflictItem_line tables sha256) h

lemma driftFound_of_ok {driftItems : List String} (h : input.driftItems tables = .ok driftItems) :
    input.DriftFound driftItems := by
  intro hblock
  rw [ReviewInput.driftItems, if_pos hblock] at h
  exact findingLines_of_ok (driftItem_line tables) h

/-- A report is rendered unless a property that it lists can not be encoded. -/
lemma renders_iff : (∃ report, renderReviewReport tables sha256 input = .ok report) ↔ input.Encodable tables := by
  have hconflicts : (∃ items, input.conflictItems tables sha256 = .ok items) ↔
      ((input.block "conflicts").isSome = true →
        ∀ finding ∈ notableConflicts tables input.resultProperties (input.reviewResult.getD []),
          finding.property.any isSurrogate = false) := by
    unfold ReviewInput.conflictItems
    split_ifs with hblock
    · simp only [hblock, true_imp_iff]
      exact findings_isOk (conflictItem_isOk tables sha256)
    · exact iff_of_true ⟨[], rfl⟩ fun h => absurd h hblock
  have hdrift : (∃ items, input.driftItems tables = .ok items) ↔
      ((input.block "drift").isSome = true →
        ∀ change ∈ unexpectedDrifts input.changeProperties input.driftResult,
          change.property.any isSurrogate = false) := by
    unfold ReviewInput.driftItems
    split_ifs with hblock
    · simp only [hblock, true_imp_iff]
      exact findings_isOk (driftItem_isOk tables)
    · exact iff_of_true ⟨[], rfl⟩ fun h => absurd h hblock
  rw [Encodable, ← hconflicts, ← hdrift]
  constructor
  · rintro ⟨report, h⟩
    obtain ⟨conflictItems, hconflictItems, h⟩ := bind_eq_ok.mp h
    obtain ⟨driftItems, hdriftItems, -⟩ := bind_eq_ok.mp h
    exact ⟨⟨conflictItems, hconflictItems⟩, driftItems, hdriftItems⟩
  · rintro ⟨⟨conflictItems, hconflictItems⟩, driftItems, hdriftItems⟩
    exact ⟨_, bind_eq_ok.mpr ⟨conflictItems, hconflictItems, bind_eq_ok.mpr ⟨driftItems, hdriftItems, rfl⟩⟩⟩

lemma starts_findings {heading head reference : String} {items : List String} {limit : Nat}
    (h : ∀ line ∈ items, head.toList <+: line.toList) :
    Starts (findingHeads heading head items.length limit) (findingLines heading items limit reference) := by
  unfold findingHeads findingLines
  dsimp only
  refine starts_append ?_ ?_
  · by_cases hshown : items.take limit = []
    · rw [if_pos hshown, if_pos (by rw [← List.length_take, hshown]; rfl)]
      exact starts_nil
    · rw [if_neg hshown, if_neg (by rwa [← List.length_take, List.length_eq_zero_iff]), ← List.length_take]
      exact starts_append (starts_self_cons (starts_self_cons starts_nil))
        (starts_of_forall fun line hline => h line (List.mem_of_mem_take hline))
  · have hlt : (items.take limit).length < items.length ↔ limit < items.length := by
      rw [List.length_take]
      omega
    simp only [hlt, String.append_assoc]
    exact starts_if (prefix_append_text _ _)

lemma allLines_findings {heading reference : String} {items : List String} {limit : Nat} (hheading : IsLine heading)
    (h : AllLines items) : AllLines (findingLines heading items limit reference) := by
  unfold findingLines
  dsimp only
  rw [allLines_append]
  refine ⟨?_, allLines_if ?_⟩
  · split_ifs
    · exact allLines_nil
    · rw [allLines_append]
      refine ⟨allLines_cons.mpr ⟨by decide, allLines_cons.mpr ⟨hheading, allLines_nil⟩⟩, ?_⟩
      exact fun line hline => h line (List.mem_of_mem_take hline)
  · simp only [allLines_cons, allLines_nil, isLine_append, isLine_countText, isLine_reviewSafeScalar]
    decide

variable {input} {conflictItems driftItems : List String}

lemma starts_heads (hconflicts : input.ConflictsFound tables conflictItems) (hdrift : input.DriftFound driftItems) :
    Starts (input.heads tables) (input.linesWith tables conflictItems driftItems) := by
  unfold heads linesWith
  refine starts_append (starts_append (starts_append (starts_append (starts_append (starts_append ?_
    (starts_optional _)) (starts_part fun hblock conflicts => ?_)) (starts_part fun hblock drift => ?_)) ?_)
    (starts_optional _)) (starts_optional _)
  · iterate 8 refine starts_self_cons ?_
    exact starts_nil
  · rw [← (hconflicts hblock).length]
    refine starts_append ?_ (starts_findings fun line hline => ((hconflicts hblock).line line hline).1)
    iterate 2 refine starts_self_cons ?_
    iterate 5 refine starts_cons ?_
    exact starts_nil
  · rw [← (hdrift hblock).length]
    refine starts_append ?_ (starts_findings fun line hline => ((hdrift hblock).line line hline).1)
    iterate 2 refine starts_self_cons ?_
    iterate 7 refine starts_cons ?_
    exact starts_nil
  · refine starts_self_cons (starts_self_cons ?_)
    cases presentText input.reviewResultPath with
    | none => exact List.Forall₂.cons (prefix_append_text "- review-result: " "(none)") starts_nil
    | some path => exact starts_cons starts_nil

lemma allLines_linesWith (hconflicts : input.ConflictsFound tables conflictItems) (hdrift : input.DriftFound driftItems) :
    AllLines (input.linesWith tables conflictItems driftItems) := by
  have hreview : IsLine input.reviewStatus.label := by cases input.reviewStatus <;> decide
  have hconflict : IsLine input.conflictStatus.label := by cases input.conflictStatus <;> decide
  have hlabel : IsLine input.reportDriftStatus.label := by cases input.reportDriftStatus <;> decide
  unfold linesWith
  simp only [allLines_append]
  refine ⟨⟨⟨⟨⟨⟨?_, ?_⟩, allLines_part fun hblock conflicts => ?_⟩, allLines_part fun hblock drift => ?_⟩, ?_⟩, ?_⟩, ?_⟩
  · simp only [allLines_cons, allLines_nil, isLine_append, hreview, hconflict, hlabel, and_true]
    decide
  · exact allLines_optional fun code => isLine_append.mpr ⟨by decide, isLine_reviewSafeScalar _⟩
  · unfold conflictLines
    dsimp only
    rw [allLines_append]
    refine ⟨?_, allLines_findings (by decide) fun line hline => ((hconflicts hblock).line line hline).2⟩
    simp only [allLines_cons, allLines_nil, isLine_append, isLine_countText]
    decide
  · unfold driftLines
    dsimp only
    rw [allLines_append]
    refine ⟨?_, allLines_findings (by decide) fun line hline => ((hdrift hblock).line line hline).2⟩
    simp only [allLines_cons, allLines_nil, isLine_append, isLine_countText, isLine_digestDisplay,
      isLine_reviewSafeScalar]
    decide
  · refine allLines_cons.mpr ⟨by decide, allLines_cons.mpr ⟨by decide, allLines_cons.mpr ⟨?_, allLines_nil⟩⟩⟩
    cases presentText input.reviewResultPath with
    | none => exact (by decide : IsLine "- review-result: (none)")
    | some path => exact isLine_append.mpr ⟨by decide, isLine_reviewSafeScalar _⟩
  · exact allLines_optional fun path => isLine_append.mpr ⟨by decide, isLine_reviewSafeScalar _⟩
  · exact allLines_optional fun path => isLine_append.mpr ⟨by decide, isLine_reviewSafeScalar _⟩

/-- A review report that is rendered has the lines that counts and statuses call for, whatever its texts are. -/
theorem follows_review {report : String} (h : renderReviewReport tables sha256 input = .ok report) :
    Follows (input.heads tables) report.toList := by
  obtain ⟨conflictItems, hconflictItems, h⟩ := bind_eq_ok.mp h
  obtain ⟨driftItems, hdriftItems, h⟩ := bind_eq_ok.mp h
  cases pure_eq_ok.mp h
  have hconflicts := conflictsFound_of_ok tables sha256 input hconflictItems
  have hdrift := driftFound_of_ok tables input hdriftItems
  exact follows_joined (by simp [linesWith]) (starts_heads tables hconflicts hdrift)
    (allLines_linesWith tables hconflicts hdrift)

end ReviewInput

/-! ### All renderers -/

/-- A call of one of the renderers. -/
inductive Rendering where
  | report (input : ReportInput)
  | annotations (actionResult : ActionResult) (policyReport : Option Members)
  | impact (input : ImpactInput)
  | review (input : ReviewInput)

namespace Rendering

/-- The call with its untrusted texts erased: counts and statuses are left, and which texts are empty. -/
def erased : Rendering → Rendering
  | report input => report input.erased
  | annotations actionResult policyReport => annotations (eraseAction actionResult) (policyReport.map eraseMembers)
  | impact input => impact input.erased
  | review input => review input.erased

/-- The lines of what is rendered, split at line feeds and carriage returns. -/
def lines : Rendering → Except RenderError (List (List Char))
  | report input => .ok (splitLines (renderReport tables input).toList)
  | annotations actionResult policyReport =>
    .ok ((buildAnnotations tables actionResult policyReport).flatMap fun annotation => splitLines annotation.toList)
  | impact input => .ok (splitLines (renderImpactReport tables input).toList)
  | review input => do return splitLines (← renderReviewReport tables sha256 input).toList

/-- The literal heads of the lines; a report ends its last line. -/
def heads : Rendering → List String
  | report input => input.heads tables ++ [""]
  | annotations actionResult policyReport => annotationHeads actionResult policyReport
  | impact input => input.heads tables ++ [""]
  | review input => input.heads tables ++ [""]

/-- The texts that a report of violations and plan shows are one line each, and the properties that a review report
lists can be encoded; the other renderers take any text. -/
def ShowsLines : Rendering → Prop
  | report input => input.ShowsLines tables
  | review input => input.Encodable tables
  | _ => True

end Rendering

/-- There are as many lines as heads, and each line starts with its head. -/
def Headed (heads : List String) (lines : List (List Char)) : Prop :=
  List.Forall₂ (fun (head : String) line => head.toList <+: line) heads lines

/-- The call renders, to lines with the heads. -/
def Rendering.RendersAs (heads : List String) (x : Rendering) : Prop :=
  ∃ lines, x.lines tables sha256 = .ok lines ∧ Headed heads lines

lemma splitLines_flatMap {texts : List String} (h : AllLines texts) :
    texts.flatMap (fun text => splitLines text.toList) = texts.map String.toList := by
  induction texts with
  | nil => rfl
  | cons text texts ih =>
    rw [allLines_cons] at h
    have hone : splitLines text.toList = [text.toList] := List.splitOnP_eq_singleton h.1
    rw [List.flatMap_cons, hone, ih h.2]
    rfl

lemma Rendering.heads_erased (x : Rendering) : x.erased.heads tables = x.heads tables := by
  cases x with
  | report input => exact congrArg (· ++ [""]) (ReportInput.heads_erased tables input)
  | annotations actionResult policyReport => exact annotationHeads_erased actionResult policyReport
  | impact input => exact congrArg (· ++ [""]) (ImpactInput.heads_erased tables input)
  | review input => exact congrArg (· ++ [""]) (ReviewInput.heads_erased tables input)

/-- A report with as many lines as heads shows one line for each text. -/
lemma ReportInput.showsLines_of_length {input : ReportInput}
    (h : (splitLines (renderReport tables input).toList).length = ((Rendering.report input).heads tables).length) :
    input.ShowsLines tables := by
  unfold Rendering.heads at h
  rw [List.length_append, List.length_singleton, (ReportInput.starts_heads tables input).length_eq] at h
  exact ReportInput.allLines_lines.mp (allLines_of_redacted_length (ReportInput.lines_ne_nil tables input) h)

lemma rendersAs_ok {x : Rendering} {heads : List String} {lines : List (List Char)}
    (h : x.lines tables sha256 = .ok lines) : x.RendersAs tables sha256 heads ↔ Headed heads lines := by
  constructor
  · rintro ⟨lines', h', hheaded⟩
    rwa [Except.ok.inj (h.symm.trans h')]
  · exact fun hheaded => ⟨lines, h, hheaded⟩

/-- What is rendered has the heads of its erased call exactly when its texts are shown as lines. -/
lemma rendersAs_iff (x : Rendering) :
    x.RendersAs tables sha256 (x.erased.heads tables) ↔ x.ShowsLines tables := by
  rw [x.heads_erased]
  cases x with
  | report input =>
    rw [rendersAs_ok tables sha256 rfl]
    exact ReportInput.follows_report_iff tables input
  | annotations actionResult policyReport =>
    rw [rendersAs_ok tables sha256 rfl, splitLines_flatMap (allLines_annotations tables actionResult policyReport)]
    exact iff_of_true (starts_iff_chars.mp (starts_annotations tables actionResult policyReport)) trivial
  | impact input =>
    rw [rendersAs_ok tables sha256 rfl]
    exact iff_of_true (ImpactInput.follows_impact tables input) trivial
  | review input =>
    rw [Rendering.ShowsLines, ← ReviewInput.renders_iff tables sha256]
    constructor
    · rintro ⟨lines, hlines, -⟩
      obtain ⟨report, hreport, -⟩ := bind_eq_ok.mp hlines
      exact ⟨report, hreport⟩
    · rintro ⟨report, hreport⟩
      exact ⟨_, bind_eq_ok.mpr ⟨report, hreport, rfl⟩, ReviewInput.follows_review tables sha256 hreport⟩

/-- Two calls that differ in untrusted texts render as many lines with the same heads, which counts and statuses
determine, exactly when every text that a report of violations and plan shows is one line, and every property that a
review report lists can be encoded. -/
theorem same_lines_iff (x y : Rendering) (h : x.erased = y.erased) :
    (x.RendersAs tables sha256 (x.erased.heads tables) ∧ y.RendersAs tables sha256 (x.erased.heads tables)) ↔
      x.ShowsLines tables ∧ y.ShowsLines tables := by
  rw [rendersAs_iff, h, rendersAs_iff]

/-- A blocked policy check with one violation, for a reason. -/
def blockedInput (reason : String) : ReportInput :=
  ⟨⟨.blocked, none, .passed, ⟨.blocked, 1, 1, 0, none⟩, ⟨.blocked, 0, 0, 0, 0, none, none⟩⟩,
    some [("violations", .arr [.obj [("severity", .str "error"), ("policy_id", .str "p1"),
      ("object_kind", .str "table"), ("object_id", .str "t1"), ("reason", .str reason)]])], none, none⟩

def blockedReport (reason : String) : Rendering := .report (blockedInput reason)

/-- Tables of the ASCII characters. -/
def asciiTables : CharTables := ⟨fun c => 0x20 ≤ c.toNat && c.toNat < 0x7F, fun _ => false⟩

lemma erased_blockedReport {reason other : String} (h : reason ≠ "") (h' : other ≠ "") :
    (blockedReport reason).erased = (blockedReport other).erased := by
  simp only [blockedReport, blockedInput, Rendering.erased, ReportInput.erased, Option.map_some, eraseMembers,
    eraseTexts, eraseItems, eraseText, h, h', if_false, show "violations" ∉ statusKeys by decide,
    show "reason" ∉ statusKeys by decide]

lemma showsLines_owner : (blockedInput "owner missing").ShowsLines asciiTables := by decide +kernel

lemma showsLines_steward : (blockedInput "steward missing").ShowsLines asciiTables := by decide +kernel

theorem blockedReport_same_lines :
    (blockedReport "owner missing").RendersAs asciiTables id ((blockedReport "owner missing").erased.heads asciiTables) ∧
      (blockedReport "steward missing").RendersAs asciiTables id
        ((blockedReport "owner missing").erased.heads asciiTables) :=
  (same_lines_iff asciiTables id (blockedReport "owner missing") (blockedReport "steward missing")
    (erased_blockedReport (by decide) (by decide))).mpr (And.intro showsLines_owner showsLines_steward)

lemma not_showsLines_forged : ¬ (blockedInput "owner missing\nOVERALL: PASS").ShowsLines asciiTables := by
  decide +kernel

/-- A reason with a line feed adds a line that reads as a status. -/
theorem forged_status :
    ¬ ∀ (x y : Rendering) (lines lines' : List (List Char)), x.erased = y.erased →
      x.lines asciiTables id = .ok lines → y.lines asciiTables id = .ok lines' → lines.length = lines'.length := by
  intro h
  have herased := erased_blockedReport (show "owner missing" ≠ "" by decide)
    (show "owner missing\nOVERALL: PASS" ≠ "" by decide)
  have hlength := h (blockedReport "owner missing") (blockedReport "owner missing\nOVERALL: PASS") _ _ herased rfl rfl
  obtain ⟨lines, hlines, hheaded⟩ := (rendersAs_iff asciiTables id (blockedReport "owner missing")).mpr showsLines_owner
  rw [Except.ok.inj hlines, ← List.Forall₂.length_eq hheaded, herased, Rendering.heads_erased] at hlength
  exact not_showsLines_forged (ReportInput.showsLines_of_length asciiTables hlength.symm)

end CollibraGovernance.GithubCi
