import CollibraGovernance.GithubCi.ReportHeads

/-! No untrusted text adds a line to the annotations, the impact report or the review report; the report of
violations and plan keeps its lines exactly when every text it shows is one line. -/
namespace CollibraGovernance.GithubCi
open Library

/-! ### Lines that start with their heads -/

/-- Every line starts with its head. -/
def Starts (heads lines : List String) : Prop :=
  List.Forall₂ (fun (head line : String) => head.toList <+: line.toList) heads lines

lemma starts_append {heads heads' lines lines' : List String} (h : Starts heads lines) (h' : Starts heads' lines') :
    Starts (heads ++ heads') (lines ++ lines') := List.rel_append h h'

lemma starts_nil : Starts [] [] := List.Forall₂.nil

lemma starts_cons {head : String} {rest : String} {heads lines : List String} (h : Starts heads lines) :
    Starts (head :: heads) ((head ++ rest) :: lines) := by
  refine List.Forall₂.cons ?_ h
  rw [String.toList_append]
  exact List.prefix_append _ _

lemma starts_self_cons {line : String} {heads lines : List String} (h : Starts heads lines) :
    Starts (line :: heads) (line :: lines) := List.Forall₂.cons (List.prefix_refl _) h

lemma starts_map {α : Type} {head : String} {f : α → String} (xs : List α) :
    Starts (List.replicate xs.length head) (xs.map fun x => head ++ f x) := by
  induction xs with
  | nil => exact starts_nil
  | cons x xs ih => exact starts_cons ih

lemma starts_of_forall {head : String} {lines : List String} (h : ∀ l ∈ lines, head.toList <+: l.toList) :
    Starts (List.replicate lines.length head) lines := by
  induction lines with
  | nil => exact starts_nil
  | cons l ls ih =>
    rw [List.forall_mem_cons] at h
    exact List.Forall₂.cons h.1 (ih h.2)

lemma starts_optional {head : String} {f : String → String} (text : Option String) :
    Starts (optionalHead head text.isSome) (text.toList.map fun t => head ++ f t) := by
  cases text with
  | none => exact starts_nil
  | some t => exact starts_cons starts_nil

lemma starts_if {head line : String} {c : Prop} [Decidable c] (h : head.toList <+: line.toList) :
    Starts (optionalHead head (decide c)) (if c then [line] else []) := by
  unfold optionalHead
  by_cases hc : c
  · rw [if_pos (decide_eq_true hc), if_pos hc]
    exact List.Forall₂.cons h starts_nil
  · rw [if_neg (by simpa using hc), if_neg hc]
    exact starts_nil

lemma prefix_append_text (head rest : String) : head.toList <+: (head ++ rest).toList := by
  rw [String.toList_append]
  exact List.prefix_append _ _

lemma starts_iff_chars {heads lines : List String} :
    Starts heads lines ↔
      List.Forall₂ (fun (head : String) line => head.toList <+: line) heads (lines.map String.toList) :=
  List.forall₂_map_right_iff.symm

/-! ### Redaction -/

def appliedWord : List Char := "applied".toList

lemma noBreakLetters_applied : NoBreakLetters sameLetter appliedWord := by
  intro letter hletter c hc
  rw [isBreak, Bool.or_eq_false_iff, decide_eq_false_iff_not, decide_eq_false_iff_not]
  have hfeed : appliedWord.all (fun letter => !sameLetter letter '\n') = true := by decide
  have hreturn : appliedWord.all (fun letter => !sameLetter letter '\r') = true := by decide
  constructor
  · rintro rfl
    have h := List.all_eq_true.mp hfeed letter hletter
    rw [hc] at h
    cases h
  · rintro rfl
    have h := List.all_eq_true.mp hreturn letter hletter
    rw [hc] at h
    cases h

lemma isWord_break (tables : CharTables) : tables.isWord '\n' = false := by
  unfold CharTables.isWord
  rw [show (decide (0x80 ≤ '\n'.toNat)) = false from by decide, Bool.false_and]
  decide

/-- No occurrence of the replaced word starts in a head. -/
def Inert (heads : List String) : Prop := ∀ head ∈ heads, inert sameLetter appliedWord head.toList = true

/-- A redacted report follows its heads exactly when each of its lines is one line. -/
theorem follows_redacted {tables : CharTables} {heads lines : List String} (hne : lines ≠ [])
    (hinert : Inert heads) (h : Starts heads lines) :
    Follows heads (withoutApplied tables (joinLines lines)).toList ↔ ∀ l ∈ lines, OneLine l.toList := by
  unfold withoutApplied joinLines
  rw [String.toList_ofList, toList_endedLines hne, show "applied".toList = appliedWord from rfl,
    replaceWord_endLines (by decide) noBreakLetters_applied (isWord_break tables), List.map_map, follows_endLines]
  · simp only [List.mem_map, Function.comp_apply, forall_exists_index, and_imp, forall_apply_eq_imp_iff₂]
    refine forall₂_congr fun l _ => ?_
    rw [oneLine_replaceWord (by decide) noBreakLetters_applied (by decide), List.drop_zero]
  · rw [List.forall₂_map_right_iff]
    clear hne
    induction h with
    | nil => exact List.Forall₂.nil
    | cons hstart _ ih =>
      rw [Inert, List.forall_mem_cons] at hinert
      exact List.Forall₂.cons (prefix_replaceWord hinert.1 hstart false) (ih hinert.2)

/-- A report follows its heads when each of its lines is one line. -/
lemma follows_joined {heads lines : List String} (hne : lines ≠ []) (h : Starts heads lines)
    (hone : ∀ l ∈ lines, OneLine l.toList) : Follows heads (joinLines lines).toList := by
  unfold joinLines
  rw [toList_endedLines hne, follows_endLines (starts_iff_chars.mp h)]
  simpa using hone

@[simp] lemma inert_nil : Inert [] := fun _ h => absurd h List.not_mem_nil

@[simp] lemma inert_append {xs ys : List String} : Inert (xs ++ ys) ↔ Inert xs ∧ Inert ys := List.forall_mem_append

@[simp] lemma inert_cons {head : String} {heads : List String} :
    Inert (head :: heads) ↔ inert sameLetter appliedWord head.toList = true ∧ Inert heads := List.forall_mem_cons

lemma inert_optional {head : String} {present : Bool} (h : inert sameLetter appliedWord head.toList = true) :
    Inert (optionalHead head present) := by
  unfold optionalHead
  split_ifs
  · exact inert_cons.mpr ⟨h, inert_nil⟩
  · exact inert_nil

lemma inert_listHeads {head omittedHead : String} {shown : Nat} {more : Bool}
    (h : inert sameLetter appliedWord head.toList = true)
    (h' : inert sameLetter appliedWord omittedHead.toList = true) : Inert (listHeads head omittedHead shown more) := by
  unfold listHeads
  rw [inert_append]
  refine ⟨fun l hl => ?_, inert_optional h'⟩
  rw [List.eq_of_mem_replicate hl]
  exact h

/-! ### One line -/

/-- A text of one line. -/
def IsLine (text : String) : Prop := OneLine text.toList

instance (text : String) : Decidable (IsLine text) := inferInstanceAs (Decidable (OneLine text.toList))

@[simp] lemma isLine_append {a b : String} : IsLine (a ++ b) ↔ IsLine a ∧ IsLine b := by
  unfold IsLine
  rw [String.toList_append, oneLine_append]

@[simp] lemma isLine_countText (n : Int) : IsLine (countText n) := by
  unfold IsLine countText
  rw [String.toList_ofList]
  exact oneLine_of_alphanum fun c hc => (Json.intText_all n c hc).1

@[simp] lemma isLine_escapeMarkdown {text : String} : IsLine (escapeMarkdown text) ↔ IsLine (shownText text) :=
  oneLine_escapeMarkdown

@[simp] lemma isLine_escapeWorkflowCommand (text : String) : IsLine (escapeWorkflowCommand text) :=
  oneLine_escapeWorkflowCommand text

@[simp] lemma isLine_impactSafeDisplay (isPrintable : Char → Bool) (text : String) :
    IsLine (impactSafeDisplay isPrintable text) := oneLine_impactSafeDisplay isPrintable text

@[simp] lemma isLine_reviewSafeScalar (text : String) : IsLine (reviewSafeScalar text) := oneLine_reviewSafeScalar text

/-- Lines that are all one line. -/
def AllLines (lines : List String) : Prop := ∀ l ∈ lines, IsLine l

instance (lines : List String) : Decidable (AllLines lines) := List.decidableBAll IsLine lines

@[simp] lemma allLines_nil : AllLines [] := fun _ h => absurd h List.not_mem_nil

@[simp] lemma allLines_append {xs ys : List String} : AllLines (xs ++ ys) ↔ AllLines xs ∧ AllLines ys :=
  List.forall_mem_append

@[simp] lemma allLines_cons {line : String} {lines : List String} :
    AllLines (line :: lines) ↔ IsLine line ∧ AllLines lines := List.forall_mem_cons

lemma allLines_if {c : Prop} [Decidable c] {lines : List String} (h : AllLines lines) :
    AllLines (if c then lines else []) := by
  split_ifs
  · exact h
  · exact allLines_nil

lemma allLines_map {α : Type} {f : α → String} {xs : List α} : AllLines (xs.map f) ↔ ∀ x ∈ xs, IsLine (f x) :=
  List.forall_mem_map

/-- A redacted report of as many lines as were joined has lines of one line each. -/
lemma allLines_of_redacted_length {tables : CharTables} {lines : List String} (hne : lines ≠ [])
    (h : (splitLines (withoutApplied tables (joinLines lines)).toList).length = lines.length + 1) :
    AllLines lines := by
  unfold withoutApplied joinLines at h
  rw [String.toList_ofList, toList_endedLines hne, show "applied".toList = appliedWord from rfl,
    replaceWord_endLines (by decide) noBreakLetters_applied (isWord_break tables)] at h
  have hone := oneLine_of_length (by rwa [List.length_map, List.length_map])
  intro l hl
  have hreplaced := hone _ (List.mem_map.mpr ⟨l.toList, List.mem_map.mpr ⟨l, hl, rfl⟩, rfl⟩)
  rwa [oneLine_replaceWord (by decide) noBreakLetters_applied (by decide), List.drop_zero] at hreplaced

/-! ### The report -/

namespace ReportInput

/-- The untrusted texts that the report shows. -/
def shownTexts (tables : CharTables) (input : ReportInput) : List String :=
  (Odcs.mappings (input.violations.take maxMarkdownViolations)).map (violationLine tables) ++
    (if maxMarkdownViolations < input.violations.length then [input.policyReference] else []) ++
    (input.actions tables).take maxMarkdownPlanActions ++
    ([input.actionResultPath] ++ (presentText input.actionResult.policy.resultPath).toList ++
      input.planReference.toList)

/-- Every text that is shown, normalized and cut to the length that is shown, is one line. -/
def ShowsLines (tables : CharTables) (input : ReportInput) : Prop :=
  ∀ text ∈ input.shownTexts tables, IsLine (shownText text)

instance (tables : CharTables) (input : ReportInput) : Decidable (input.ShowsLines tables) :=
  List.decidableBAll (fun text => IsLine (shownText text)) (input.shownTexts tables)

lemma omitted_pos {n limit : Nat} : 0 < n - min limit n ↔ limit < n := by omega

lemma allLines_statusLines (input : ReportInput) : AllLines input.statusLines := by
  have hstatus : IsLine input.actionResult.status.label := by cases input.actionResult.status <;> decide
  have hvalidation : IsLine input.actionResult.validation.label := by
    cases input.actionResult.validation <;> decide
  have hpolicy : IsLine input.actionResult.policy.status.label := by
    cases input.actionResult.policy.status <;> decide
  have hplan : IsLine input.actionResult.plan.status.label := by cases input.actionResult.plan.status <;> decide
  unfold statusLines
  simp only [allLines_cons, allLines_nil, isLine_append, isLine_countText, hstatus, hvalidation, hpolicy, hplan]
  decide

lemma allLines_violationLines {tables : CharTables} {input : ReportInput} :
    AllLines (input.violationLines tables) ↔
      (∀ item ∈ Odcs.mappings (input.violations.take maxMarkdownViolations),
        IsLine (shownText (violationLine tables item))) ∧
      (maxMarkdownViolations < input.violations.length → IsLine (shownText input.policyReference)) := by
  unfold violationLines
  dsimp only
  rw [allLines_append, allLines_map, List.length_take]
  simp only [omitted_pos, isLine_append, isLine_escapeMarkdown]
  refine and_congr ?_ ?_
  · exact forall₂_congr fun item _ => and_iff_right (by decide)
  · split_ifs with h
    · simp only [allLines_cons, allLines_nil, isLine_append, isLine_escapeMarkdown, isLine_countText, h, and_true,
        true_implies]
      exact and_iff_right (by decide)
    · simp [h]

lemma allLines_planLines {tables : CharTables} {input : ReportInput} :
    AllLines (input.planLines tables) ↔
      ∀ entry ∈ (input.actions tables).take maxMarkdownPlanActions, IsLine (shownText entry) := by
  unfold planLines
  dsimp only
  rw [allLines_append, allLines_append, allLines_map]
  simp only [isLine_append, isLine_escapeMarkdown]
  constructor
  · rintro ⟨⟨-, h⟩, -⟩ entry hentry
    exact (h entry hentry).2
  · intro h
    refine ⟨⟨?_, fun entry hentry => ⟨by decide, h entry hentry⟩⟩, ?_⟩
    · simp only [allLines_cons, allLines_nil, isLine_append, isLine_countText]
      decide
    · split_ifs
      · simp only [allLines_cons, allLines_nil, isLine_append, isLine_countText]
        decide
      · exact allLines_nil

lemma allLines_artifactLines {input : ReportInput} :
    AllLines input.artifactLines ↔
      IsLine (shownText input.actionResultPath) ∧
        (∀ path ∈ (presentText input.actionResult.policy.resultPath).toList, IsLine (shownText path)) ∧
        ∀ path ∈ input.planReference.toList, IsLine (shownText path) := by
  unfold artifactLines
  rw [allLines_append, allLines_append, allLines_map, allLines_map, and_assoc]
  simp only [allLines_cons, allLines_nil, isLine_append, isLine_escapeMarkdown]
  refine and_congr ?_ (and_congr ?_ ?_)
  · rw [and_true]
    exact ⟨fun h => h.2.2.2, fun h => ⟨by decide, by decide, by decide, h⟩⟩
  · exact forall₂_congr fun path _ => and_iff_right (by decide)
  · exact forall₂_congr fun path _ => and_iff_right (by decide)

lemma allLines_lines {tables : CharTables} {input : ReportInput} :
    AllLines (input.lines tables) ↔ input.ShowsLines tables := by
  unfold lines ShowsLines shownTexts
  rw [allLines_append, allLines_append, allLines_append, allLines_violationLines, allLines_planLines,
    allLines_artifactLines]
  simp only [allLines_statusLines, true_and, List.forall_mem_append, List.forall_mem_map, List.forall_mem_cons]
  have hif : (∀ text ∈ if maxMarkdownViolations < input.violations.length then [input.policyReference] else [],
      IsLine (shownText text)) ↔
      (maxMarkdownViolations < input.violations.length → IsLine (shownText input.policyReference)) := by
    split_ifs with h <;> simp [h]
  rw [hif]
  simp only [List.not_mem_nil, false_implies, implies_true, and_true, and_assoc]

lemma starts_heads (tables : CharTables) (input : ReportInput) : Starts (input.heads tables) (input.lines tables) := by
  unfold heads lines
  refine starts_append (starts_append (starts_append ?_ ?_) ?_) ?_
  · unfold statusLines
    iterate 11 refine starts_self_cons ?_
    simp only [String.append_assoc]
    exact starts_cons starts_nil
  · unfold violationLines listHeads
    dsimp only
    refine starts_append ?_ ?_
    · exact starts_map _
    · simp only [List.length_take, omitted_pos, String.append_assoc]
      exact starts_if (prefix_append_text _ _)
  · unfold planLines listHeads
    dsimp only
    rw [List.append_assoc]
    refine starts_append ?_ (starts_append ?_ ?_)
    · refine starts_self_cons (starts_self_cons ?_)
      exact starts_cons (starts_cons (starts_cons (starts_cons starts_nil)))
    · rw [← List.length_take]
      exact starts_map _
    · simp only [List.length_take, omitted_pos, String.append_assoc]
      exact starts_if (prefix_append_text _ _)
  · unfold artifactLines
    refine starts_append (starts_append ?_ (starts_optional _)) (starts_optional _)
    exact starts_self_cons (starts_self_cons (starts_cons starts_nil))

lemma inert_heads (tables : CharTables) (input : ReportInput) : Inert (input.heads tables) := by
  have hstatus : inert sameLetter appliedWord ("OVERALL: " ++ input.actionResult.status.label).toList = true := by
    cases input.actionResult.status <;> decide
  have hvalidation :
      inert sameLetter appliedWord ("CONFIGURATION: " ++ input.actionResult.validation.label).toList = true := by
    cases input.actionResult.validation <;> decide
  have hpolicy :
      inert sameLetter appliedWord ("POLICY: " ++ input.actionResult.policy.status.label).toList = true := by
    cases input.actionResult.policy.status <;> decide
  have hplan : inert sameLetter appliedWord ("PLAN: " ++ input.actionResult.plan.status.label).toList = true := by
    cases input.actionResult.plan.status <;> decide
  unfold heads
  simp only [inert_append, inert_cons, inert_nil, hstatus, hvalidation, hpolicy, hplan, true_and, and_true]
  refine ⟨⟨⟨by decide, inert_listHeads (by decide) (by decide)⟩, by decide,
    inert_listHeads (by decide) (by decide)⟩, ⟨by decide, inert_optional (by decide)⟩, inert_optional (by decide)⟩

lemma lines_ne_nil (tables : CharTables) (input : ReportInput) : input.lines tables ≠ [] := by
  simp [lines, statusLines]

/-- The report has the lines that counts and statuses call for exactly when every text it shows is one line. -/
theorem follows_report_iff (tables : CharTables) (input : ReportInput) :
    Follows (input.heads tables) (renderReport tables input).toList ↔ input.ShowsLines tables := by
  rw [renderReport, follows_redacted (lines_ne_nil tables input) (inert_heads tables input)
    (starts_heads tables input), ← allLines_lines]
  rfl

end ReportInput

end CollibraGovernance.GithubCi
