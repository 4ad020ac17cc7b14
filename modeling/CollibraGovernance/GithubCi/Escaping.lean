import CollibraGovernance.Library.Lines

/-! How untrusted texts are shown in Markdown reports and workflow commands. -/
namespace CollibraGovernance.GithubCi
open Library

def maxDisplayValueChars : Nat := 200

def normalizeBreaks : List Char → List Char
  | '\r' :: '\n' :: rest => '\n' :: normalizeBreaks rest
  | '\r' :: rest => '\n' :: normalizeBreaks rest
  | c :: rest => c :: normalizeBreaks rest
  | [] => []

def normalizeNewlines (value : String) : String := String.ofList (normalizeBreaks value.toList)

def truncateDisplay (limit : Nat) (value : String) : String :=
  let text := normalizeNewlines value
  if text.length ≤ limit then text
  else if limit ≤ 3 then String.ofList (text.toList.take limit)
  else String.ofList (text.toList.take (limit - 3)) ++ "..."

/-- `value.replace(c, by)` -/
def replaceChar (c : Char) (replacement : String) (value : String) : String :=
  String.ofList (value.toList.flatMap fun x => if x = c then replacement.toList else [x])

/-- `html.escape(value, quote=False)` -/
def htmlEscape (value : String) : String :=
  replaceChar '>' "&gt;" (replaceChar '<' "&lt;" (replaceChar '&' "&amp;" value))

/-- What `escape_markdown` shows of a text, before it is escaped. -/
def shownText (value : String) : String := truncateDisplay maxDisplayValueChars (normalizeNewlines value)

def escapeMarkdown (value : String) : String :=
  htmlEscape (replaceChar '|' "\\|" (replaceChar '`' "\\`" (shownText value)))

def escapeWorkflowCommand (value : String) : String :=
  replaceChar '\n' "%0A" (replaceChar '\r' "%0D" (replaceChar '%' "%25" (normalizeNewlines value)))

section Printable
variable (isPrintable : Char → Bool)

/-- One character of `format_human_value`. -/
def humanChar (c : Char) : List Char :=
  let code := c.toNat
  if c = '\\' then ['\\', '\\']
  else if c = '\n' then ['\\', 'n']
  else if c = '\r' then ['\\', 'r']
  else if c = '\t' then ['\\', 't']
  else if code < 0x20 ∨ code = 0x7F then '\\' :: 'x' :: hexDigits 2 code
  else if isPrintable c = false then
    if code < 0x100 then '\\' :: 'x' :: hexDigits 2 code
    else if code < 0x10000 then '\\' :: 'u' :: hexDigits 4 code
    else '\\' :: 'U' :: hexDigits 8 code
  else [c]

def formatHumanValue (value : String) : String := String.ofList (value.toList.flatMap (humanChar isPrintable))

def impactSafeDisplay (value : String) : String :=
  escapeMarkdown (truncateDisplay maxDisplayValueChars (formatHumanValue isPrintable value))

end Printable

/-- `_review_safe_scalar` of a text: its JSON form without the quotes. -/
def reviewSafeScalar (value : String) : String := escapeMarkdown (String.ofList (value.toList.flatMap escapeChar))

/-! ### Line breaks -/

lemma normalizeBreaks_of_oneLine {cs : List Char} (h : OneLine cs) : normalizeBreaks cs = cs := by
  induction cs with
  | nil => rfl
  | cons c cs ih =>
    rw [oneLine_cons] at h
    have hc : c ≠ '\r' := by
      rintro rfl
      exact absurd h.1 (by decide)
    rw [normalizeBreaks, ih h.2]
    · rintro rest rfl _
      exact hc rfl
    · exact hc

lemma oneLine_truncateDisplay {limit : Nat} {value : String} (h : OneLine value.toList) :
    OneLine (truncateDisplay limit value).toList := by
  have hnormal : (normalizeNewlines value).toList = value.toList := by
    rw [normalizeNewlines, String.toList_ofList, normalizeBreaks_of_oneLine h]
  unfold truncateDisplay
  dsimp only
  split_ifs
  · rwa [hnormal]
  · rw [String.toList_ofList, hnormal]
    exact h.of_subset (List.take_subset _ _)
  · rw [String.toList_append, String.toList_ofList, hnormal, oneLine_append]
    exact ⟨h.of_subset (List.take_subset _ _), by decide⟩

lemma oneLine_shownText {value : String} (h : OneLine value.toList) : OneLine (shownText value).toList := by
  have hnormal : normalizeNewlines value = value := by
    rw [normalizeNewlines, normalizeBreaks_of_oneLine h, String.ofList_toList]
  rw [shownText, hnormal]
  exact oneLine_truncateDisplay h

/-- Replacing a character that is no line break by a text without them keeps the breaks. -/
lemma oneLine_replaceChar {c : Char} {replacement value : String} (hc : isBreak c = false)
    (hby : OneLine replacement.toList) : OneLine (replaceChar c replacement value).toList ↔ OneLine value.toList := by
  rw [replaceChar, String.toList_ofList]
  constructor
  · intro h x hx
    by_cases hxc : x = c
    · rw [hxc, hc]
    · refine h x (List.mem_flatMap.mpr ⟨x, hx, ?_⟩)
      rw [if_neg hxc]
      exact List.mem_singleton_self x
  · intro h d hd
    obtain ⟨x, hx, hd⟩ := List.mem_flatMap.mp hd
    split_ifs at hd
    · exact hby d hd
    · rw [List.mem_singleton.mp hd]
      exact h x hx

/-- A text is escaped to one line exactly when one line of it is shown. -/
theorem oneLine_escapeMarkdown {value : String} :
    OneLine (escapeMarkdown value).toList ↔ OneLine (shownText value).toList := by
  unfold escapeMarkdown htmlEscape
  rw [oneLine_replaceChar (by decide) (by decide), oneLine_replaceChar (by decide) (by decide),
    oneLine_replaceChar (by decide) (by decide), oneLine_replaceChar (by decide) (by decide),
    oneLine_replaceChar (by decide) (by decide)]

lemma oneLine_escapeMarkdown_of {value : String} (h : OneLine value.toList) :
    OneLine (escapeMarkdown value).toList := oneLine_escapeMarkdown.mpr (oneLine_shownText h)

/-- Replacing all line feeds and carriage returns leaves one line. -/
lemma oneLine_escapeWorkflowCommand (value : String) : OneLine (escapeWorkflowCommand value).toList := by
  unfold escapeWorkflowCommand
  intro d hd
  rw [replaceChar, String.toList_ofList] at hd
  obtain ⟨x, hx, hd⟩ := List.mem_flatMap.mp hd
  split_ifs at hd with hfeed
  · exact (by decide : OneLine "%0A".toList) d hd
  · rw [List.mem_singleton.mp hd]
    rw [replaceChar, String.toList_ofList] at hx
    obtain ⟨y, -, hy⟩ := List.mem_flatMap.mp hx
    split_ifs at hy with hreturn
    · exact (by decide : OneLine "%0D".toList) x hy
    · rw [isBreak, decide_eq_false hfeed, List.mem_singleton.mp hy, decide_eq_false hreturn]
      rfl

lemma oneLine_humanChar (isPrintable : Char → Bool) (c : Char) : OneLine (humanChar isPrintable c) := by
  have escaped : ∀ letter : Char, isBreak letter = false → ∀ width code,
      OneLine ('\\' :: letter :: hexDigits width code) := fun letter h width code =>
    oneLine_cons.mpr ⟨by decide, oneLine_cons.mpr ⟨h, oneLine_hexDigits width code⟩⟩
  unfold humanChar
  dsimp only
  split_ifs with hslash hfeed hreturn
  · decide
  · decide
  · decide
  · decide
  · exact escaped _ (by decide) _ _
  · exact escaped _ (by decide) _ _
  · exact escaped _ (by decide) _ _
  · exact escaped _ (by decide) _ _
  · rw [oneLine_cons, isBreak, decide_eq_false hfeed, decide_eq_false hreturn]
    exact ⟨rfl, oneLine_nil⟩

theorem oneLine_impactSafeDisplay (isPrintable : Char → Bool) (value : String) :
    OneLine (impactSafeDisplay isPrintable value).toList := by
  refine oneLine_escapeMarkdown_of (oneLine_truncateDisplay ?_)
  rw [formatHumanValue, String.toList_ofList]
  exact oneLine_flatMap (oneLine_humanChar isPrintable)

lemma oneLine_escapeUnit (n : Nat) : OneLine (escapeUnit n) :=
  oneLine_cons.mpr ⟨by decide, oneLine_cons.mpr ⟨by decide, oneLine_hexDigits 4 n⟩⟩

lemma oneLine_escapeChar (c : Char) : OneLine (escapeChar c) := by
  unfold escapeChar
  cases hshort : shortEscape c with
  | some e =>
    refine oneLine_cons.mpr ⟨by decide, oneLine_cons.mpr ⟨?_, oneLine_nil⟩⟩
    unfold shortEscape at hshort
    split_ifs at hshort <;> cases hshort <;> decide
  | none =>
    dsimp only
    split_ifs with hplain
    · refine oneLine_cons.mpr ⟨?_, oneLine_nil⟩
      rw [isBreak, Bool.or_eq_false_iff, decide_eq_false_iff_not, decide_eq_false_iff_not]
      constructor
      · rintro rfl
        exact absurd hplain (by decide)
      · rintro rfl
        exact absurd hplain (by decide)
    · exact oneLine_escapeUnit _
    · exact oneLine_append.mpr ⟨oneLine_escapeUnit _, oneLine_escapeUnit _⟩

theorem oneLine_reviewSafeScalar (value : String) : OneLine (reviewSafeScalar value).toList := by
  refine oneLine_escapeMarkdown_of ?_
  rw [String.toList_ofList]
  exact oneLine_flatMap oneLine_escapeChar

example : escapeMarkdown "a|b\r\n<c>" = "a\\|b\n&lt;c&gt;" := by decide

end CollibraGovernance.GithubCi
