import CollibraGovernance.Library.CanonicalJson

/-! Texts made of lines: splitting them back, and replacing a word in them. -/
namespace CollibraGovernance.Library

/-- Line feed and carriage return. -/
def isBreak (c : Char) : Bool := c = '\n' || c = '\r'

/-- A text without line breaks. -/
def OneLine (cs : List Char) : Prop := ∀ c ∈ cs, isBreak c = false

instance (cs : List Char) : Decidable (OneLine cs) := List.decidableBAll (fun c => isBreak c = false) cs

@[simp] lemma oneLine_nil : OneLine [] := fun _ h => absurd h List.not_mem_nil

@[simp] lemma oneLine_append {xs ys : List Char} : OneLine (xs ++ ys) ↔ OneLine xs ∧ OneLine ys :=
  List.forall_mem_append

@[simp] lemma oneLine_cons {c : Char} {cs : List Char} : OneLine (c :: cs) ↔ isBreak c = false ∧ OneLine cs :=
  List.forall_mem_cons

lemma OneLine.of_subset {xs ys : List Char} (h : OneLine ys) (hsub : xs ⊆ ys) : OneLine xs := fun c hc => h c (hsub hc)

lemma oneLine_flatMap {f : Char → List Char} {cs : List Char} (h : ∀ c, OneLine (f c)) : OneLine (cs.flatMap f) := by
  intro d hd
  obtain ⟨c, -, hd⟩ := List.mem_flatMap.mp hd
  exact h c d hd

lemma oneLine_of_alphanum {cs : List Char} (h : ∀ c ∈ cs, Json.isNumberChar c = true) : OneLine cs := by
  intro c hc
  rw [isBreak, Bool.or_eq_false_iff, decide_eq_false_iff_not, decide_eq_false_iff_not]
  constructor
  · rintro rfl
    exact absurd (h _ hc) (by decide)
  · rintro rfl
    exact absurd (h _ hc) (by decide)

lemma oneLine_hexDigit (n : Nat) : isBreak (hexDigit n) = false := by
  by_cases h : n < 16
  · exact (by decide : ∀ n < 16, isBreak (hexDigit n) = false) n h
  · unfold hexDigit
    rw [List.getD_eq_getElem?_getD, List.getElem?_eq_none (by rw [show "0123456789abcdef".toList.length = 16 from rfl]; omega)]
    decide

lemma oneLine_hexDigits (width n : Nat) : OneLine (hexDigits width n) := by
  induction width generalizing n with
  | zero => exact oneLine_nil
  | succ width ih =>
    rw [hexDigits, oneLine_append]
    exact ⟨ih _, oneLine_cons.mpr ⟨oneLine_hexDigit _, oneLine_nil⟩⟩

/-- The text is split at its line breaks. -/
def splitLines (text : List Char) : List (List Char) := text.splitOnP isBreak

/-- The number of lines counts the breaks. -/
lemma length_splitLines (text : List Char) : (splitLines text).length = text.countP isBreak + 1 := by
  unfold splitLines
  induction text with
  | nil => rfl
  | cons c cs ih =>
    rw [List.splitOnP_cons_eq_if_modifyHead, List.countP_cons]
    split_ifs with h
    · rw [List.length_cons, ih]
    · rw [List.length_modifyHead, ih, Nat.add_zero]

lemma countP_isBreak {cs : List Char} : cs.countP isBreak = 0 ↔ OneLine cs := by
  rw [List.countP_eq_zero]
  exact forall₂_congr fun c _ => Bool.not_eq_true (isBreak c) ▸ Iff.rfl

/-- Every line ended by a line feed. -/
def endLines (lines : List (List Char)) : List Char := lines.flatMap (· ++ ['\n'])

@[simp] lemma endLines_cons (l : List Char) (ls : List (List Char)) : endLines (l :: ls) = l ++ '\n' :: endLines ls := by
  rw [endLines, List.flatMap_cons, List.append_assoc]
  rfl

/-- Joining lines by line feeds and ending the text with one ends every line. -/
lemma toList_endedLines {lines : List String} (h : lines ≠ []) :
    ("\n".intercalate lines ++ "\n").toList = endLines (lines.map String.toList) := by
  induction lines with
  | nil => exact absurd rfl h
  | cons l ls ih =>
    rw [List.map_cons, endLines_cons]
    cases ls with
    | nil =>
      rw [String.intercalate_singleton, String.toList_append]
      rfl
    | cons l' ls =>
      have htail := ih (List.cons_ne_nil _ _)
      rw [String.toList_append] at htail
      rw [String.intercalate_cons_cons, String.toList_append, String.toList_append, String.toList_append,
        List.append_assoc, List.append_assoc, htail]
      rfl

/-- Lines of one line each are split back, with nothing after the last one. -/
lemma splitLines_endLines {lines : List (List Char)} (h : ∀ l ∈ lines, OneLine l) :
    splitLines (endLines lines) = lines ++ [[]] := by
  induction lines with
  | nil => rfl
  | cons l ls ih =>
    rw [endLines_cons, splitLines,
      List.splitOnP_append_cons_of_forall_mem (h l List.mem_cons_self) _ (by decide)]
    exact congrArg (l :: ·) (ih fun l' hl' => h l' (List.mem_cons_of_mem _ hl'))

lemma countP_endLines (lines : List (List Char)) :
    (endLines lines).countP isBreak = (lines.map fun l => l.countP isBreak + 1).foldr (· + ·) 0 := by
  induction lines with
  | nil => rfl
  | cons l ls ih =>
    rw [endLines_cons, List.countP_append, List.countP_cons, ih, List.map_cons, List.foldr_cons]
    simp only [isBreak, decide_true, Bool.true_or, if_true]
    omega

/-- A text has as many lines as were ended exactly when none of them has a break of its own. -/
lemma oneLine_of_length {lines : List (List Char)} (h : (splitLines (endLines lines)).length = lines.length + 1) :
    ∀ l ∈ lines, OneLine l := by
  rw [length_splitLines, countP_endLines] at h
  have hcount : (lines.map fun l => l.countP isBreak + 1).foldr (· + ·) 0 = lines.length := by omega
  clear h
  induction lines with
  | nil => exact fun _ h => absurd h List.not_mem_nil
  | cons l ls ih =>
    have hle : ∀ ls : List (List Char), ls.length ≤ (ls.map fun l => l.countP isBreak + 1).foldr (· + ·) 0 := by
      intro ls
      induction ls with
      | nil => exact Nat.le_refl _
      | cons l ls ih =>
        rw [List.map_cons, List.foldr_cons, List.length_cons]
        omega
    have hrest := hle ls
    rw [List.map_cons, List.foldr_cons, List.length_cons] at hcount
    rw [List.forall_mem_cons]
    exact ⟨countP_isBreak.mp (by omega), ih (by omega)⟩

/-- The text has one line for each head, which starts with it, and an empty last line. -/
def Follows (heads : List String) (text : List Char) : Prop :=
  List.Forall₂ (fun (head : String) line => head.toList <+: line) (heads ++ [""]) (splitLines text)

/-- Ended lines that start with the heads follow them exactly when none has a break. -/
theorem follows_endLines {heads : List String} {lines : List (List Char)}
    (h : List.Forall₂ (fun (head : String) line => head.toList <+: line) heads lines) :
    Follows heads (endLines lines) ↔ ∀ l ∈ lines, OneLine l := by
  constructor
  · intro hfollows
    have hlength := hfollows.length_eq
    rw [List.length_append, List.length_singleton, h.length_eq] at hlength
    exact oneLine_of_length hlength.symm
  · intro hone
    unfold Follows
    rw [splitLines_endLines hone]
    exact List.rel_append h (List.Forall₂.cons (List.prefix_refl _) List.Forall₂.nil)

section ReplaceWord
variable (isWord : Char → Bool) (same : Char → Char → Bool)

/-- The letters of a word, up to the sameness of letters, and no word character after them. -/
def wordAt : List Char → List Char → Bool
  | [], rest => !(rest.head?.map isWord).getD false
  | _ :: _, [] => false
  | letter :: letters, c :: cs => same letter c && wordAt letters cs

variable (word replacement : List Char)

/-- Whole words are replaced from left to right; `skip` characters of a replaced word are still to be passed. -/
def replaceWord : Nat → Bool → List Char → List Char
  | _, _, [] => []
  | skip + 1, _, c :: cs => replaceWord skip (isWord c) cs
  | 0, afterWord, c :: cs =>
    if !afterWord && wordAt isWord same word (c :: cs) then
      replacement ++ replaceWord (word.length - 1) (isWord c) cs
    else c :: replaceWord 0 (isWord c) cs

variable {isWord same word replacement}

/-- The letters of the word are no line breaks. -/
def NoBreakLetters (same : Char → Char → Bool) (word : List Char) : Prop :=
  ∀ letter ∈ word, ∀ c, same letter c = true → isBreak c = false

lemma oneLine_take_of_wordAt {word cs : List Char} (hword : NoBreakLetters same word)
    (h : wordAt isWord same word cs = true) : OneLine (cs.take word.length) := by
  induction word generalizing cs with
  | nil =>
    rw [List.length_nil, List.take_zero]
    exact oneLine_nil
  | cons letter letters ih =>
    cases cs with
    | nil => cases h
    | cons c cs =>
      rw [wordAt, Bool.and_eq_true] at h
      rw [List.length_cons, List.take_succ_cons, oneLine_cons]
      exact ⟨hword letter List.mem_cons_self c h.1, ih (fun l hl => hword l (List.mem_cons_of_mem _ hl)) h.2⟩

lemma length_le_of_wordAt {word cs : List Char} (h : wordAt isWord same word cs = true) :
    word.length ≤ cs.length := by
  induction word generalizing cs with
  | nil => exact Nat.zero_le _
  | cons letter letters ih =>
    cases cs with
    | nil => cases h
    | cons c cs =>
      rw [wordAt, Bool.and_eq_true] at h
      rw [List.length_cons, List.length_cons]
      exact Nat.succ_le_succ (ih h.2)

/-- Replacing a word neither adds nor removes line breaks. -/
lemma oneLine_replaceWord (hne : word ≠ []) (hword : NoBreakLetters same word) (hby : OneLine replacement)
    (cs : List Char) (skip : Nat) (after : Bool) :
    OneLine (replaceWord isWord same word replacement skip after cs) ↔ OneLine (cs.drop skip) := by
  induction cs generalizing skip after with
  | nil =>
    rw [replaceWord, List.drop_nil]
  | cons c cs ih =>
    cases skip with
    | succ skip => rw [replaceWord, List.drop_succ_cons, ih]
    | zero =>
      rw [replaceWord, List.drop_zero]
      split_ifs with h
      · rw [Bool.and_eq_true] at h
        have hletters := oneLine_take_of_wordAt hword h.2
        obtain ⟨letter, letters, rfl⟩ := List.exists_cons_of_ne_nil hne
        rw [oneLine_append, ih, List.length_cons, Nat.add_sub_cancel]
        rw [List.length_cons, List.take_succ_cons, oneLine_cons] at hletters
        rw [oneLine_cons, ← List.take_append_drop letters.length cs, oneLine_append, List.take_append_drop]
        simp only [hby, hletters, true_and]
      · rw [oneLine_cons, oneLine_cons, ih, List.drop_zero]

lemma wordAt_append_break {word : List Char} (hword : NoBreakLetters same word) (hbreak : isWord '\n' = false)
    (l rest : List Char) : wordAt isWord same word (l ++ '\n' :: rest) = wordAt isWord same word l := by
  induction word generalizing l with
  | nil =>
    cases l with
    | nil => simp [wordAt, hbreak]
    | cons c cs => rfl
  | cons letter letters ih =>
    cases l with
    | nil =>
      rw [List.nil_append, wordAt, wordAt]
      cases h : same letter '\n' with
      | false => rfl
      | true => exact absurd (hword letter List.mem_cons_self _ h) (by decide)
    | cons c cs =>
      rw [List.cons_append, wordAt, wordAt, ih fun l hl => hword l (List.mem_cons_of_mem _ hl)]

/-- Words are replaced line by line. -/
lemma replaceWord_append_break (hne : word ≠ []) (hword : NoBreakLetters same word) (hbreak : isWord '\n' = false)
    (l rest : List Char) (skip : Nat) (after : Bool) (hskip : skip ≤ l.length) :
    replaceWord isWord same word replacement skip after (l ++ '\n' :: rest) =
      replaceWord isWord same word replacement skip after l ++
        '\n' :: replaceWord isWord same word replacement 0 false rest := by
  induction l generalizing skip after with
  | nil =>
    obtain rfl : skip = 0 := Nat.le_zero.mp hskip
    have hnot : wordAt isWord same word ('\n' :: rest) = false := by
      obtain ⟨letter, letters, rfl⟩ := List.exists_cons_of_ne_nil hne
      rw [wordAt]
      cases h : same letter '\n' with
      | false => rfl
      | true => exact absurd (hword letter List.mem_cons_self _ h) (by decide)
    rw [List.nil_append, replaceWord, replaceWord, hnot, Bool.and_false, if_neg Bool.false_ne_true, hbreak]
    rfl
  | cons c cs ih =>
    cases skip with
    | succ skip =>
      rw [List.cons_append, replaceWord, replaceWord, ih]
      exact Nat.le_of_succ_le_succ hskip
    | zero =>
      rw [List.cons_append, replaceWord, replaceWord, ← List.cons_append, wordAt_append_break hword hbreak]
      split_ifs with h
      · rw [Bool.and_eq_true] at h
        have hlength := length_le_of_wordAt h.2
        rw [List.length_cons] at hlength
        rw [ih _ _ (by omega), List.append_assoc]
      · rw [ih _ _ (Nat.zero_le _), List.cons_append]

lemma replaceWord_endLines (hne : word ≠ []) (hword : NoBreakLetters same word) (hbreak : isWord '\n' = false)
    (lines : List (List Char)) :
    replaceWord isWord same word replacement 0 false (endLines lines) =
      endLines (lines.map (replaceWord isWord same word replacement 0 false)) := by
  induction lines with
  | nil => rfl
  | cons l ls ih =>
    rw [endLines_cons, replaceWord_append_break hne hword hbreak _ _ _ _ (Nat.zero_le _), ih, List.map_cons,
      endLines_cons]

/-- The text disagrees with the word before either ends. -/
def clashes (same : Char → Char → Bool) : List Char → List Char → Bool
  | letter :: letters, c :: cs => !same letter c || clashes same letters cs
  | _, _ => false

/-- No occurrence of the word starts in the text, whatever follows it. -/
def inert (same : Char → Char → Bool) (word : List Char) : List Char → Bool
  | [] => true
  | c :: cs => clashes same word (c :: cs) && inert same word cs

lemma wordAt_of_clashes {word cs : List Char} (h : clashes same word cs = true) (rest : List Char) :
    wordAt isWord same word (cs ++ rest) = false := by
  induction word generalizing cs with
  | nil => cases h
  | cons letter letters ih =>
    cases cs with
    | nil => cases h
    | cons c cs =>
      rw [clashes, Bool.or_eq_true, Bool.not_eq_true'] at h
      rw [List.cons_append, wordAt]
      rcases h with h | h
      · rw [h, Bool.false_and]
      · rw [ih h, Bool.and_false]

/-- A head in which no occurrence of the word starts stays as it is. -/
lemma prefix_replaceWord {head line : List Char} (hinert : inert same word head = true) (h : head <+: line)
    (after : Bool) : head <+: replaceWord isWord same word replacement 0 after line := by
  obtain ⟨rest, rfl⟩ := h
  induction head generalizing after with
  | nil => exact List.nil_prefix
  | cons c cs ih =>
    rw [inert, Bool.and_eq_true] at hinert
    rw [List.cons_append, replaceWord, ← List.cons_append, wordAt_of_clashes hinert.1, Bool.and_false,
      if_neg Bool.false_ne_true, List.cons_prefix_cons]
    exact ⟨rfl, ih hinert.2 _⟩

end ReplaceWord
end CollibraGovernance.Library
