import CollibraGovernance.Library.JoinedNames
import CollibraGovernance.Library.Outcome

/-! Relative POSIX paths: their parts, normalisers with rules of their own, and joining a path to a root. -/
namespace CollibraGovernance.Library

/-- `text.replace("\\", "/")` -/
def forwardSlashes (text : List Char) : List Char := text.map fun c => if c = '\\' then '/' else c

def isAbsolute (text : List Char) : Bool := text.head? = some '/'
def hasDrive (text : List Char) : Bool := text[1]? = some ':'

/-- A segment that names something. -/
def isNamed (part : List Char) : Bool := part ≠ [] && part ≠ ['.']

/-- `PurePosixPath(text).parts` of a text that is not absolute. -/
def posixParts (text : List Char) : List (List Char) := (text.splitOn '/').filter isNamed

def joinParts (parts : List (List Char)) : List Char := ['/'].intercalate parts

/-- What a normaliser of relative paths refuses, and the errors it raises. -/
structure PathRules (ε : Type) where
  empty : ε
  refuseRaw : List Char → Option ε
  refuseText : List Char → Option ε
  refusePart : List Char → Option ε

def raiseIf {ε : Type} : Option ε → Except ε Unit
  | none => .ok ()
  | some e => .error e

/-- The loop over the parts: nameless ones are passed, and the first refused one is raised. -/
def keepParts {ε : Type} (rules : PathRules ε) : List (List Char) → Except ε (List (List Char))
  | [] => .ok []
  | part :: rest =>
    if isNamed part = false then keepParts rules rest
    else do
      raiseIf (rules.refusePart part)
      return part :: (← keepParts rules rest)

/-- The text whose parts are read. -/
def pathText (raw : String) : List Char := forwardSlashes (strip raw).toList

def normalizePath {ε : Type} (rules : PathRules ε) (raw : String) : Except ε String :=
  if isBlank raw then .error rules.empty
  else do
    raiseIf (rules.refuseRaw raw.toList)
    raiseIf (rules.refuseText (pathText raw))
    let parts ← keepParts rules (posixParts (pathText raw))
    if parts = [] then .error rules.empty else return String.ofList (joinParts parts)

/-- The inputs that are not refused. -/
structure PathRules.Accepts {ε : Type} (rules : PathRules ε) (raw : String) : Prop where
  nonblank : isBlank raw = false
  raw_ok : rules.refuseRaw raw.toList = none
  text_ok : rules.refuseText (pathText raw) = none
  parts_ok : ∀ part ∈ posixParts (pathText raw), rules.refusePart part = none
  named : posixParts (pathText raw) ≠ []

section Normalize
variable {ε : Type} {rules : PathRules ε}

@[simp] lemma raiseIf_eq_ok {e : Option ε} {u : Unit} : raiseIf e = .ok u ↔ e = none := by
  cases e with
  | none => exact ⟨fun _ => rfl, fun _ => rfl⟩
  | some e =>
    constructor
    · rintro ⟨⟩
    · rintro ⟨⟩

lemma keepParts_eq_ok {parts kept : List (List Char)} : keepParts rules parts = .ok kept ↔
    (∀ part ∈ parts.filter isNamed, rules.refusePart part = none) ∧ kept = parts.filter isNamed := by
  induction parts generalizing kept with
  | nil =>
    rw [keepParts, List.filter_nil, Except.ok.injEq]
    exact ⟨fun h => ⟨fun _ hmem => absurd hmem List.not_mem_nil, h.symm⟩, fun h => h.2.symm⟩
  | cons part rest ih =>
    rw [keepParts]
    by_cases hnamed : isNamed part = true
    · rw [if_neg (by rw [hnamed]; decide), List.filter_cons_of_pos hnamed, List.forall_mem_cons]
      constructor
      · intro h
        obtain ⟨u, hpart, h⟩ := bind_eq_ok.mp h
        obtain ⟨tail, htail, hout⟩ := bind_eq_ok.mp h
        obtain ⟨hrest, rfl⟩ := ih.mp htail
        cases hout
        exact ⟨⟨raiseIf_eq_ok.mp hpart, hrest⟩, rfl⟩
      · rintro ⟨⟨hpart, hrest⟩, rfl⟩
        rw [hpart, ih.mpr ⟨hrest, rfl⟩]
        rfl
    · rw [Bool.not_eq_true] at hnamed
      rw [if_pos hnamed, List.filter_cons_of_neg (by rw [hnamed]; decide), ih]

lemma posixParts_filter (text : List Char) : (posixParts text).filter isNamed = posixParts text := by
  rw [posixParts, List.filter_filter]
  simp only [Bool.and_self]

/-- A path is accepted exactly where nothing is refused, and then its parts are joined. -/
theorem normalizePath_eq_ok {raw path : String} : normalizePath rules raw = .ok path ↔
    rules.Accepts raw ∧ path = String.ofList (joinParts (posixParts (pathText raw))) := by
  unfold normalizePath
  constructor
  · intro h
    split_ifs at h with hblank
    obtain ⟨u, hraw, h⟩ := bind_eq_ok.mp h
    obtain ⟨v, htext, h⟩ := bind_eq_ok.mp h
    obtain ⟨parts, hparts, h⟩ := bind_eq_ok.mp h
    have hkept := keepParts_eq_ok.mp hparts
    rw [posixParts_filter] at hkept
    obtain ⟨hrefused, hparts⟩ := hkept
    rw [hparts] at h
    split_ifs at h with hempty
    exact ⟨⟨Bool.eq_false_iff.mpr hblank, raiseIf_eq_ok.mp hraw, raiseIf_eq_ok.mp htext, hrefused, hempty⟩,
      (pure_eq_ok.mp h).symm⟩
  · rintro ⟨⟨hblank, hraw, htext, hparts, hnamed⟩, rfl⟩
    have hkept : keepParts rules (posixParts (pathText raw)) = .ok (posixParts (pathText raw)) :=
      keepParts_eq_ok.mpr ⟨by rwa [posixParts_filter], (posixParts_filter _).symm⟩
    rw [if_neg (Bool.eq_false_iff.mp hblank), hraw, htext, hkept]
    simp only [raiseIf, ok_bind]
    rw [if_neg hnamed]
    rfl

end Normalize

/-! ### Joined parts -/

@[simp] lemma joinParts_nil : joinParts [] = [] := rfl
@[simp] lemma joinParts_singleton (part : List Char) : joinParts [part] = part := List.intercalate_singleton

lemma joinParts_cons_cons (part next : List Char) (rest : List (List Char)) :
    joinParts (part :: next :: rest) = part ++ '/' :: joinParts (next :: rest) := by
  rw [joinParts, List.intercalate_cons_cons, List.append_assoc]
  rfl

@[simp] lemma joinParts_splitOn (text : List Char) : joinParts (text.splitOn '/') = text := List.intercalate_splitOn '/'

lemma isNamed_eq_true {part : List Char} : isNamed part = true ↔ part ≠ [] ∧ part ≠ ['.'] := by
  rw [isNamed, Bool.and_eq_true, decide_eq_true_iff, decide_eq_true_iff]

lemma mem_posixParts {text part : List Char} (h : part ∈ posixParts text) : '/' ∉ part ∧ isNamed part = true := by
  obtain ⟨hmem, hnamed⟩ := List.mem_filter.mp h
  exact ⟨not_mem_of_mem_splitOn hmem, hnamed⟩

/-- Joined parts are read back. -/
lemma posixParts_joinParts {parts : List (List Char)} (hne : parts ≠ [])
    (h : ∀ part ∈ parts, '/' ∉ part ∧ isNamed part = true) : posixParts (joinParts parts) = parts := by
  rw [posixParts, joinParts, List.splitOn_intercalate _ (fun part hpart => (h part hpart).1) hne,
    List.filter_eq_self]
  exact fun part hpart => (h part hpart).2

lemma mem_joinParts {parts : List (List Char)} {c : Char} (h : c ∈ joinParts parts) :
    c = '/' ∨ ∃ part ∈ parts, c ∈ part := by
  induction parts with
  | nil => exact absurd h List.not_mem_nil
  | cons part rest ih =>
    cases rest with
    | nil =>
      rw [joinParts_singleton] at h
      exact Or.inr ⟨part, List.mem_cons_self, h⟩
    | cons next rest =>
      rw [joinParts_cons_cons, List.mem_append, List.mem_cons] at h
      rcases h with h | h | h
      · exact Or.inr ⟨part, List.mem_cons_self, h⟩
      · exact Or.inl h
      · rcases ih h with h | ⟨p, hp, hc⟩
        · exact Or.inl h
        · exact Or.inr ⟨p, List.mem_cons_of_mem _ hp, hc⟩

lemma mem_of_mem_part {parts : List (List Char)} {part : List Char} {c : Char} (hpart : part ∈ parts)
    (hc : c ∈ part) : c ∈ joinParts parts := by
  induction parts with
  | nil => exact absurd hpart List.not_mem_nil
  | cons first rest ih =>
    cases rest with
    | nil =>
      rw [List.mem_singleton] at hpart
      rwa [joinParts_singleton, ← hpart]
    | cons next rest =>
      rw [joinParts_cons_cons, List.mem_append, List.mem_cons]
      rcases List.mem_cons.mp hpart with rfl | hpart
      · exact Or.inl hc
      · exact Or.inr (Or.inr (ih hpart))

/-- The characters of a joined path are those of its text, and slashes. -/
lemma mem_of_mem_joinParts_posixParts {text : List Char} {c : Char} (h : c ∈ joinParts (posixParts text)) :
    c = '/' ∨ c ∈ text := by
  rcases mem_joinParts h with h | ⟨part, hpart, hc⟩
  · exact Or.inl h
  · have hmem := mem_of_mem_part (List.mem_filter.mp hpart).1 hc
    rw [joinParts, List.intercalate_splitOn] at hmem
    exact Or.inr hmem

/-- Leaving parts out does not make a path longer. -/
lemma length_joinParts_filter_le (f : List Char → Bool) (parts : List (List Char)) :
    (joinParts (parts.filter f)).length ≤ (joinParts parts).length := by
  induction parts with
  | nil => exact Nat.le_refl _
  | cons part rest ih =>
    cases rest with
    | nil =>
      by_cases h : f part = true
      · rw [List.filter_cons_of_pos h]
        exact Nat.le_refl _
      · rw [List.filter_cons_of_neg h]
        exact Nat.zero_le _
    | cons next rest =>
      rw [joinParts_cons_cons, List.length_append, List.length_cons]
      by_cases h : f part = true
      · rw [List.filter_cons_of_pos h]
        cases hrest : (next :: rest).filter f with
        | nil =>
          rw [joinParts_singleton]
          omega
        | cons kept others =>
          rw [joinParts_cons_cons, List.length_append, List.length_cons, ← hrest]
          omega
      · rw [List.filter_cons_of_neg h]
        omega

lemma length_joinParts_posixParts_le (text : List Char) : (joinParts (posixParts text)).length ≤ text.length := by
  have h := length_joinParts_filter_le isNamed (text.splitOn '/')
  rwa [joinParts_splitOn] at h

lemma head?_joinParts {part : List Char} (h : part ≠ []) (rest : List (List Char)) :
    (joinParts (part :: rest)).head? = part.head? := by
  cases rest with
  | nil => rw [joinParts_singleton]
  | cons next rest => rw [joinParts_cons_cons, List.head?_append_of_ne_nil _ h]

lemma getLast?_joinParts {parts : List (List Char)} (h : ∀ part ∈ parts, part ≠ []) :
    (joinParts parts).getLast? = parts.getLast?.bind List.getLast? := by
  induction parts with
  | nil => rfl
  | cons part rest ih =>
    cases rest with
    | nil => rw [joinParts_singleton, List.getLast?_singleton, Option.bind_some]
    | cons next rest =>
      have hrest := ih (fun p hp => h p (List.mem_cons_of_mem _ hp))
      have hne : joinParts (next :: rest) ≠ [] := by
        intro hnil
        rw [← List.head?_eq_none_iff, head?_joinParts (h next (List.mem_cons_of_mem _ List.mem_cons_self)),
          List.head?_eq_none_iff] at hnil
        exact h next (List.mem_cons_of_mem _ List.mem_cons_self) hnil
      rw [joinParts_cons_cons, List.getLast?_append_of_ne_nil _ (List.cons_ne_nil _ _), List.getLast?_cons_of_ne_nil hne, hrest,
        List.getLast?_cons_cons]

lemma hasDrive_joinParts {part : List Char} (h : part ≠ []) (rest : List (List Char)) :
    hasDrive (joinParts (part :: rest)) = hasDrive part := by
  cases rest with
  | nil => rw [joinParts_singleton]
  | cons next rest =>
    rw [joinParts_cons_cons]
    match part, h with
    | [c], _ => rfl
    | c :: d :: cs, _ => rfl

/-! ### White space at the ends -/

lemma dropWhile_eq_self {p : Char → Bool} {cs : List Char} :
    cs.dropWhile p = cs ↔ ∀ c ∈ cs.head?, p c = false := by
  cases cs with
  | nil => exact ⟨fun _ _ h => absurd h (Option.not_mem_none _), fun _ => rfl⟩
  | cons c cs =>
    rw [List.dropWhile_cons, List.head?_cons]
    constructor
    · intro h d hd
      cases hd
      split_ifs at h with hc
      · have hle := (List.dropWhile_suffix p (l := cs)).length_le
        rw [h, List.length_cons] at hle
        omega
      · exact Bool.not_eq_true _ ▸ hc
    · intro h
      rw [if_neg (Bool.eq_false_iff.mp (h c rfl))]

/-- A text is stripped when neither its first nor its last character is white space. -/
lemma strip_eq_self_iff {s : String} : strip s = s ↔
    (∀ c ∈ s.toList.head?, isSpace c = false) ∧ ∀ c ∈ s.toList.getLast?, isSpace c = false := by
  rw [← List.head?_reverse, ← dropWhile_eq_self, ← dropWhile_eq_self, ← String.toList_inj, strip,
    String.toList_ofList]
  constructor
  · intro h
    have hle := (List.dropWhile_suffix isSpace (l := (s.toList.dropWhile isSpace).reverse)).length_le
    rw [List.length_reverse, ← List.length_reverse, h] at hle
    have hhead : s.toList.dropWhile isSpace = s.toList :=
      (List.dropWhile_suffix isSpace).eq_of_length_le hle
    refine ⟨hhead, ?_⟩
    rw [hhead] at h
    rw [← List.reverse_inj, h, List.reverse_reverse]
  · rintro ⟨hhead, hlast⟩
    rw [hhead, hlast, List.reverse_reverse]

/-- The first part of a path that reads back: no white space before it, and no drive. -/
def startsPlain (part : List Char) : Bool := part.head?.all (fun c => !isSpace c) && !hasDrive part

/-- The last part of a path that reads back: no white space after it. -/
def endsPlain (part : List Char) : Bool := part.getLast?.all (fun c => !isSpace c)

/-- Neither end of the input hides white space or a drive behind segments that are left out. -/
def plainEnds (raw : String) : Bool :=
  (posixParts (pathText raw)).head?.all startsPlain && (posixParts (pathText raw)).getLast?.all endsPlain

lemma all_eq_true_iff {α : Type} {p : α → Bool} {o : Option α} : o.all p = true ↔ ∀ a ∈ o, p a = true := by
  cases o with
  | none => exact ⟨fun _ _ h => absurd h (Option.not_mem_none _), fun _ => rfl⟩
  | some a =>
    constructor
    · rintro h b ⟨⟩
      exact h
    · exact fun h => h a rfl

/-- Joined parts have plain ends exactly when the path they make is stripped and has no drive. -/
lemma plain_joinParts_iff {parts : List (List Char)} (h : ∀ part ∈ parts, part ≠ []) :
    (parts.head?.all startsPlain && parts.getLast?.all endsPlain) = true ↔
      strip (String.ofList (joinParts parts)) = String.ofList (joinParts parts) ∧ hasDrive (joinParts parts) = false := by
  rw [strip_eq_self_iff, String.toList_ofList, getLast?_joinParts h, Bool.and_eq_true]
  cases parts with
  | nil =>
    refine ⟨fun _ => ⟨⟨?_, ?_⟩, rfl⟩, fun _ => ⟨rfl, rfl⟩⟩
    · exact fun c hc => absurd hc (Option.not_mem_none _)
    · exact fun c hc => absurd hc (Option.not_mem_none _)
  | cons part rest =>
    have hpart := h part List.mem_cons_self
    rw [head?_joinParts hpart, hasDrive_joinParts hpart, List.head?_cons, Option.all_some, startsPlain,
      Bool.and_eq_true, Bool.not_eq_true', all_eq_true_iff, all_eq_true_iff]
    simp only [endsPlain, all_eq_true_iff, Bool.not_eq_true', Option.mem_def, Option.bind_eq_some_iff]
    constructor
    · rintro ⟨⟨hfirst, hdrive⟩, hlast⟩
      exact ⟨⟨hfirst, fun c ⟨last, hmem, hc⟩ => hlast last hmem c hc⟩, hdrive⟩
    · rintro ⟨⟨hfirst, hlast⟩, hdrive⟩
      exact ⟨⟨hfirst, hdrive⟩, fun last hmem c hc => hlast c ⟨last, hmem, hc⟩⟩

/-! ### Accepted paths read back -/

lemma mem_forwardSlashes {text : List Char} {c : Char} (h : c ∈ forwardSlashes text) :
    c ≠ '\\' ∧ (c = '/' ∨ c ∈ text) := by
  obtain ⟨d, hd, hc⟩ := List.mem_map.mp h
  split_ifs at hc with hback
  · rw [← hc]
    exact ⟨by decide, Or.inl rfl⟩
  · rw [← hc]
    exact ⟨hback, Or.inr hd⟩

lemma forwardSlashes_eq_self {text : List Char} (h : '\\' ∉ text) : forwardSlashes text = text := by
  rw [forwardSlashes]
  refine (List.map_congr_left fun c hc => if_neg ?_).trans (List.map_id text)
  rintro rfl
  exact h hc

lemma mem_strip {s : String} {c : Char} (h : c ∈ (strip s).toList) : c ∈ s.toList := by
  rw [strip, String.toList_ofList, List.mem_reverse] at h
  exact (List.dropWhile_sublist isSpace).subset (List.mem_reverse.mp ((List.dropWhile_sublist isSpace).subset h))

/-- Rules that refuse absolute and drive-qualified texts and no others, and an input only for its characters
other than slashes. -/
structure PathRules.Lawful {ε : Type} (rules : PathRules ε) : Prop where
  raw_mono : ∀ xs ys, (∀ c ∈ ys, c = '/' ∨ c ∈ xs) → rules.refuseRaw xs = none → rules.refuseRaw ys = none
  text_iff : ∀ text, rules.refuseText text = none ↔ isAbsolute text = false ∧ hasDrive text = false

/-- The normaliser accepts the path and leaves it alone, and the path is neither absolute nor drive-qualified. -/
structure ReadsBack {ε : Type} (normalize : String → Except ε String) (path : String) : Prop where
  fixed : normalize path = .ok path
  not_absolute : isAbsolute path.toList = false
  no_drive : hasDrive path.toList = false

section ReadsBack
variable {ε : Type} {rules : PathRules ε}

lemma ne_nil_of_mem_posixParts {text part : List Char} (h : part ∈ posixParts text) : part ≠ [] :=
  (isNamed_eq_true.mp (mem_posixParts h).2).1

/-- A path made of parts has no backslash and is not absolute. -/
lemma joinParts_posixParts_relative {text : List Char} (h : '\\' ∉ text) :
    forwardSlashes (joinParts (posixParts text)) = joinParts (posixParts text) ∧
      isAbsolute (joinParts (posixParts text)) = false := by
  constructor
  · refine forwardSlashes_eq_self fun hmem => ?_
    rcases mem_of_mem_joinParts_posixParts hmem with hslash | htext
    · exact absurd hslash (by decide)
    · exact h htext
  · rw [isAbsolute, decide_eq_false_iff_not]
    cases hparts : posixParts text with
    | nil =>
      rw [joinParts_nil]
      exact fun h => absurd h (by decide)
    | cons part rest =>
      have hmem : part ∈ posixParts text := by
        rw [hparts]
        exact List.mem_cons_self
      rw [head?_joinParts (ne_nil_of_mem_posixParts hmem)]
      exact fun h => (mem_posixParts hmem).1 (List.mem_of_mem_head? h)

/-- An accepted path is fixed when nothing is stripped from it and it has no drive. -/
lemma normalizePath_fixed_iff (hrules : rules.Lawful) {raw : String} (h : rules.Accepts raw) :
    normalizePath rules (String.ofList (joinParts (posixParts (pathText raw)))) =
        .ok (String.ofList (joinParts (posixParts (pathText raw)))) ↔
      strip (String.ofList (joinParts (posixParts (pathText raw)))) =
          String.ofList (joinParts (posixParts (pathText raw))) ∧
        hasDrive (joinParts (posixParts (pathText raw))) = false := by
  have hback : '\\' ∉ pathText raw := fun hmem => (mem_forwardSlashes hmem).1 rfl
  obtain ⟨hslashes, habsolute⟩ := joinParts_posixParts_relative hback
  have hparts : posixParts (joinParts (posixParts (pathText raw))) = posixParts (pathText raw) :=
    posixParts_joinParts h.named fun part hpart => mem_posixParts hpart
  set cs := joinParts (posixParts (pathText raw)) with hcs
  have hpath : strip (String.ofList cs) = String.ofList cs → pathText (String.ofList cs) = cs := by
    intro hstrip
    rw [pathText, hstrip, String.toList_ofList, hslashes]
  rw [normalizePath_eq_ok]
  constructor
  · rintro ⟨haccepts, heq⟩
    have hlength := congrArg (fun s => s.toList.length) heq
    simp only [String.toList_ofList] at hlength
    have hshorter := length_joinParts_posixParts_le (pathText (String.ofList cs))
    have hstrip : strip (String.ofList cs) = String.ofList cs := by
      refine strip_eq_self_of_length (le_antisymm (length_strip_le _) ?_)
      rw [pathText, forwardSlashes, List.length_map] at hshorter
      rw [String.toList_ofList, hlength]
      exact hshorter
    have htext := haccepts.text_ok
    rw [hpath hstrip] at htext
    exact ⟨hstrip, ((hrules.text_iff cs).mp htext).2⟩
  · rintro ⟨hstrip, hdrive⟩
    have hne : cs ≠ [] := by
      intro hnil
      rw [hnil] at hparts
      exact h.named hparts.symm
    refine ⟨⟨?_, ?_, ?_, ?_, ?_⟩, ?_⟩
    · rw [← Bool.not_eq_true, ← strip_eq_empty_iff, hstrip, ← String.toList_inj, String.toList_ofList]
      exact hne
    · refine hrules.raw_mono raw.toList _ (fun c hc => ?_) h.raw_ok
      rw [String.toList_ofList, hcs] at hc
      rcases mem_of_mem_joinParts_posixParts hc with hc | hc
      · exact Or.inl hc
      · exact (mem_forwardSlashes hc).2.imp_right mem_strip
    · rw [hpath hstrip]
      exact (hrules.text_iff cs).mpr ⟨habsolute, hdrive⟩
    · rw [hpath hstrip, hparts]
      exact h.parts_ok
    · rw [hpath hstrip, hparts]
      exact h.named
    · rw [hpath hstrip, hparts]

/-- Accepted paths read back exactly where the input has plain ends. -/
theorem readsBack_iff (hrules : rules.Lawful) (raw : String) :
    (∀ path, normalizePath rules raw = .ok path → ReadsBack (normalizePath rules) path) ↔
      (rules.Accepts raw → plainEnds raw = true) := by
  simp only [normalizePath_eq_ok]
  have hback : '\\' ∉ pathText raw := fun hmem => (mem_forwardSlashes hmem).1 rfl
  constructor
  · intro h haccepts
    have hreads := h _ ⟨haccepts, rfl⟩
    rw [plainEnds, plain_joinParts_iff fun part => ne_nil_of_mem_posixParts]
    exact (normalizePath_fixed_iff hrules haccepts).mp hreads.fixed
  · rintro h path ⟨haccepts, rfl⟩
    have hplain := h haccepts
    rw [plainEnds, plain_joinParts_iff fun part => ne_nil_of_mem_posixParts] at hplain
    refine ⟨(normalizePath_fixed_iff hrules haccepts).mpr hplain, ?_, ?_⟩
    · rw [String.toList_ofList]
      exact (joinParts_posixParts_relative hback).2
    · rw [String.toList_ofList]
      exact hplain.2

end ReadsBack

/-! ### Joining a path to a root -/

def enter (directory : List (List Char)) (segment : List Char) : List (List Char) :=
  if isNamed segment = false then directory
  else if segment = ['.', '.'] then directory.dropLast
  else directory ++ [segment]

/-- The directory that a relative path leads to, segment by segment. -/
def lexicalJoin (root : List (List Char)) (segments : List (List Char)) : List (List Char) := segments.foldl enter root

/-- The path has no double dots, and nowhere along it is the root left. -/
structure StaysUnder (path : String) : Prop where
  no_parent : ['.', '.'] ∉ path.toList.splitOn '/'
  under : ∀ root count, root <+: lexicalJoin root ((path.toList.splitOn '/').take count)

lemma prefix_lexicalJoin {segments : List (List Char)} (h : ['.', '.'] ∉ segments) (root : List (List Char)) :
    root <+: lexicalJoin root segments := by
  induction segments generalizing root with
  | nil => exact List.prefix_refl root
  | cons segment rest ih =>
    rw [List.mem_cons, not_or] at h
    refine List.IsPrefix.trans ?_ (ih h.2 (enter root segment))
    unfold enter
    split_ifs with hnamed hdots
    · exact List.prefix_refl root
    · exact absurd hdots.symm h.1
    · exact List.prefix_append root [segment]

/-- A path whose parts are no double dots stays under every root. -/
theorem staysUnder_of_accepts {ε : Type} {rules : PathRules ε} {raw path : String}
    (hdots : ∀ part, rules.refusePart part = none → part ≠ ['.', '.'])
    (h : normalizePath rules raw = .ok path) : StaysUnder path := by
  obtain ⟨haccepts, rfl⟩ := normalizePath_eq_ok.mp h
  have hsegments : ['.', '.'] ∉ (joinParts (posixParts (pathText raw))).splitOn '/' := by
    intro hmem
    rw [joinParts, List.splitOn_intercalate _ (fun part hpart => (mem_posixParts hpart).1) haccepts.named] at hmem
    exact hdots _ (haccepts.parts_ok _ hmem) rfl
  refine ⟨?_, fun root count => ?_⟩
  · rwa [String.toList_ofList]
  · rw [String.toList_ofList]
    exact prefix_lexicalJoin (fun hmem => hsegments (List.mem_of_mem_take hmem)) root

end CollibraGovernance.Library
