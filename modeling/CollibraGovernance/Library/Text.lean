import Mathlib.Data.List.DropRight
import Mathlib.Data.String.Basic

/-! Whitespace-aware string operations, over the Unicode white-space class. -/
namespace CollibraGovernance.Library

/-- The characters a default `strip` removes. -/
def isSpace (c : Char) : Bool :=
  let n := c.toNat
  (0x9 ≤ n && n ≤ 0xD) || (0x1C ≤ n && n ≤ 0x20) || n == 0x85 || n == 0xA0 || n == 0x1680 ||
    (0x2000 ≤ n && n ≤ 0x200A) || n == 0x2028 || n == 0x2029 || n == 0x202F || n == 0x205F ||
    n == 0x3000

/-- Drop white space on both sides. -/
def strip (s : String) : String :=
  String.ofList ((s.toList.dropWhile isSpace).reverse.dropWhile isSpace).reverse

/-- Nothing is left of the string once it is stripped. -/
def isBlank (s : String) : Bool := s.toList.all isSpace

@[simp] theorem isBlank_empty : isBlank "" = true := rfl

theorem strip_eq_empty_iff (s : String) : strip s = "" ↔ isBlank s = true := by
  have hempty : ∀ xs : List Char, String.ofList xs = "" ↔ xs = [] := by
    intro xs
    rw [← String.toList_inj, String.toList_ofList]
    rfl
  unfold strip isBlank
  rw [hempty, List.reverse_eq_nil_iff, List.dropWhile_eq_nil_iff, List.all_eq_true]
  simp only [List.mem_reverse]
  constructor
  · intro h
    rw [← List.dropWhile_eq_nil_iff]
    by_contra hne
    have hhead := List.head_dropWhile_not isSpace hne
    rw [h _ (List.head_mem hne)] at hhead
    exact absurd hhead (by decide)
  · intro h c hc
    exact h c ((List.dropWhile_sublist isSpace).subset hc)

/-- A string with a character outside the white-space class is not blank. -/
theorem isBlank_append_eq_false_left {s t : String} (h : isBlank s = false) :
    isBlank (s ++ t) = false := by
  simp only [isBlank, String.toList_append, List.all_append, Bool.and_eq_false_iff] at h ⊢
  exact Or.inl h

theorem isBlank_append_eq_false_right {s t : String} (h : isBlank t = false) :
    isBlank (s ++ t) = false := by
  simp only [isBlank, String.toList_append, List.all_append, Bool.and_eq_false_iff] at h ⊢
  exact Or.inr h

theorem ne_empty_of_not_blank {s : String} (h : isBlank s = false) : s ≠ "" := by
  rintro rfl
  simp at h

/-- A string that is not blank. -/
structure NonBlank where
  val : String
  nonblank : isBlank val = false

/-- `_require_non_empty`: the string itself, with the proof that it is not blank. -/
def requireNonEmpty (value fieldName : String) : Except String NonBlank :=
  if h : isBlank value = false then .ok ⟨value, h⟩ else .error (fieldName ++ " is required")

theorem requireNonEmpty_ok {value : String} (fieldName : String) (h : isBlank value = false) :
    requireNonEmpty value fieldName = .ok ⟨value, h⟩ := dif_pos h

theorem requireNonEmpty_eq_ok {value fieldName : String} {r : NonBlank}
    (h : requireNonEmpty value fieldName = .ok r) : r.1 = value := by
  unfold requireNonEmpty at h
  split at h
  · cases h
    rfl
  · cases h

theorem strip_idem (s : String) : strip (strip s) = strip s := by
  set left := s.toList.dropWhile isSpace with hleft
  set core := (left.reverse.dropWhile isSpace).reverse with hcore
  have hstrip : strip s = String.ofList core := rfl
  have hinit : core <+: left := by
    rw [hcore, ← List.reverse_suffix, List.reverse_reverse]
    exact List.dropWhile_suffix isSpace
  have hhead : core.dropWhile isSpace = core := by
    rw [List.dropWhile_eq_self_iff]
    intro hpos
    have hpos' : 0 < left.length := Nat.lt_of_lt_of_le hpos hinit.length_le
    rw [hinit.getElem hpos]
    have hnot := List.dropWhile_get_zero_not isSpace s.toList hpos'
    exact hnot
  have hlast : core.reverse.dropWhile isSpace = core.reverse := by
    rw [hcore, List.reverse_reverse, List.dropWhile_idempotent]
  rw [hstrip, strip, String.toList_ofList, hhead, hlast, List.reverse_reverse]

theorem isBlank_strip (s : String) : isBlank (strip s) = isBlank s := by
  rw [Bool.eq_iff_iff, ← strip_eq_empty_iff, ← strip_eq_empty_iff, strip_idem]

/-- A string that is not blank and has no white space on either side. -/
structure Stripped where
  val : String
  stripped : strip val = val
  nonblank : isBlank val = false

theorem Stripped.ext {a b : Stripped} (h : a.val = b.val) : a = b := by
  obtain ⟨val, hs, hb⟩ := a
  cases h
  rfl

instance : DecidableEq Stripped := fun a b => decidable_of_iff (a.val = b.val)
  ⟨Stripped.ext, congrArg Stripped.val⟩

/-- A string that is not blank, without the white space around it. -/
def Stripped.of (value : String) (h : isBlank value = false) : Stripped :=
  ⟨strip value, strip_idem value, (isBlank_strip value).trans h⟩

theorem Stripped.of_val (a : Stripped) : Stripped.of a.val a.nonblank = a := Stripped.ext a.stripped

/-- `_require_non_empty_str`: the string without the white space around it. -/
def requireNonEmptyStr (value fieldName : String) : Except String Stripped :=
  if h : isBlank value = false then .ok (.of value h)
  else .error (fieldName ++ " is required")

theorem requireNonEmptyStr_stripped (a : Stripped) (fieldName : String) :
    requireNonEmptyStr a.val fieldName = .ok a := by
  unfold requireNonEmptyStr
  rw [dif_pos a.nonblank, a.of_val]

/-- The pieces of a split text do not contain the separator. -/
theorem not_mem_of_mem_splitOn {α : Type} [BEq α] [LawfulBEq α] {sep : α} {xs piece : List α}
    (h : piece ∈ xs.splitOn sep) : sep ∉ piece := by
  induction xs generalizing piece with
  | nil =>
    rw [List.splitOn_nil, List.mem_singleton] at h
    rw [h]
    exact List.not_mem_nil
  | cons x xs ih =>
    rw [List.splitOn_cons_eq_if_modifyHead] at h
    obtain ⟨head, tail, hsplit⟩ := List.exists_cons_of_ne_nil (List.splitOn_ne_nil sep xs)
    rw [hsplit] at h ih
    split_ifs at h with hx
    · rcases List.mem_cons.mp h with rfl | h
      · exact List.not_mem_nil
      · exact ih h
    · rw [List.modifyHead_cons] at h
      rcases List.mem_cons.mp h with rfl | h
      · rw [List.mem_cons, not_or]
        exact ⟨fun heq => hx (beq_iff_eq.mpr heq.symm), ih List.mem_cons_self⟩
      · exact ih (List.mem_cons_of_mem _ h)

theorem toDigits_inj {m n : Nat} (h : Nat.toDigits 10 m = Nat.toDigits 10 n) : m = n := by
  have := congrArg (fun l => Nat.ofDigitChars 10 l 0) h
  simpa using this

/-- Different numbers are written differently. -/
theorem toString_inj {m n : Nat} (h : toString m = toString n) : m = n := by
  have hlist := congrArg String.toList h
  simp only [toString, Nat.repr, String.toList_ofList] at hlist
  exact toDigits_inj hlist

/-! ### Letters of either case -/

lemma toLower_eq_self {c : Char} (h : 128 ≤ c.toNat) : c.toLower = c := by
  unfold Char.toLower
  split_ifs with hupper
  · have hle := UInt32.le_iff_toNat_le.mp hupper.2
    have hz : ('Z' : Char).val.toNat = 90 := rfl
    have hc : c.val.toNat = c.toNat := rfl
    omega
  · rfl

lemma toUpper_toLower_ascii : ∀ n < 128, (Char.ofNat n).toLower.toUpper = (Char.ofNat n).toUpper := by decide

/-- The upper case of a letter is that of its lower case. -/
theorem toUpper_toLower (c : Char) : c.toLower.toUpper = c.toUpper := by
  rcases Nat.lt_or_ge c.toNat 128 with h | h
  · have hc := toUpper_toLower_ascii c.toNat h
    rwa [Char.ofNat_toNat] at hc
  · rw [toLower_eq_self h]

/-- Lower case leaves a character outside ASCII alone. -/
theorem lt_of_toLower {c : Char} (h : c.toLower.toNat < 128) : c.toNat < 128 := by
  rcases Nat.lt_or_ge c.toNat 128 with hc | hc
  · exact hc
  · rwa [toLower_eq_self hc] at h

end CollibraGovernance.Library
