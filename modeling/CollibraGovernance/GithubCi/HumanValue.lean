import CollibraGovernance.GithubCi.Escaping
import CollibraGovernance.Library.PrefixCode

/-! How a text is shown to a reader of impact results: over all code points, lone surrogates included. -/
namespace CollibraGovernance.GithubCi
open Library Json

abbrev CodePoint := Fin 0x110000

/-- `ord(c)` -/
def ofChar (c : Char) : CodePoint := ⟨c.toNat, (toNat_lt c).1⟩

@[simp] lemma val_ofChar (c : Char) : (ofChar c).val = c.toNat := rfl

def ofChars (cs : List Char) : List CodePoint := cs.map ofChar

section Format
variable (isPrintable : CodePoint → Bool)

/-- One step of the loop of `format_human_value`. -/
def formatCodePoint (ch : CodePoint) : List CodePoint :=
  let code := ch.val
  if ch = ofChar '\\' then ofChars ['\\', '\\']
  else if ch = ofChar '\n' then ofChars ['\\', 'n']
  else if ch = ofChar '\r' then ofChars ['\\', 'r']
  else if ch = ofChar '\t' then ofChars ['\\', 't']
  else if code < 0x20 ∨ code = 0x7F then ofChars ('\\' :: 'x' :: hexDigits 2 code)
  else if isPrintable ch = false then
    if code < 0x100 then ofChars ('\\' :: 'x' :: hexDigits 2 code)
    else if code < 0x10000 then ofChars ('\\' :: 'u' :: hexDigits 4 code)
    else ofChars ('\\' :: 'U' :: hexDigits 8 code)
  else [ch]

/-- `format_human_value` -/
def formatCodePoints (value : List CodePoint) : List CodePoint := value.flatMap (formatCodePoint isPrintable)

end Format

/-- What is relied on of `str.isprintable`. -/
structure PrintableOracle (isPrintable : CodePoint → Bool) : Prop where
  controls : ∀ c : CodePoint, c.val < 0x20 ∨ (0x7F ≤ c.val ∧ c.val < 0xA0) → isPrintable c = false
  separators : ∀ c : CodePoint, c.val = 0x2028 ∨ c.val = 0x2029 → isPrintable c = false
  surrogates : ∀ c : CodePoint, 0xD800 ≤ c.val → c.val < 0xE000 → isPrintable c = false
  ascii : ∀ c : CodePoint, 0x20 ≤ c.val → c.val ≤ 0x7E → isPrintable c = true

/-- The line boundaries of `str.splitlines`. -/
def isLineBreak (c : CodePoint) : Bool :=
  let n := c.val
  (0xA ≤ n && n ≤ 0xD) || (0x1C ≤ n && n ≤ 0x1E) || n == 0x85 || n == 0x2028 || n == 0x2029

lemma ofChar_injective : Function.Injective ofChar := by
  intro c d h
  have hval : c.toNat = d.toNat := by rw [← val_ofChar, h, val_ofChar]
  rw [← Char.ofNat_toNat c, hval, Char.ofNat_toNat]

/-- The digits that follow the kind of an escape. -/
def escapeWidth (kind : Char) : Nat := if kind = 'x' then 2 else if kind = 'u' then 4 else if kind = 'U' then 8 else 0

/-- The code point that an escape stands for. -/
def escapeValue (kind : Char) (digits : List Char) : Nat :=
  if kind = 'n' then 0xA else if kind = 'r' then 0xD else if kind = 't' then 0x9 else if kind = '\\' then 0x5C
  else hexValue digits

/-- Enough digits stand for the code point. -/
lemma escape_hex {kind : Char} {width : Nat} (hkind : (kind, width) ∈ [('x', 2), ('u', 4), ('U', 8)]) {n : Nat}
    (h : n < 16 ^ width) :
    (hexDigits width n).length = escapeWidth kind ∧ escapeValue kind (hexDigits width n) = n ∧
      kind ∈ ['\\', 'n', 'r', 't', 'x', 'u', 'U'] := by
  have hread := hexValue_hexDigits width n h
  rw [length_hexDigits]
  simp only [List.mem_cons, List.not_mem_nil, or_false, Prod.mk.injEq] at hkind
  rcases hkind with ⟨rfl, rfl⟩ | ⟨rfl, rfl⟩ | ⟨rfl, rfl⟩
  · exact ⟨by decide, hread, by decide⟩
  · exact ⟨by decide, hread, by decide⟩
  · exact ⟨by decide, hread, by decide⟩

/-- A code point is shown as it is, where it is printable and no backslash, or by an escape that stands for it. -/
lemma formatCodePoint_cases (isPrintable : CodePoint → Bool) (ch : CodePoint) :
    (formatCodePoint isPrintable ch = [ch] ∧ ch ≠ ofChar '\\' ∧ isPrintable ch = true) ∨
      ∃ kind digits, formatCodePoint isPrintable ch = ofChars ('\\' :: kind :: digits) ∧
        digits.length = escapeWidth kind ∧ escapeValue kind digits = ch.val ∧
        kind ∈ ['\\', 'n', 'r', 't', 'x', 'u', 'U'] ∧ ∃ width, digits = hexDigits width ch.val := by
  have hhex : ∀ kind width, (kind, width) ∈ [('x', 2), ('u', 4), ('U', 8)] → ch.val < 16 ^ width →
      ∃ k digits, ofChars ('\\' :: kind :: hexDigits width ch.val) = ofChars ('\\' :: k :: digits) ∧
        digits.length = escapeWidth k ∧ escapeValue k digits = ch.val ∧
        k ∈ ['\\', 'n', 'r', 't', 'x', 'u', 'U'] ∧ ∃ width, digits = hexDigits width ch.val := by
    intro kind width hkind hlt
    obtain ⟨hwidth, hvalue, hmem⟩ := escape_hex hkind hlt
    exact ⟨kind, _, rfl, hwidth, hvalue, hmem, width, rfl⟩
  have hlt := ch.isLt
  unfold formatCodePoint
  dsimp only
  split_ifs with hbackslash hfeed hreturn htab hcontrol hprintable hsmall hmedium
  · exact Or.inr ⟨'\\', [], rfl, rfl, hbackslash ▸ rfl, by decide, 0, rfl⟩
  · exact Or.inr ⟨'n', [], rfl, rfl, hfeed ▸ rfl, by decide, 0, rfl⟩
  · exact Or.inr ⟨'r', [], rfl, rfl, hreturn ▸ rfl, by decide, 0, rfl⟩
  · exact Or.inr ⟨'t', [], rfl, rfl, htab ▸ rfl, by decide, 0, rfl⟩
  · exact Or.inr (hhex 'x' 2 (by decide) (by omega))
  · exact Or.inr (hhex 'x' 2 (by decide) (by omega))
  · exact Or.inr (hhex 'u' 4 (by decide) (by omega))
  · exact Or.inr (hhex 'U' 8 (by decide) (by omega))
  · exact Or.inl ⟨rfl, hbackslash, Bool.eq_true_of_not_eq_false hprintable⟩

theorem prefixFree_formatCodePoint (isPrintable : CodePoint → Bool) : PrefixFree (formatCodePoint isPrintable) := by
  intro a b x y h
  rcases formatCodePoint_cases isPrintable a with ⟨ha, hne, -⟩ | ⟨kind, digits, ha, hwidth, hvalue, -, -⟩ <;>
    rcases formatCodePoint_cases isPrintable b with ⟨hb, hne', -⟩ | ⟨kind', digits', hb, hwidth', hvalue', -, -⟩ <;>
    rw [ha, hb] at h
  · exact (List.cons.inj h).1
  · exact absurd (List.cons.inj h).1 hne
  · exact absurd (List.cons.inj h).1.symm hne'
  · simp only [ofChars, List.map_cons, List.cons_append] at h
    obtain ⟨hkind, hrest⟩ := List.cons.inj (List.cons.inj h).2
    have hkinds : kind = kind' := ofChar_injective hkind
    have hlength : (digits.map ofChar).length = (digits'.map ofChar).length := by
      rw [List.length_map, List.length_map, hwidth, hwidth', hkinds]
    have hdigits : digits = digits' := ofChar_injective.list_map (List.append_inj hrest hlength).1
    rw [Fin.ext_iff, ← hvalue, ← hvalue', hkinds, hdigits]

lemma formatCodePoint_ne_nil (isPrintable : CodePoint → Bool) (ch : CodePoint) : formatCodePoint isPrintable ch ≠ [] := by
  rcases formatCodePoint_cases isPrintable ch with ⟨h, -, -⟩ | ⟨kind, digits, h, -, -, -, -⟩
  · rw [h]
    exact List.cons_ne_nil _ _
  · rw [h]
    exact List.cons_ne_nil _ _

/-- Plain ASCII, from the space to the tilde. -/
def isPlain (c : Char) : Bool := 0x20 ≤ c.toNat && c.toNat ≤ 0x7E

lemma isPlain_hexDigit (n : Nat) (h : n < 16) : isPlain (hexDigit n) = true :=
  (by decide : ∀ n < 16, isPlain (hexDigit n) = true) n h

lemma isPlain_hexDigits (width n : Nat) : ∀ c ∈ hexDigits width n, isPlain c = true := by
  induction width generalizing n with
  | zero => exact fun c h => absurd h List.not_mem_nil
  | succ width ih =>
    intro c hc
    rw [hexDigits, List.mem_append, List.mem_singleton] at hc
    rcases hc with hc | hc
    · exact ih _ c hc
    · rw [hc]
      exact isPlain_hexDigit _ (Nat.mod_lt _ (by decide))

/-- Only printable code points are shown. -/
lemma printable_formatCodePoint {isPrintable : CodePoint → Bool} (h : PrintableOracle isPrintable) (ch : CodePoint) :
    ∀ c ∈ formatCodePoint isPrintable ch, isPrintable c = true := by
  rcases formatCodePoint_cases isPrintable ch with ⟨hform, -, hprintable⟩ |
    ⟨kind, digits, hform, -, -, hkind, width, hdigits⟩
  · rw [hform]
    intro c hc
    rwa [List.mem_singleton.mp hc]
  · have hplain : ∀ d ∈ '\\' :: kind :: digits, isPlain d = true := by
      rw [List.forall_mem_cons, List.forall_mem_cons, hdigits]
      exact ⟨by decide, List.all_eq_true.mp (by decide : ['\\', 'n', 'r', 't', 'x', 'u', 'U'].all isPlain = true) kind hkind,
        isPlain_hexDigits _ _⟩
    rw [hform]
    intro c hc
    obtain ⟨d, hd, rfl⟩ := List.mem_map.mp hc
    have hd' := hplain d hd
    rw [isPlain, Bool.and_eq_true, decide_eq_true_iff, decide_eq_true_iff] at hd'
    exact h.ascii _ hd'.1 hd'.2

/-- A printable code point is no line break. -/
lemma isLineBreak_of_printable {isPrintable : CodePoint → Bool} (h : PrintableOracle isPrintable) {c : CodePoint}
    (hc : isPrintable c = true) : isLineBreak c = false := by
  have hcontrol : ¬ (c.val < 0x20 ∨ (0x7F ≤ c.val ∧ c.val < 0xA0)) := fun hcase => by
    rw [h.controls c hcase] at hc
    cases hc
  have hseparator : ¬ (c.val = 0x2028 ∨ c.val = 0x2029) := fun hcase => by
    rw [h.separators c hcase] at hc
    cases hc
  rw [← Bool.not_eq_true]
  simp only [isLineBreak, Bool.or_eq_true, Bool.and_eq_true, decide_eq_true_eq, beq_iff_eq]
  omega

/-- A value is shown in printable code points and without line breaks, and different values are shown differently. -/
theorem formatCodePoints_single_line_injective {isPrintable : CodePoint → Bool} (h : PrintableOracle isPrintable) :
    (∀ value, (∀ c ∈ formatCodePoints isPrintable value, isPrintable c = true) ∧
      ∀ c ∈ formatCodePoints isPrintable value, isLineBreak c = false) ∧
    ∀ value other, formatCodePoints isPrintable value = formatCodePoints isPrintable other → value = other := by
  have hprintable : ∀ value, ∀ c ∈ formatCodePoints isPrintable value, isPrintable c = true := by
    intro value c hc
    obtain ⟨ch, -, hmem⟩ := List.mem_flatMap.mp hc
    exact printable_formatCodePoint h ch c hmem
  refine ⟨fun value => ⟨hprintable value, fun c hc => isLineBreak_of_printable h (hprintable value c hc)⟩, ?_⟩
  intro value other heq
  exact (prefixFree_formatCodePoint isPrintable).flatMap_injective (formatCodePoint_ne_nil isPrintable) heq

/-- The ASCII part of `str.isprintable`. -/
def asciiPrintable (c : CodePoint) : Bool := 0x20 ≤ c.val && c.val ≤ 0x7E

lemma printableOracle_ascii : PrintableOracle asciiPrintable where
  controls c h := by
    rw [asciiPrintable, Bool.and_eq_false_iff, decide_eq_false_iff_not, decide_eq_false_iff_not]
    omega
  separators c h := by
    rw [asciiPrintable, Bool.and_eq_false_iff, decide_eq_false_iff_not, decide_eq_false_iff_not]
    omega
  surrogates c h h' := by
    rw [asciiPrintable, Bool.and_eq_false_iff, decide_eq_false_iff_not, decide_eq_false_iff_not]
    omega
  ascii c h h' := by
    rw [asciiPrintable, Bool.and_eq_true, decide_eq_true_iff, decide_eq_true_iff]
    exact ⟨h, h'⟩

/-- A lone surrogate and the text of its escape are shown differently, on one line. -/
theorem lone_surrogate_shown :
    (∀ c ∈ formatCodePoints asciiPrintable [0xD800, ofChar '\n'], isLineBreak c = false) ∧
      formatCodePoints asciiPrintable [0xD800] ≠ formatCodePoints asciiPrintable (ofChars ['\\', 'u', 'd', '8', '0', '0']) := by
  have h := formatCodePoints_single_line_injective printableOracle_ascii
  refine ⟨(h.1 _).2, fun heq => ?_⟩
  have hlength := congrArg List.length (h.2 _ _ heq)
  exact absurd hlength (by decide)

/-- On texts of characters, this is the value that reports show. -/
theorem formatCodePoints_ofChars (isPrintable : CodePoint → Bool) (value : String) :
    formatCodePoints isPrintable (ofChars value.toList) =
      ofChars (formatHumanValue (fun c => isPrintable (ofChar c)) value).toList := by
  rw [formatHumanValue, String.toList_ofList, formatCodePoints, ofChars, ofChars, List.flatMap_map, List.map_flatMap]
  refine List.flatMap_congr fun c _ => ?_
  unfold formatCodePoint humanChar
  dsimp only [val_ofChar]
  simp only [ofChar_injective.eq_iff]
  split_ifs <;> rfl

end CollibraGovernance.GithubCi
