import CollibraGovernance.Library.PyJson
import CollibraGovernance.Library.Text

/-! Compact ASCII serialisation with sorted keys, and its unique readability. -/
namespace CollibraGovernance.Library

/-- Decimal text of an integer. -/
def intText : Int → List Char
  | .ofNat n => Nat.toDigits 10 n
  | .negSucc n => '-' :: Nat.toDigits 10 (n + 1)

/-- Value of one hexadecimal digit. -/
def hexDigitValue (c : Char) : Nat := "0123456789abcdef".toList.idxOf c

def hexValue (digits : List Char) : Nat :=
  digits.foldl (fun acc d => 16 * acc + hexDigitValue d) 0

lemma hexDigitValue_hexDigit : ∀ n < 16, hexDigitValue (hexDigit n) = n := by decide

theorem hexValue_hexDigits (width n : Nat) (h : n < 16 ^ width) :
    hexValue (hexDigits width n) = n := by
  induction width generalizing n with
  | zero =>
    have : n = 0 := by simpa using h
    subst this
    rfl
  | succ width ih =>
    have hdiv : n / 16 < 16 ^ width := by
      rw [Nat.div_lt_iff_lt_mul (by decide)]
      rw [pow_succ] at h
      exact h
    have hih := ih (n / 16) hdiv
    unfold hexValue at hih ⊢
    rw [hexDigits, List.foldl_append, hih]
    simp only [List.foldl_cons, List.foldl_nil]
    rw [hexDigitValue_hexDigit _ (Nat.mod_lt _ (by decide))]
    exact Nat.div_add_mod n 16

/-- The two-character escapes. -/
def shortEscape (c : Char) : Option Char :=
  if c = '"' then some '"' else if c = '\\' then some '\\' else if c = '\n' then some 'n'
  else if c = '\r' then some 'r' else if c = '\t' then some 't'
  else if c = '\x08' then some 'b' else if c = '\x0c' then some 'f' else none

def shortUnescape (e : Char) : Option Char :=
  if e = '"' then some '"' else if e = '\\' then some '\\' else if e = 'n' then some '\n'
  else if e = 'r' then some '\r' else if e = 't' then some '\t'
  else if e = 'b' then some '\x08' else if e = 'f' then some '\x0c' else none

/-- A UTF-16 code unit as `\uXXXX`. -/
def escapeUnit (n : Nat) : List Char := '\\' :: 'u' :: hexDigits 4 n

/-- One character of a JSON string in ASCII. -/
def escapeChar (c : Char) : List Char :=
  match shortEscape c with
  | some e => ['\\', e]
  | none =>
    let n := c.toNat
    if 0x20 ≤ n ∧ n ≤ 0x7E then [c]
    else if n < 0x10000 then escapeUnit n
    else escapeUnit (0xD800 + (n - 0x10000) / 0x400) ++ escapeUnit (0xDC00 + (n - 0x10000) % 0x400)

def decodeUnit : List Char → Option (Nat × List Char)
  | '\\' :: 'u' :: a :: b :: c :: d :: rest => some (hexValue [a, b, c, d], rest)
  | _ => none

/-- Read one character of an escaped string. -/
def decodeChar (cs : List Char) : Option (Char × List Char) :=
  match decodeUnit cs with
  | some (n, rest) =>
    if 0xD800 ≤ n ∧ n < 0xDC00 then
      (decodeUnit rest).map fun (m, rest') =>
        (Char.ofNat (0x10000 + (n - 0xD800) * 0x400 + (m - 0xDC00)), rest')
    else some (Char.ofNat n, rest)
  | none =>
    match cs with
    | [] => none
    | c :: rest =>
      if c = '\\' then rest.head?.bind fun e => (shortUnescape e).map fun c => (c, rest.tail)
      else some (c, rest)

lemma decodeUnit_escapeUnit {n : Nat} (h : n < 0x10000) (rest : List Char) :
    decodeUnit (escapeUnit n ++ rest) = some (n, rest) := by
  have hv := hexValue_hexDigits 4 n (by simpa using h)
  simp only [escapeUnit, hexDigits, List.nil_append, List.cons_append] at hv ⊢
  simp only [decodeUnit, hv]

lemma shortUnescape_of_shortEscape {c e : Char} (h : shortEscape c = some e) :
    shortUnescape e = some c ∧ e ≠ 'u' := by
  unfold shortEscape at h
  split_ifs at h <;> subst_vars <;> cases h <;> decide

lemma ne_backslash_of_shortEscape {c : Char} (h : shortEscape c = none) : c ≠ '\\' := by
  rintro rfl
  exact absurd h (by decide)

lemma ne_quote_of_shortEscape {c : Char} (h : shortEscape c = none) : c ≠ '"' := by
  rintro rfl
  exact absurd h (by decide)

/-- A character outside the basic plane splits into a surrogate pair and back. -/
lemma toNat_lt (c : Char) : c.toNat < 0x110000 ∧ ¬ (0xD800 ≤ c.toNat ∧ c.toNat < 0xE000) := by
  have h := c.valid
  unfold UInt32.isValidChar Nat.isValidChar at h
  change (c.toNat < _ ∨ _ < c.toNat ∧ c.toNat < _) at h
  omega

/-- Reading an escaped character gives it back, with what follows. -/
theorem decodeChar_escapeChar (c : Char) (rest : List Char) :
    decodeChar (escapeChar c ++ rest) = some (c, rest) := by
  obtain ⟨hlt, hsurrogate⟩ := toNat_lt c
  unfold escapeChar
  cases hs : shortEscape c with
  | some e =>
    obtain ⟨hu, hne⟩ := shortUnescape_of_shortEscape hs
    have hnone : decodeUnit ('\\' :: e :: rest) = none := by
      unfold decodeUnit
      split
      · rename_i heq
        exact absurd (by injection heq with _ h; injection h) hne
      · rfl
    simp only [List.cons_append, List.nil_append, decodeChar, hnone, if_true, List.head?_cons,
      Option.bind_some, hu, Option.map_some, List.tail_cons]
  | none =>
    simp only
    split_ifs with hplain hbmp
    · have hc := ne_backslash_of_shortEscape hs
      have hnone : decodeUnit (c :: rest) = none := by
        unfold decodeUnit
        split
        · rename_i heq
          exact absurd (by injection heq) hc
        · rfl
      simp only [List.cons_append, List.nil_append, decodeChar, hnone, hc, if_false]
    · have hn : ¬ (0xD800 ≤ c.toNat ∧ c.toNat < 0xDC00) := by omega
      simp only [decodeChar, decodeUnit_escapeUnit hbmp, hn, if_false, Char.ofNat_toNat]
    · have hhi : 0xD800 + (c.toNat - 0x10000) / 0x400 < 0x10000 := by omega
      have hlo : 0xDC00 + (c.toNat - 0x10000) % 0x400 < 0x10000 := by omega
      have hrange : 0xD800 ≤ 0xD800 + (c.toNat - 0x10000) / 0x400 ∧
          0xD800 + (c.toNat - 0x10000) / 0x400 < 0xDC00 := by omega
      have hback : 0x10000 + (0xD800 + (c.toNat - 0x10000) / 0x400 - 0xD800) * 0x400 +
          (0xDC00 + (c.toNat - 0x10000) % 0x400 - 0xDC00) = c.toNat := by omega
      rw [List.append_assoc]
      simp only [decodeChar, decodeUnit_escapeUnit hhi, decodeUnit_escapeUnit hlo, hrange,
        and_self, if_true, Option.map_some, hback, Char.ofNat_toNat]

lemma escapeChar_eq_cons (c : Char) : ∃ h t, escapeChar c = h :: t ∧ h ≠ '"' := by
  unfold escapeChar escapeUnit
  cases hs : shortEscape c with
  | some e => exact ⟨_, _, rfl, by decide⟩
  | none =>
    simp only
    split_ifs
    · exact ⟨_, _, rfl, ne_quote_of_shortEscape hs⟩
    · exact ⟨_, _, rfl, by decide⟩
    · exact ⟨_, _, rfl, by decide⟩

theorem escaped_inj {cs ds x y : List Char}
    (h : cs.flatMap escapeChar ++ '"' :: x = ds.flatMap escapeChar ++ '"' :: y) :
    cs = ds ∧ x = y := by
  induction cs generalizing ds with
  | nil =>
    cases ds with
    | nil => exact ⟨rfl, by simpa using h⟩
    | cons d ds =>
      obtain ⟨a, t, ha, hne⟩ := escapeChar_eq_cons d
      simp only [List.flatMap_nil, List.nil_append, List.flatMap_cons, ha, List.cons_append,
        List.cons.injEq] at h
      exact absurd h.1.symm hne
  | cons c cs ih =>
    cases ds with
    | nil =>
      obtain ⟨a, t, ha, hne⟩ := escapeChar_eq_cons c
      simp only [List.flatMap_nil, List.nil_append, List.flatMap_cons, ha, List.cons_append,
        List.cons.injEq] at h
      exact absurd h.1 hne
    | cons d ds =>
      simp only [List.flatMap_cons, List.append_assoc] at h
      have hdec := congrArg decodeChar h
      rw [decodeChar_escapeChar, decodeChar_escapeChar, Option.some_inj, Prod.mk.injEq] at hdec
      obtain ⟨rfl, hrest⟩ := hdec
      obtain ⟨rfl, hxy⟩ := ih hrest
      exact ⟨rfl, hxy⟩

def encodeString (s : String) : List Char := '"' :: (s.toList.flatMap escapeChar ++ ['"'])

theorem encodeString_inj {s t : String} {x y : List Char}
    (h : encodeString s ++ x = encodeString t ++ y) : s = t ∧ x = y := by
  simp only [encodeString, List.cons_append, List.append_assoc, List.nil_append,
    List.cons.injEq, true_and] at h
  obtain ⟨hst, hxy⟩ := escaped_inj h
  exact ⟨String.toList_inj.mp hst, hxy⟩

namespace Json

mutual
/-- Compact text of a document, members in the listed order. -/
def encode : Json → List Char
  | .null => "null".toList
  | .bool b => if b then "true".toList else "false".toList
  | .int i => intText i
  | .float f => f.text.toList
  | .str s => encodeString s
  | .arr [] => "[]".toList
  | .arr (j :: js) => '[' :: (encode j ++ (encodeItems js ++ [']']))
  | .obj [] => ['\x7b', '\x7d']
  | .obj ((k, j) :: ms) =>
    '\x7b' :: (encodeString k ++ ':' :: (encode j ++ (encodeMembers ms ++ ['\x7d'])))

/-- The items after the first. -/
def encodeItems : List Json → List Char
  | [] => []
  | j :: js => ',' :: (encode j ++ encodeItems js)

/-- The members after the first. -/
def encodeMembers : List (String × Json) → List Char
  | [] => []
  | (k, j) :: ms => ',' :: (encodeString k ++ ':' :: (encode j ++ encodeMembers ms))
end

/-- `canonical_json_bytes`: sorted keys, compact separators, ASCII. -/
def canonicalJson (j : Json) : String := String.ofList (encode j.normalize)

/-- What may follow a value inside a document. -/
def Delimited (x : List Char) : Prop := ∀ c ∈ x.head?, c = ',' ∨ c = ']' ∨ c = '\x7d'

lemma delimited_nil : Delimited [] := by simp [Delimited]
lemma delimited_comma (x : List Char) : Delimited (',' :: x) := by simp [Delimited]
lemma delimited_bracket (x : List Char) : Delimited (']' :: x) := by simp [Delimited]
lemma delimited_brace (x : List Char) : Delimited ('\x7d' :: x) := by simp [Delimited]

lemma delimited_encodeItems (js : List Json) (x : List Char) :
    Delimited (encodeItems js ++ ']' :: x) := by
  cases js with
  | nil => exact delimited_bracket x
  | cons j js => exact delimited_comma _

lemma delimited_encodeMembers (ms : List (String × Json)) (x : List Char) :
    Delimited (encodeMembers ms ++ '\x7d' :: x) := by
  cases ms with
  | nil => exact delimited_brace x
  | cons m ms => exact delimited_comma _

/-- The characters of a number. -/
def isNumberChar (c : Char) : Bool := c.isDigit || c == '.' || c == 'e' || c == '-' || c == '+'

/-- Numbers are told apart by their text: nothing that may follow one can continue it. -/
lemma number_span {t u x y : List Char} (ht : t.all isNumberChar = true)
    (hu : u.all isNumberChar = true) (hx : Delimited x) (hy : Delimited y)
    (h : t ++ x = u ++ y) : t = u ∧ x = y := by
  have not_number : ∀ z : List Char, Delimited z → ∀ c ∈ z.head?, isNumberChar c = false := by
    intro z hz c hc
    rcases hz c hc with rfl | rfl | rfl <;> decide
  induction t generalizing u with
  | nil =>
    cases u with
    | nil => exact ⟨rfl, h⟩
    | cons d u =>
      have hd := not_number x hx d (by rw [List.nil_append] at h; simp [h])
      simp [hd] at hu
  | cons c t ih =>
    simp only [List.all_cons, Bool.and_eq_true] at ht
    cases u with
    | nil =>
      have hc := not_number y hy c (by rw [List.nil_append] at h; simp [← h])
      rw [hc] at ht
      exact absurd ht.1 (by decide)
    | cons d u =>
      simp only [List.all_cons, Bool.and_eq_true] at hu
      simp only [List.cons_append, List.cons.injEq] at h
      obtain ⟨rfl, h⟩ := h
      obtain ⟨rfl, hxy⟩ := ih ht.2 hu.2 h
      exact ⟨rfl, hxy⟩

lemma isDigit_of_mem_toDigits {n : Nat} {c : Char} (h : c ∈ Nat.toDigits 10 n) : c.isDigit = true :=
  Nat.isDigit_of_mem_toDigits (by decide) (by decide) h

lemma intText_all (i : Int) :
    ∀ c ∈ intText i, isNumberChar c = true ∧ c ≠ '.' ∧ c ≠ 'e' := by
  have digit : ∀ c : Char, c.isDigit = true → isNumberChar c = true ∧ c ≠ '.' ∧ c ≠ 'e' := by
    intro c hc
    refine ⟨by simp [isNumberChar, hc], ?_, ?_⟩ <;> rintro rfl <;> exact absurd hc (by decide)
  intro c hc
  cases i with
  | ofNat n => exact digit c (isDigit_of_mem_toDigits hc)
  | negSucc n =>
    rcases List.mem_cons.mp hc with rfl | hc
    · decide
    · exact digit c (isDigit_of_mem_toDigits hc)

theorem intText_inj {i k : Int} (h : intText i = intText k) : i = k := by
  have no_minus : ∀ n : Nat, ∀ l, Nat.toDigits 10 n ≠ '-' :: l := by
    intro n l hn
    have := isDigit_of_mem_toDigits (n := n) (c := '-') (by rw [hn]; exact List.mem_cons_self ..)
    exact absurd this (by decide)
  cases i with
  | ofNat m =>
    cases k with
    | ofNat n => rw [toDigits_inj h]
    | negSucc n => exact absurd h (no_minus _ _)
  | negSucc m =>
    cases k with
    | ofNat n => exact absurd h.symm (no_minus _ _)
    | negSucc n =>
      simp only [intText, List.cons.injEq, true_and] at h
      have := toDigits_inj h
      rw [Nat.succ.inj this]

lemma floatText_all (f : FloatText) : f.text.toList.all isNumberChar = true := by
  have h := f.wellFormed
  simp only [isFloatText, Bool.and_eq_true] at h
  exact h.1

lemma floatText_ne_intText (f : FloatText) (i : Int) : f.text.toList ≠ intText i := by
  have h := f.wellFormed
  simp only [isFloatText, Bool.and_eq_true] at h
  obtain ⟨c, hc, hmark⟩ := List.any_eq_true.mp h.2
  intro heq
  rw [heq] at hc
  obtain ⟨-, hdot, he⟩ := intText_all i c hc
  simp [hdot, he] at hmark

/-- Which form of value a character opens. -/
inductive Form where
  | null | bool | number | str | arr | obj | close
  deriving DecidableEq

def formOfChar (c : Char) : Form :=
  if c = 'n' then .null else if c = 't' ∨ c = 'f' then .bool else if c = '"' then .str
  else if c = '[' then .arr else if c = '\x7b' then .obj
  else if c = ',' ∨ c = ']' ∨ c = '\x7d' then .close else .number

def form : Json → Form
  | .null => .null
  | .bool _ => .bool
  | .int _ => .number
  | .float _ => .number
  | .str _ => .str
  | .arr _ => .arr
  | .obj _ => .obj

lemma formOfChar_number {c : Char} (h : isNumberChar c = true) : formOfChar c = .number := by
  unfold formOfChar
  split_ifs with h1 h2 h3 h4 h5 h6
  · exact absurd h (by rw [h1]; decide)
  · rcases h2 with rfl | rfl <;> exact absurd h (by decide)
  · exact absurd h (by rw [h3]; decide)
  · exact absurd h (by rw [h4]; decide)
  · exact absurd h (by rw [h5]; decide)
  · rcases h6 with rfl | rfl | rfl <;> exact absurd h (by decide)
  · rfl

lemma number_head {t : List Char} (h : t.all isNumberChar = true) (hne : t ≠ []) :
    ∃ c l, t = c :: l ∧ formOfChar c = .number := by
  cases t with
  | nil => exact absurd rfl hne
  | cons c l =>
    simp only [List.all_cons, Bool.and_eq_true] at h
    exact ⟨c, l, rfl, formOfChar_number h.1⟩

/-- The first character of a text names the form of its value. -/
theorem encode_head (j : Json) : ∃ c l, encode j = c :: l ∧ formOfChar c = j.form := by
  cases j with
  | null => exact ⟨_, _, by simp only [encode]; rfl, by decide⟩
  | bool b => cases b <;> exact ⟨_, _, by simp only [encode]; rfl, by decide⟩
  | int i =>
    simp only [encode, form]
    refine number_head ?_ ?_
    · rw [List.all_eq_true]
      exact fun c hc => (intText_all i c hc).1
    · cases i with
      | ofNat n => exact Nat.toDigits_ne_nil
      | negSucc n => exact List.cons_ne_nil _ _
  | float f =>
    simp only [encode, form]
    refine number_head (floatText_all f) ?_
    intro hnil
    have h := f.wellFormed
    simp [isFloatText, hnil] at h
  | str s => exact ⟨_, _, by simp only [encode, encodeString]; rfl, rfl⟩
  | arr items => cases items <;> exact ⟨_, _, by simp only [encode]; rfl, rfl⟩
  | obj members =>
    rcases members with _ | ⟨⟨k, j⟩, ms⟩ <;> exact ⟨_, _, by simp only [encode]; rfl, rfl⟩

lemma form_eq_of_encode {a b : Json} {x y : List Char} (h : encode a ++ x = encode b ++ y) :
    a.form = b.form := by
  obtain ⟨c, l, hc, hfa⟩ := encode_head a
  obtain ⟨d, m, hd, hfb⟩ := encode_head b
  rw [hc, hd, List.cons_append, List.cons_append, List.cons.injEq] at h
  rw [← hfa, ← hfb, h.1]

lemma encode_ne_close {a : Json} {c : Char} {x y : List Char} (hc : formOfChar c = .close) :
    encode a ++ x ≠ c :: y := by
  obtain ⟨d, l, hd, hf⟩ := encode_head a
  rw [hd, List.cons_append]
  rintro ⟨⟩
  rw [hc] at hf
  cases a <;> cases hf

/-- Reading back from the front determines the value and what follows it. -/
def Readable (a : Json) : Prop :=
  ∀ b x y, Delimited x → Delimited y → encode a ++ x = encode b ++ y → a = b ∧ x = y

lemma encodeItems_inj {as : List Json} (has : ∀ a ∈ as, Readable a) {bs : List Json}
    {x y : List Char} (h : encodeItems as ++ ']' :: x = encodeItems bs ++ ']' :: y) :
    as = bs ∧ x = y := by
  induction as generalizing bs with
  | nil =>
    cases bs with
    | nil => exact ⟨rfl, by simpa [encodeItems] using h⟩
    | cons b bs => simp [encodeItems] at h
  | cons a as ih =>
    cases bs with
    | nil => simp [encodeItems] at h
    | cons b bs =>
      simp only [encodeItems, List.cons_append, List.append_assoc, List.cons.injEq, true_and] at h
      obtain ⟨rfl, hrest⟩ := has a (List.mem_cons_self ..) b _ _ (delimited_encodeItems as x)
        (delimited_encodeItems bs y) h
      obtain ⟨rfl, hxy⟩ := ih (fun z hz => has z (List.mem_cons_of_mem _ hz)) hrest
      exact ⟨rfl, hxy⟩

lemma encodeMembers_inj {as : List (String × Json)} (has : ∀ a ∈ as, Readable a.2)
    {bs : List (String × Json)} {x y : List Char}
    (h : encodeMembers as ++ '\x7d' :: x = encodeMembers bs ++ '\x7d' :: y) : as = bs ∧ x = y := by
  induction as generalizing bs with
  | nil =>
    cases bs with
    | nil => exact ⟨rfl, by simpa [encodeMembers] using h⟩
    | cons b bs =>
      obtain ⟨k, b⟩ := b
      simp [encodeMembers] at h
  | cons a as ih =>
    obtain ⟨k, a⟩ := a
    cases bs with
    | nil => simp [encodeMembers] at h
    | cons b bs =>
      obtain ⟨l, b⟩ := b
      simp only [encodeMembers, List.cons_append, List.append_assoc, List.cons.injEq,
        true_and] at h
      obtain ⟨rfl, hvalue⟩ := encodeString_inj h
      simp only [List.cons.injEq, true_and] at hvalue
      obtain ⟨rfl, hrest⟩ := has _ (List.mem_cons_self ..) b _ _ (delimited_encodeMembers as x)
        (delimited_encodeMembers bs y) hvalue
      obtain ⟨rfl, hxy⟩ := ih (fun z hz => has z (List.mem_cons_of_mem _ hz)) hrest
      exact ⟨rfl, hxy⟩

/-- A compact text is uniquely readable from the front. -/
theorem readable (a : Json) : Readable a := by
  induction a using Json.induct with
  | null =>
    intro b x y _ _ h
    have hf := form_eq_of_encode h
    cases b <;> first | (cases hf; done) | exact ⟨rfl, List.append_cancel_left h⟩
  | bool p =>
    intro b x y _ _ h
    have hf := form_eq_of_encode h
    cases b with
    | bool q => cases p <;> cases q <;> simp [encode] at h <;> exact ⟨rfl, h⟩
    | _ => cases hf
  | int i =>
    intro b x y hx hy h
    have hf := form_eq_of_encode h
    have hall : ∀ k : Int, (intText k).all isNumberChar = true := fun k => by
      rw [List.all_eq_true]
      exact fun c hc => (intText_all k c hc).1
    cases b with
    | int k =>
      obtain ⟨ht, hxy⟩ := number_span (hall i) (hall k) hx hy (by simpa only [encode] using h)
      exact ⟨by rw [intText_inj ht], hxy⟩
    | float f =>
      obtain ⟨ht, -⟩ := number_span (hall i) (floatText_all f) hx hy (by simpa only [encode] using h)
      exact absurd ht.symm (floatText_ne_intText f i)
    | _ => cases hf
  | float f =>
    intro b x y hx hy h
    have hf := form_eq_of_encode h
    cases b with
    | int k =>
      have hall : (intText k).all isNumberChar = true := by
        rw [List.all_eq_true]
        exact fun c hc => (intText_all k c hc).1
      obtain ⟨ht, -⟩ := number_span (floatText_all f) hall hx hy (by simpa only [encode] using h)
      exact absurd ht (floatText_ne_intText f k)
    | float g =>
      obtain ⟨ht, hxy⟩ := number_span (floatText_all f) (floatText_all g) hx hy
        (by simpa only [encode] using h)
      obtain ⟨ft, hft⟩ := f
      obtain ⟨gt, hgt⟩ := g
      cases String.toList_inj.mp ht
      exact ⟨rfl, hxy⟩
    | _ => cases hf
  | str s =>
    intro b x y _ _ h
    have hf := form_eq_of_encode h
    cases b with
    | str t =>
      simp only [encode] at h
      obtain ⟨rfl, hxy⟩ := encodeString_inj h
      exact ⟨rfl, hxy⟩
    | _ => cases hf
  | arr items ih =>
    intro b x y _ _ h
    have hf := form_eq_of_encode h
    cases b with
    | arr bs =>
      rcases items with _ | ⟨j, js⟩ <;> rcases bs with _ | ⟨k, ks⟩
      · exact ⟨rfl, List.append_cancel_left h⟩
      · simp only [encode, List.cons_append, List.append_assoc] at h
        exact absurd (List.cons.inj h).2.symm (encode_ne_close (by decide))
      · simp only [encode, List.cons_append, List.append_assoc] at h
        exact absurd (List.cons.inj h).2 (encode_ne_close (by decide))
      · simp only [encode, List.cons_append, List.append_assoc, List.cons.injEq, true_and,
          List.nil_append] at h
        obtain ⟨rfl, hrest⟩ := ih j (List.mem_cons_self ..) k _ _ (delimited_encodeItems js x)
          (delimited_encodeItems ks y) h
        obtain ⟨rfl, hxy⟩ := encodeItems_inj (fun z hz => ih z (List.mem_cons_of_mem _ hz)) hrest
        exact ⟨rfl, hxy⟩
    | _ => cases hf
  | obj members ih =>
    intro b x y _ _ h
    have hf := form_eq_of_encode h
    cases b with
    | obj bs =>
      rcases members with _ | ⟨⟨k, j⟩, ms⟩ <;> rcases bs with _ | ⟨⟨l, i⟩, ns⟩
      · exact ⟨rfl, List.append_cancel_left h⟩
      · simp only [encode, encodeString, List.cons_append] at h
        exact absurd (List.cons.inj (List.cons.inj h).2).1 (by decide)
      · simp only [encode, encodeString, List.cons_append] at h
        exact absurd (List.cons.inj (List.cons.inj h).2).1 (by decide)
      · simp only [encode, List.cons_append, List.append_assoc, List.cons.injEq, true_and,
          List.nil_append] at h
        obtain ⟨rfl, hvalue⟩ := encodeString_inj h
        simp only [List.cons.injEq, true_and] at hvalue
        obtain ⟨rfl, hrest⟩ := ih _ (List.mem_cons_self ..) i _ _ (delimited_encodeMembers ms x)
          (delimited_encodeMembers ns y) hvalue
        obtain ⟨rfl, hxy⟩ := encodeMembers_inj (fun z hz => ih z (List.mem_cons_of_mem _ hz)) hrest
        exact ⟨rfl, hxy⟩
    | _ => cases hf

/-- Canonical texts agree exactly when the documents agree up to the order of members. -/
theorem canonicalJson_inj {a b : Json} : canonicalJson a = canonicalJson b ↔ a.normalize = b.normalize := by
  constructor
  · intro h
    have h' := congrArg String.toList h
    simp only [canonicalJson, String.toList_ofList] at h'
    exact (readable _ _ [] [] delimited_nil delimited_nil (by simpa using h')).1
  · intro h
    unfold canonicalJson
    rw [h]

lemma encode_arr_nil : encode (.arr []) = ['[', ']'] := rfl

/-- An array's text ends by itself. -/
theorem encode_arr_inj {as bs : List Json} {x y : List Char}
    (h : encode (.arr as) ++ x = encode (.arr bs) ++ y) : as = bs ∧ x = y := by
  cases as with
  | nil =>
    cases bs with
    | nil => exact ⟨rfl, List.append_cancel_left h⟩
    | cons b bs =>
      rw [encode_arr_nil] at h
      simp only [encode, List.cons_append, List.append_assoc, List.cons.injEq, true_and] at h
      exact absurd h.symm (encode_ne_close rfl)
  | cons a as =>
    cases bs with
    | nil =>
      rw [encode_arr_nil] at h
      simp only [encode, List.cons_append, List.append_assoc, List.cons.injEq, true_and] at h
      exact absurd h (encode_ne_close rfl)
    | cons b bs =>
      simp only [encode, List.cons_append, List.append_assoc, List.cons.injEq, true_and,
        List.nil_append] at h
      obtain ⟨rfl, hrest⟩ := readable a b _ _ (delimited_encodeItems as x)
        (delimited_encodeItems bs y) h
      obtain ⟨rfl, hxy⟩ := encodeItems_inj (fun z _ => readable z) hrest
      exact ⟨rfl, hxy⟩

end Json

section Order
variable {α : Type*} [LinearOrder α]

/-- What follows two lists does not affect their order, unless one begins with the other. -/
theorem append_lt_append_iff {u v : List α} (hu : ¬ u <+: v) (hv : ¬ v <+: u) (x y : List α) :
    u ++ x < v ++ y ↔ u < v := by
  induction u generalizing v with
  | nil => exact absurd List.nil_prefix hu
  | cons a u ih =>
    cases v with
    | nil => exact absurd List.nil_prefix hv
    | cons b v =>
      simp only [List.cons_append, List.cons_lt_cons_iff]
      by_cases hab : a = b
      · subst hab
        rw [List.cons_prefix_cons] at hu hv
        rw [ih (fun h => hu ⟨rfl, h⟩) (fun h => hv ⟨rfl, h⟩)]
      · simp [hab]

end Order
end CollibraGovernance.Library
