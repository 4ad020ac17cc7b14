import CollibraGovernance.Library.Json

/-! How a Python program reads a parsed document: truth value, `str` and `repr`, and the
accesses that may fail. -/
namespace CollibraGovernance.Library

/-- One lower-case hexadecimal digit. -/
def hexDigit (n : Nat) : Char := "0123456789abcdef".toList.getD n '0'

/-- The `width` low hexadecimal digits of a number. -/
def hexDigits : Nat → Nat → List Char
  | 0, _ => []
  | width + 1, n => hexDigits width (n / 16) ++ [hexDigit (n % 16)]

@[simp] theorem length_hexDigits (width n : Nat) : (hexDigits width n).length = width := by
  induction width generalizing n with
  | zero => rfl
  | succ width ih => simp [hexDigits, ih]

namespace Json

/-- `bool(value)` -/
def truthy : Json → Bool
  | .null => false
  | .bool b => b
  | .int i => i ≠ 0
  | .float f => f.text ≠ "0.0" && f.text ≠ "-0.0"
  | .str s => s ≠ ""
  | .arr items => !items.isEmpty
  | .obj members => !members.isEmpty

/-- The number that a text of decimal digits writes. -/
def decimalValue (digits : List Char) : Nat := digits.foldl (fun (n : Nat) c => 10 * n + (c.toNat - 48)) 0

/-- The float nearest to a number: 53 significant bits, and of two neighbours the even one. -/
def nearestFloat (n : Nat) : Nat :=
  let unit := 2 ^ (n.log2 + 1 - 53)
  let below := n / unit
  let rest := n % unit
  if unit < 2 * rest ∨ (2 * rest = unit ∧ below % 2 = 1) then (below + 1) * unit else below * unit

/-- `digits * 10 ** exponent / 10 ** places`, if that is an integer. -/
def scaled (digits exponent places : Nat) : Option Nat :=
  if places ≤ exponent then some (digits * 10 ^ (exponent - places))
  else if digits % 10 ^ (places - exponent) = 0 then some (digits / 10 ^ (places - exponent))
  else none

/-- `int(value)` of a float with `value.is_integer()`; negative exponents are only written of fractions. -/
def integralOf (f : FloatText) : Option Int :=
  let (sign, body) := match f.text.toList with
    | '-' :: rest => ((-1 : Int), rest)
    | text => (1, text)
  let mantissa := body.takeWhile (· ≠ 'e')
  let exponent := match body.drop (mantissa.length + 1) with
    | '+' :: digits => digits
    | digits => digits
  let whole := mantissa.takeWhile (· ≠ '.')
  let fraction := mantissa.drop (whole.length + 1)
  if (whole ++ fraction ++ exponent).all Char.isDigit then
    (scaled (decimalValue (whole ++ fraction)) (decimalValue exponent) fraction.length).map
      (fun n => sign * (nearestFloat n : Int))
  else none

/-- The integer that a value equals; truth values count as numbers. -/
def number : Json → Option Int
  | .int i => some i
  | .bool b => some (if b then 1 else 0)
  | .float f => integralOf f
  | _ => none

@[simp] theorem number_int (i : Int) : (Json.int i).number = some i := rfl

example : integralOf ⟨"-12.0", by decide⟩ = some (-12) ∧ integralOf ⟨"0.5", by decide⟩ = none ∧
    integralOf ⟨"1e+23", by decide⟩ = some 99999999999999991611392 := by
  decide

mutual
/-- The document with every number that stands for an integer written as that integer. -/
def plainNumbers : Json → Json
  | .bool b => .int (if b then 1 else 0)
  | .float f => ((integralOf f).map Json.int).getD (.float f)
  | .arr items => .arr (plainItems items)
  | .obj members => .obj (plainMembers members)
  | j => j

def plainItems : List Json → List Json
  | [] => []
  | j :: js => plainNumbers j :: plainItems js

def plainMembers : List (String × Json) → List (String × Json)
  | [] => []
  | (k, j) :: ms => (k, plainNumbers j) :: plainMembers ms
end

/-- `a == b`: numbers are compared by value, objects without regard to member order. -/
def pyEquals (a b : Json) : Bool := a.plainNumbers.normalize = b.plainNumbers.normalize

@[simp] theorem pyEquals_self (a : Json) : pyEquals a a = true := decide_eq_true rfl

example : pyEquals (.obj [("b", .int 1), ("a", .null)]) (.obj [("a", .null), ("b", .bool true)]) = true := by
  decide

section Repr
/-! Which characters count as printable is a table of the Unicode version in use. -/
variable (isPrintable : Char → Bool)

/-- One character of a `repr` that is quoted with `quote`. -/
def reprChar (quote c : Char) : List Char :=
  if c = quote ∨ c = '\\' then ['\\', c]
  else if c = '\t' then ['\\', 't']
  else if c = '\n' then ['\\', 'n']
  else if c = '\r' then ['\\', 'r']
  else if isPrintable c then [c]
  else if c.toNat < 0x100 then '\\' :: 'x' :: hexDigits 2 c.toNat
  else if c.toNat < 0x10000 then '\\' :: 'u' :: hexDigits 4 c.toNat
  else '\\' :: 'U' :: hexDigits 8 c.toNat

/-- `repr` of a string: single quotes unless only they occur in it. -/
def reprString (s : String) : String :=
  let quote := if s.toList.contains '\'' && !s.toList.contains '"' then '"' else '\''
  String.ofList (quote :: (s.toList.flatMap (reprChar isPrintable quote) ++ [quote]))

mutual
/-- `repr` of a document as Python prints it. -/
def pyRepr : Json → String
  | .null => "None"
  | .bool b => if b then "True" else "False"
  | .int i => toString i
  | .float f => f.text
  | .str s => reprString isPrintable s
  | .arr items => "[" ++ ", ".intercalate (pyReprItems items) ++ "]"
  | .obj members => "\x7b" ++ ", ".intercalate (pyReprMembers members) ++ "\x7d"

def pyReprItems : List Json → List String
  | [] => []
  | j :: js => pyRepr j :: pyReprItems js

def pyReprMembers : List (String × Json) → List String
  | [] => []
  | (k, j) :: ms => (reprString isPrintable k ++ ": " ++ pyRepr j) :: pyReprMembers ms
end

/-- `str(value)` -/
def pyStr : Json → String
  | .str s => s
  | j => pyRepr isPrintable j

end Repr

/-- The members of an object, or the given refusal. -/
def asMapping (j : Json) (message : String) : Except String (List (String × Json)) :=
  match j with
  | .obj members => .ok members
  | _ => .error message

/-- The items of an array, or the given refusal. -/
def asArray (j : Json) (message : String) : Except String (List Json) :=
  match j with
  | .arr items => .ok items
  | _ => .error message

/-- `mapping[key]` -/
def item (members : List (String × Json)) (key : String) : Except String Json :=
  match lookup members key with
  | some j => .ok j
  | none => .error ("KeyError: " ++ key)

/-- `mapping.get(key)` -/
def get (members : List (String × Json)) (key : String) : Json := (lookup members key).getD .null

lemma mem_of_lookup {members : List (String × Json)} {key : String} {j : Json}
    (h : lookup members key = some j) : (key, j) ∈ members := by
  obtain ⟨m, hm, rfl⟩ := Option.map_eq_some_iff.mp h
  have hkey := List.find?_some hm
  rw [decide_eq_true_eq] at hkey
  rw [← hkey]
  exact List.mem_of_find?_eq_some hm

lemma isSome_lookup {members : List (String × Json)} {key : String} :
    (lookup members key).isSome = true ↔ key ∈ members.map Prod.fst := by
  rw [lookup, Option.isSome_map, List.find?_isSome]
  simp only [decide_eq_true_eq, List.mem_map]

lemma get_of_lookup {members : List (String × Json)} {key : String} {j : Json}
    (h : lookup members key = some j) : get members key = j := by
  rw [get, h, Option.getD_some]

lemma lookup_append_of_notMem {before after : List (String × Json)} {key : String}
    (h : key ∉ before.map Prod.fst) : lookup (before ++ after) key = lookup after key := by
  have hnone : before.find? (fun m => m.1 = key) = none := by
    rw [List.find?_eq_none]
    intro m hm hk
    rw [decide_eq_true_eq] at hk
    exact h (List.mem_map.mpr ⟨m, hm, hk⟩)
  rw [lookup, lookup, List.find?_append, hnone, Option.none_or]

/-- Leaving out one key does not change what the other keys stand for. -/
lemma get_filter_ne {members : List (String × Json)} {key other : String} (h : key ≠ other) :
    get (members.filter (fun m => m.1 ≠ other)) key = get members key := by
  have hfind : (fun m : String × Json => decide (decide (m.1 ≠ other) = true ∧ decide (m.1 = key) = true)) =
      fun m => decide (m.1 = key) := by
    funext m
    rw [decide_eq_decide]
    simp only [decide_eq_true_eq]
    exact ⟨And.right, fun heq => ⟨heq ▸ h, heq⟩⟩
  rw [get, get, lookup, lookup, List.find?_filter, hfind]

lemma lookup_eq_some_iff {members : List (String × Json)} (h : (members.map Prod.fst).Nodup)
    {key : String} {j : Json} : lookup members key = some j ↔ (key, j) ∈ members := by
  constructor
  · exact mem_of_lookup
  · intro hmem
    obtain ⟨j', hj'⟩ := Option.isSome_iff_exists.mp
      (isSome_lookup.mpr (List.mem_map_of_mem (f := Prod.fst) hmem))
    have hsame := List.inj_on_of_nodup_map h (mem_of_lookup hj') hmem rfl
    rw [hj', (Prod.mk.inj hsame).2]

/-- The members of an object as they are written, in key order. -/
def sortedMembers (members : List (String × Json)) : List (String × Json) :=
  sortBy Prod.fst (members.map (fun m => (m.1, m.2.normalize)))

lemma sortedMembers_perm (members : List (String × Json)) :
    (sortedMembers members).Perm (members.map (fun m => (m.1, m.2.normalize))) := sortBy_perm _ _

theorem normalize_obj_eq (members : List (String × Json)) :
    (Json.obj members).normalize = .obj (sortedMembers members) := normalize_obj members

theorem uniqueKeys_normalize {j : Json} (h : j.uniqueKeys = true) : j.normalize.uniqueKeys = true := by
  induction j using Json.induct with
  | arr items ih =>
    rw [normalize_arr, uniqueKeys_arr]
    intro x hx
    obtain ⟨y, hy, rfl⟩ := List.mem_map.mp hx
    exact ih y hy ((uniqueKeys_arr items).mp h y hy)
  | obj members ih =>
    obtain ⟨hkeys, hvalues⟩ := (uniqueKeys_obj members).mp h
    have hperm := sortedMembers_perm members
    rw [normalize_obj_eq, uniqueKeys_obj]
    constructor
    · rw [(hperm.map Prod.fst).nodup_iff, List.map_map]
      exact hkeys
    · intro m hm
      obtain ⟨m', hm', rfl⟩ := List.mem_map.mp (hperm.mem_iff.mp hm)
      exact ih m' hm' (hvalues m' hm')
  | _ => exact h

/-- Objects with the same members are written alike. -/
theorem normalize_obj_perm {members members' : List (String × Json)} (h : (members.map Prod.fst).Nodup)
    (hperm : members.Perm members') : (Json.obj members).normalize = (Json.obj members').normalize := by
  rw [normalize_obj_eq, normalize_obj_eq]
  refine congrArg Json.obj (sortBy_congr_perm (hperm.map _) ?_)
  intro a ha b hb hkey
  have hkeys : ((members.map (fun m => (m.1, m.2.normalize))).map Prod.fst).Nodup := by
    rwa [List.map_map]
  exact List.inj_on_of_nodup_map hkeys ha hb hkey

/-- An object whose members are in key order, and themselves so, is written as it is. -/
theorem normalize_obj_self {members : List (String × Json)} (h : SortedBy id (members.map Prod.fst))
    (hvalues : ∀ m ∈ members, m.2.normalize = m.2) : (Json.obj members).normalize = .obj members := by
  have hmembers : members.map (fun m => (m.1, m.2.normalize)) = members.map id :=
    List.map_congr_left (fun m hm => Prod.ext rfl (hvalues m hm))
  rw [normalize_obj_of_sorted h, hmembers, List.map_id]

theorem sortedMembers_idem (members : List (String × Json)) :
    sortedMembers (sortedMembers members) = sortedMembers members := by
  have h := normalize_idem (.obj members)
  rwa [normalize_obj_eq, normalize_obj_eq, Json.obj.injEq] at h

theorem sortedMembers_sortBy (members : List (String × Json)) :
    sortedMembers (sortBy Prod.fst members) = sortedMembers members := by
  rw [sortedMembers, sortedMembers,
    map_sortBy (fun m : String × Json => (m.1, m.2.normalize)) Prod.fst Prod.fst (fun _ => rfl), sortBy_idem]

/-- Objects with the same keys, and values that are written alike, are written alike. -/
theorem normalize_obj_congr {members members' : List (String × Json)}
    (h : members.map (fun m => (m.1, m.2.normalize)) = members'.map (fun m => (m.1, m.2.normalize))) :
    (Json.obj members).normalize = (Json.obj members').normalize := by
  rw [normalize_obj, normalize_obj, h]

theorem lookup_sortedMembers (members : List (String × Json)) (key : String) :
    lookup (sortedMembers members) key = (lookup members key).map normalize := by
  have hfilter := filter_key_sortBy Prod.fst key (members.map (fun m => (m.1, m.2.normalize)))
  rw [lookup, sortedMembers, ← List.head?_filter, hfilter, List.head?_filter, lookup, List.find?_map,
    Option.map_map, Option.map_map]
  rfl

theorem get_sortedMembers (members : List (String × Json)) (key : String) :
    get (sortedMembers members) key = (get members key).normalize := by
  rw [get, get, lookup_sortedMembers]
  cases lookup members key <;> rfl

/-- What is written of a document, less its last member, tells what the other members tell. -/
theorem normalize_without {members : List (String × Json)} {key : String} {j : Json}
    (h : ((members ++ [(key, j)]).map Prod.fst).Nodup) :
    (Json.obj ((sortedMembers (members ++ [(key, j)])).filter (fun m => m.1 ≠ key))).normalize =
      (Json.obj members).normalize := by
  rw [List.map_append, List.nodup_append] at h
  obtain ⟨hnodup, -, hne⟩ := h
  have hkept : ∀ m ∈ members.map (fun m => (m.1, m.2.normalize)), decide (m.1 ≠ key) = true := by
    intro m hm
    obtain ⟨m', hm', rfl⟩ := List.mem_map.mp hm
    exact decide_eq_true (hne m'.1 (List.mem_map_of_mem hm') key (List.mem_singleton_self _))
  have hfiltered : ((members ++ [(key, j)]).map (fun m => (m.1, m.2.normalize))).filter (fun m => m.1 ≠ key) =
      members.map (fun m => (m.1, m.2.normalize)) := by
    rw [List.map_append, List.filter_append, List.filter_eq_self.mpr hkept]
    simp
  have hperm := (sortedMembers_perm (members ++ [(key, j)])).filter (fun m => m.1 ≠ key)
  rw [hfiltered] at hperm
  have hsorted : ((sortedMembers members).map Prod.fst).Nodup := by
    rw [((sortedMembers_perm _).map Prod.fst).nodup_iff, List.map_map]
    exact hnodup
  rw [← normalize_obj_perm hsorted (hperm.trans (sortedMembers_perm members).symm).symm, ← normalize_obj_eq,
    normalize_idem]

lemma uniqueKeys_get {members : List (String × Json)} (h : (Json.obj members).uniqueKeys = true) (key : String) :
    (get members key).uniqueKeys = true := by
  rw [get]
  cases hfound : lookup members key with
  | none => rfl
  | some j => exact ((uniqueKeys_obj members).mp h).2 _ (mem_of_lookup hfound)

@[simp] lemma lookup_cons_self (key : String) (j : Json) (rest : List (String × Json)) :
    lookup ((key, j) :: rest) key = some j := by
  simp [lookup]

end Json
end CollibraGovernance.Library
