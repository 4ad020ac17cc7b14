import CollibraGovernance.Library.StableSort

/-! JSON documents as a parser hands them over: numbers keep the integer/float distinction and
objects keep the listed order of their members. -/
namespace CollibraGovernance.Library

/-- A finite float, named by its shortest round-trip text (`1.5`, `1e+16`, `-0.25`). -/
def isFloatText (s : String) : Bool :=
  s.toList.all (fun c => c.isDigit || c == '.' || c == 'e' || c == '-' || c == '+') &&
    s.toList.any (fun c => c == '.' || c == 'e')

structure FloatText where
  text : String
  wellFormed : isFloatText text = true
  deriving DecidableEq

inductive Json where
  | null
  | bool (b : Bool)
  | int (i : Int)
  | float (f : FloatText)
  | str (s : String)
  | arr (items : List Json)
  | obj (members : List (String × Json))

namespace Json

mutual
/-- Induction over a document, its array items and its object members. -/
theorem induct {P : Json → Prop} (null : P .null) (bool : ∀ b, P (.bool b))
    (int : ∀ i, P (.int i)) (float : ∀ f, P (.float f)) (str : ∀ s, P (.str s))
    (arr : ∀ items, (∀ j ∈ items, P j) → P (.arr items))
    (obj : ∀ members, (∀ m ∈ members, P m.2) → P (.obj members)) : ∀ j, P j
  | .null => null
  | .bool b => bool b
  | .int i => int i
  | .float f => float f
  | .str s => str s
  | .arr items => arr items (inductItems null bool int float str arr obj items)
  | .obj members => obj members (inductMembers null bool int float str arr obj members)

theorem inductItems {P : Json → Prop} (null : P .null) (bool : ∀ b, P (.bool b))
    (int : ∀ i, P (.int i)) (float : ∀ f, P (.float f)) (str : ∀ s, P (.str s))
    (arr : ∀ items, (∀ j ∈ items, P j) → P (.arr items))
    (obj : ∀ members, (∀ m ∈ members, P m.2) → P (.obj members)) :
    ∀ (items : List Json), ∀ j ∈ items, P j
  | [] => fun _ hj => absurd hj (List.not_mem_nil)
  | j :: js => fun x hx => by
    rcases List.mem_cons.mp hx with h | h
    · exact h ▸ induct null bool int float str arr obj j
    · exact inductItems null bool int float str arr obj js x h

theorem inductMembers {P : Json → Prop} (null : P .null) (bool : ∀ b, P (.bool b))
    (int : ∀ i, P (.int i)) (float : ∀ f, P (.float f)) (str : ∀ s, P (.str s))
    (arr : ∀ items, (∀ j ∈ items, P j) → P (.arr items))
    (obj : ∀ members, (∀ m ∈ members, P m.2) → P (.obj members)) :
    ∀ (members : List (String × Json)), ∀ m ∈ members, P m.2
  | [] => fun _ hm => absurd hm (List.not_mem_nil)
  | (k, j) :: ms => fun x hx => by
    rcases List.mem_cons.mp hx with h | h
    · exact h ▸ induct null bool int float str arr obj j
    · exact inductMembers null bool int float str arr obj ms x h
end

mutual
def beq : Json → Json → Bool
  | .null, .null => true
  | .bool a, .bool b => a == b
  | .int a, .int b => decide (a = b)
  | .float a, .float b => decide (a = b)
  | .str a, .str b => decide (a = b)
  | .arr as, .arr bs => beqItems as bs
  | .obj as, .obj bs => beqMembers as bs
  | _, _ => false

def beqItems : List Json → List Json → Bool
  | [], [] => true
  | a :: as, b :: bs => beq a b && beqItems as bs
  | _, _ => false

def beqMembers : List (String × Json) → List (String × Json) → Bool
  | [], [] => true
  | (k, a) :: as, (l, b) :: bs => decide (k = l) && (beq a b && beqMembers as bs)
  | _, _ => false
end

lemma beqItems_iff {as : List Json} (h : ∀ a ∈ as, ∀ b, beq a b = true ↔ a = b) (bs : List Json) :
    beqItems as bs = true ↔ as = bs := by
  induction as generalizing bs with
  | nil => cases bs <;> simp [beqItems]
  | cons a as ih =>
    cases bs with
    | nil => simp [beqItems]
    | cons b bs =>
      have ha := h a (List.mem_cons_self ..) b
      have has := ih (fun x hx => h x (List.mem_cons_of_mem _ hx)) bs
      simp only [beqItems, Bool.and_eq_true, ha, has, List.cons.injEq]

lemma beqMembers_iff {as : List (String × Json)} (h : ∀ a ∈ as, ∀ b, beq a.2 b = true ↔ a.2 = b)
    (bs : List (String × Json)) : beqMembers as bs = true ↔ as = bs := by
  induction as generalizing bs with
  | nil => cases bs <;> simp [beqMembers]
  | cons a as ih =>
    obtain ⟨k, a⟩ := a
    cases bs with
    | nil => simp [beqMembers]
    | cons b bs =>
      obtain ⟨l, b⟩ := b
      have ha := h (k, a) (List.mem_cons_self ..) b
      have has := ih (fun x hx => h x (List.mem_cons_of_mem _ hx)) bs
      simp only at ha
      simp only [beqMembers, Bool.and_eq_true, ha, has, decide_eq_true_eq, List.cons.injEq,
        Prod.mk.injEq, and_assoc]

theorem beq_iff (a b : Json) : beq a b = true ↔ a = b := by
  induction a using Json.induct generalizing b with
  | null => cases b <;> simp [beq]
  | bool x => cases b <;> simp [beq]
  | int x => cases b <;> simp [beq]
  | float x => cases b <;> simp [beq]
  | str x => cases b <;> simp [beq]
  | arr items ih => cases b <;> simp [beq, beqItems_iff ih]
  | obj members ih => cases b <;> simp [beq, beqMembers_iff ih]

instance : DecidableEq Json := fun a b => decidable_of_iff _ (beq_iff a b)

/-- `mapping.get(key)` on an object's members. -/
def lookup (members : List (String × Json)) (key : String) : Option Json :=
  (members.find? (fun m => m.1 = key)).map Prod.snd

mutual
/-- No object of the document repeats a key. -/
def uniqueKeys : Json → Bool
  | .arr items => uniqueKeysItems items
  | .obj members => decide (members.map Prod.fst).Nodup && uniqueKeysMembers members
  | _ => true

def uniqueKeysItems : List Json → Bool
  | [] => true
  | j :: js => uniqueKeys j && uniqueKeysItems js

def uniqueKeysMembers : List (String × Json) → Bool
  | [] => true
  | (_, j) :: ms => uniqueKeys j && uniqueKeysMembers ms
end

lemma uniqueKeysItems_eq (items : List Json) : uniqueKeysItems items = items.all uniqueKeys := by
  induction items with
  | nil => rfl
  | cons j js ih => simp only [uniqueKeysItems, List.all_cons, ih]

lemma uniqueKeysMembers_eq (members : List (String × Json)) :
    uniqueKeysMembers members = members.all (fun m => uniqueKeys m.2) := by
  induction members with
  | nil => rfl
  | cons m ms ih =>
    obtain ⟨k, j⟩ := m
    simp only [uniqueKeysMembers, List.all_cons, ih]

@[simp] theorem uniqueKeys_arr (items : List Json) :
    (Json.arr items).uniqueKeys = true ↔ ∀ j ∈ items, j.uniqueKeys = true := by
  simp [uniqueKeys, uniqueKeysItems_eq]

@[simp] theorem uniqueKeys_obj (members : List (String × Json)) :
    (Json.obj members).uniqueKeys = true ↔
      (members.map Prod.fst).Nodup ∧ ∀ m ∈ members, m.2.uniqueKeys = true := by
  simp [uniqueKeys, uniqueKeysMembers_eq]

mutual
/-- The document with the members of every object listed in key order. -/
def normalize : Json → Json
  | .arr items => .arr (normalizeItems items)
  | .obj members => .obj (sortBy Prod.fst (normalizeMembers members))
  | j => j

def normalizeItems : List Json → List Json
  | [] => []
  | j :: js => normalize j :: normalizeItems js

def normalizeMembers : List (String × Json) → List (String × Json)
  | [] => []
  | (k, j) :: ms => (k, normalize j) :: normalizeMembers ms
end

lemma normalizeItems_eq (items : List Json) : normalizeItems items = items.map normalize := by
  induction items with
  | nil => rfl
  | cons j js ih => simp only [normalizeItems, List.map_cons, ih]

lemma normalizeMembers_eq (members : List (String × Json)) :
    normalizeMembers members = members.map (fun m => (m.1, normalize m.2)) := by
  induction members with
  | nil => rfl
  | cons m ms ih =>
    obtain ⟨k, j⟩ := m
    simp only [normalizeMembers, List.map_cons, ih]

@[simp] theorem normalize_null : Json.null.normalize = .null := rfl
@[simp] theorem normalize_bool (b : Bool) : (Json.bool b).normalize = .bool b := rfl
@[simp] theorem normalize_int (i : Int) : (Json.int i).normalize = .int i := rfl
@[simp] theorem normalize_str (s : String) : (Json.str s).normalize = .str s := rfl

@[simp] theorem normalize_arr (items : List Json) :
    (Json.arr items).normalize = .arr (items.map normalize) := by
  simp only [normalize, normalizeItems_eq]

@[simp] theorem normalize_obj (members : List (String × Json)) :
    (Json.obj members).normalize =
      .obj (sortBy Prod.fst (members.map (fun m => (m.1, normalize m.2)))) := by
  simp only [normalize, normalizeMembers_eq]

/-- Members that are listed in key order stay in place. -/
theorem normalize_obj_of_sorted {members : List (String × Json)}
    (h : SortedBy id (members.map Prod.fst)) :
    (Json.obj members).normalize = .obj (members.map (fun m => (m.1, normalize m.2))) := by
  rw [normalize_obj, sortBy_eq_self]
  unfold SortedBy at h ⊢
  rw [List.pairwise_map] at h ⊢
  exact h

theorem normalize_idem (j : Json) : j.normalize.normalize = j.normalize := by
  induction j using Json.induct with
  | null => rfl
  | bool b => rfl
  | int i => rfl
  | float f => rfl
  | str s => rfl
  | arr items ih =>
    rw [normalize_arr, normalize_arr, List.map_map]
    exact congrArg Json.arr (List.map_congr_left ih)
  | obj members ih =>
    have hmembers : (members.map (fun m => (m.1, normalize m.2))).map
        (fun m => (m.1, normalize m.2)) = members.map (fun m => (m.1, normalize m.2)) := by
      rw [List.map_map]
      apply List.map_congr_left
      intro m hm
      simp only [Function.comp_apply, ih m hm]
    rw [normalize_obj, normalize_obj,
      map_sortBy (fun m => (m.1, normalize m.2)) Prod.fst Prod.fst (fun _ => rfl), hmembers,
      sortBy_idem]

example : (Json.obj [("b", .int 3), ("a", .arr [.null])]).normalize =
    .obj [("a", .arr [.null]), ("b", .int 3)] := by decide

end Json
end CollibraGovernance.Library
