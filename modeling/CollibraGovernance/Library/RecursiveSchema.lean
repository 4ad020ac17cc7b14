import CollibraGovernance.Library.JsonSchema

/-! Schemas that refer to themselves, unrolled as deep as a document is nested. -/
namespace CollibraGovernance.Library
namespace Json

mutual
/-- How deep a document is nested. -/
def depth : Json → Nat
  | .arr items => depthItems items + 1
  | .obj members => depthMembers members + 1
  | _ => 0

def depthItems : List Json → Nat
  | [] => 0
  | j :: js => max (depth j) (depthItems js)

def depthMembers : List (String × Json) → Nat
  | [] => 0
  | (_, j) :: ms => max (depth j) (depthMembers ms)
end

lemma depth_lt_arr {items : List Json} {j : Json} (h : j ∈ items) : j.depth < (Json.arr items).depth := by
  rw [depth, Nat.lt_succ_iff]
  induction items with
  | nil => cases h
  | cons x rest ih =>
    rw [depthItems]
    cases List.mem_cons.mp h with
    | inl h => exact h ▸ Nat.le_max_left _ _
    | inr h => exact (ih h).trans (Nat.le_max_right _ _)

lemma depth_lt_obj {members : List (String × Json)} {m : String × Json} (h : m ∈ members) :
    m.2.depth < (Json.obj members).depth := by
  rw [depth, Nat.lt_succ_iff]
  induction members with
  | nil => cases h
  | cons x rest ih =>
    obtain ⟨key, j⟩ := x
    rw [depthMembers]
    cases List.mem_cons.mp h with
    | inl h => exact h ▸ Nat.le_max_left _ _
    | inr h => exact (ih h).trans (Nat.le_max_right _ _)

/-- What an object holds under a key is less deep than the object. -/
lemma depth_get_lt (members : List (String × Json)) (key : String) :
    (get members key).depth < (Json.obj members).depth := by
  rw [get]
  cases h : lookup members key with
  | none => exact Nat.succ_pos _
  | some j => exact depth_lt_obj (mem_of_lookup h)

end Json

namespace JsonSchema

/-- `"type": "boolean"` -/
def boolean : Json → Bool
  | .bool _ => true
  | _ => false

/-- `"type": "number"` -/
def numeric : Json → Bool
  | .int _ => true
  | .float _ => true
  | _ => false

/-- `"type": "object"` with `additionalProperties` -/
def mapping (values : Json → Bool) : Json → Bool
  | .obj members => members.all (fun m => values m.2)
  | _ => false

/-- `"uniqueItems"` -/
def uniqueItems : Json → Bool
  | .arr js => decide (js.map Json.normalize).Nodup
  | _ => true

/-- A schema that refers to itself, unrolled as deep as the document is nested. -/
def recursive (step : (Json → Bool) → Json → Bool) (j : Json) : Bool :=
  step^[j.depth + 1] (fun _ => false) j

/-- What is said of a document depends on the schema referred to only below that document. -/
def Descends (step : (Json → Bool) → Json → Bool) : Prop :=
  ∀ (p q : Json → Bool) (j : Json), (∀ k : Json, k.depth < j.depth → p k = q k) → step p j = step q j

section Recursive
variable {step : (Json → Bool) → Json → Bool}

/-- Once the schema is unrolled deeper than the document, unrolling it further says nothing new. -/
lemma iterate_stable (h : Descends step) (start : Json → Bool) {n m : Nat} {j : Json} (hn : j.depth < n)
    (hm : j.depth < m) : step^[n] start j = step^[m] start j := by
  induction n generalizing m j with
  | zero => omega
  | succ n ih =>
    cases m with
    | zero => omega
    | succ m =>
      rw [Function.iterate_succ_apply', Function.iterate_succ_apply']
      apply h
      intro k hk
      exact ih (by omega) (by omega)

/-- The schema says of a document what its definition does, with itself in the place of the reference. -/
theorem recursive_eq (h : Descends step) (j : Json) : recursive step j = step (recursive step) j := by
  rw [recursive, Function.iterate_succ_apply']
  apply h
  intro k hk
  exact iterate_stable h _ hk (Nat.lt_succ_self _)

end Recursive

lemma all_congr_mem {α : Type} {xs : List α} {p q : α → Bool} (h : ∀ x ∈ xs, p x = q x) :
    xs.all p = xs.all q := by
  rw [Bool.eq_iff_iff, List.all_eq_true, List.all_eq_true]
  exact forall₂_congr (fun x hx => by rw [h x hx])

/-- Properties with the same names that say the same of the members accept the same object. -/
theorem object_congr {properties properties' : List Property} {members : List (String × Json)}
    (h : List.Forall₂ (fun p p' => p.name = p'.name ∧ p.required = p'.required ∧
      ∀ m ∈ members, p.accepts m.2 = p'.accepts m.2) properties properties') :
    object properties (.obj members) = object properties' (.obj members) := by
  have hany : ∀ m ∈ members, properties.any (fun p => p.name = m.1 && p.accepts m.2) =
      properties'.any (fun p => p.name = m.1 && p.accepts m.2) := by
    intro m hm
    induction h with
    | nil => rfl
    | cons hp _ ih => rw [List.any_cons, List.any_cons, ih, hp.1, hp.2.2 m hm]
  have hall : properties.all (fun p => !p.required || (Json.lookup members p.name).isSome) =
      properties'.all (fun p => !p.required || (Json.lookup members p.name).isSome) := by
    clear hany
    induction h with
    | nil => rfl
    | cons hp _ ih => rw [List.all_cons, List.all_cons, ih, hp.1, hp.2.1]
  rw [object, object, hall, all_congr_mem hany]

/-- Any JSON value, told level by level. -/
def jsonValueStep (self : Json → Bool) : Json → Bool :=
  oneOf [isNull, boolean, numeric, text 0, array self, mapping self]

def jsonValue : Json → Bool := recursive jsonValueStep

lemma descends_jsonValueStep : Descends jsonValueStep := by
  intro p q j h
  have harray : array p j = array q j := by
    cases j with
    | arr items => exact all_congr_mem (fun x hx => h x (Json.depth_lt_arr hx))
    | _ => rfl
  have hmapping : mapping p j = mapping q j := by
    cases j with
    | obj members => exact all_congr_mem (fun m hm => h m.2 (Json.depth_lt_obj hm))
    | _ => rfl
  simp only [jsonValueStep, oneOf, List.countP_cons, harray, hmapping]

/-- Every document is a JSON value. -/
theorem jsonValue_eq_true (j : Json) : jsonValue j = true := by
  rw [jsonValue, recursive_eq descends_jsonValueStep, ← jsonValue]
  induction j using Json.induct with
  | null => rfl
  | bool b => rfl
  | int i => rfl
  | float f => rfl
  | str s => simp [jsonValueStep, oneOf, isNull, constant, boolean, numeric, text, array, mapping]
  | arr items ih =>
    have hitems : array jsonValue (.arr items) = true := by
      refine array_iff.mpr ⟨items, rfl, ?_⟩
      intro x hx
      rw [jsonValue, recursive_eq descends_jsonValueStep]
      exact ih x hx
    simp [jsonValueStep, oneOf, isNull, constant, boolean, numeric, text, mapping, hitems]
  | obj members ih =>
    have hmembers : mapping jsonValue (.obj members) = true := by
      refine List.all_eq_true.mpr ?_
      intro m hm
      rw [jsonValue, recursive_eq descends_jsonValueStep]
      exact ih m hm
    simp [jsonValueStep, oneOf, isNull, constant, boolean, numeric, text, array, hmembers]

/-- What the schema says does not depend on the order in which objects list their members. -/
def OrderFree (schema : Json → Bool) : Prop := ∀ j : Json, schema j.normalize = schema j

section OrderFree
variable {schema : Json → Bool}

lemma orderFree_of_scalar (harr : ∀ js, schema (.arr js) = false) (hobj : ∀ ms, schema (.obj ms) = false) :
    OrderFree schema := by
  intro j
  cases j with
  | arr js => rw [Json.normalize_arr, harr, harr]
  | obj ms => rw [Json.normalize_obj, hobj, hobj]
  | _ => rfl

lemma orderFree_text (n : Nat) : OrderFree (text n) := orderFree_of_scalar (fun _ => rfl) (fun _ => rfl)

lemma orderFree_texts (allowed : List String) : OrderFree (texts allowed) :=
  orderFree_of_scalar (fun _ => rfl) (fun _ => rfl)

lemma orderFree_isNull : OrderFree isNull :=
  orderFree_of_scalar (fun _ => by simp [isNull, constant]) (fun _ => by simp [isNull, constant])

lemma orderFree_anything : OrderFree anything := fun _ => rfl

lemma orderFree_sized (least : Nat) (most : Option Nat) (h : OrderFree schema) :
    OrderFree (sized least most schema) := by
  intro j
  cases j with
  | arr js =>
    have hitems : (js.map Json.normalize).all schema = js.all schema := by
      rw [List.all_map]
      exact all_congr_mem (fun x _ => h x)
    simp only [Json.normalize_arr, sized, List.length_map, hitems]
  | obj ms => rw [Json.normalize_obj]; rfl
  | _ => rfl

lemma orderFree_uniqueItems : OrderFree uniqueItems := by
  intro j
  cases j with
  | arr js =>
    have hsame : (js.map Json.normalize).map Json.normalize = js.map Json.normalize := by
      rw [List.map_map]
      exact List.map_congr_left (fun x _ => Json.normalize_idem x)
    rw [Json.normalize_arr, uniqueItems, uniqueItems, hsame]
  | obj ms => rw [Json.normalize_obj]; rfl
  | _ => rfl

lemma orderFree_and {schema' : Json → Bool} (h : OrderFree schema) (h' : OrderFree schema') :
    OrderFree (fun j => schema j && schema' j) := by
  intro j
  simp only [h j, h' j]

lemma orderFree_array (h : OrderFree schema) : OrderFree (array schema) := by
  intro j
  cases j with
  | arr js =>
    rw [Json.normalize_arr, array, array, List.all_map]
    exact all_congr_mem (fun x _ => h x)
  | obj ms => rw [Json.normalize_obj]; rfl
  | _ => rfl

lemma orderFree_oneOf {schemas : List (Json → Bool)} (h : ∀ s ∈ schemas, OrderFree s) :
    OrderFree (oneOf schemas) := by
  intro j
  rw [oneOf, oneOf, List.countP_congr]
  intro s hs
  rw [h s hs j]

theorem orderFree_object {properties : List Property} (h : ∀ p ∈ properties, OrderFree p.accepts) :
    OrderFree (object properties) := by
  intro j
  cases j with
  | obj ms =>
    have hkeys : ∀ key, (Json.lookup (ms.map (fun m => (m.1, m.2.normalize))) key).isSome =
        (Json.lookup ms key).isSome := by
      intro key
      rw [Bool.eq_iff_iff, Json.isSome_lookup, Json.isSome_lookup, List.map_map]
      rfl
    have hmembers : (ms.map (fun m => (m.1, m.2.normalize))).all
          (fun m => properties.any (fun p => p.name = m.1 && p.accepts m.2)) =
        ms.all (fun m => properties.any (fun p => p.name = m.1 && p.accepts m.2)) := by
      rw [List.all_map]
      refine all_congr_mem ?_
      intro m _
      rw [Bool.eq_iff_iff, List.any_eq_true, Function.comp_apply, List.any_eq_true]
      exact exists_congr (fun p => and_congr_right (fun hp => by rw [h p hp m.2]))
    rw [Json.normalize_obj_eq, object_perm (Json.sortedMembers_perm ms), object, object, hmembers]
    simp only [hkeys]
  | arr js => rw [Json.normalize_arr]; rfl
  | _ => rfl

/-- A schema that keeps to this level by level keeps to it altogether. -/
theorem orderFree_recursive {step : (Json → Bool) → Json → Bool} (hdescends : Descends step)
    (hstep : ∀ self, OrderFree self → OrderFree (step self)) : OrderFree (recursive step) := by
  have hiterate : ∀ n, OrderFree (step^[n] (fun _ => false)) := by
    intro n
    induction n with
    | zero => exact fun _ => rfl
    | succ n ih =>
      rw [Function.iterate_succ']
      exact hstep _ ih
  intro j
  have hsame : ∀ k : Json, k.depth < max j.normalize.depth j.depth + 1 →
      recursive step k = step^[max j.normalize.depth j.depth + 1] (fun _ => false) k := by
    intro k hk
    exact iterate_stable hdescends _ (Nat.lt_succ_self _) hk
  rw [hsame j.normalize (by omega), hsame j (by omega), hiterate]

end OrderFree

end JsonSchema
end CollibraGovernance.Library
