import CollibraGovernance.Identity.JsonValues
import CollibraGovernance.Library.SameJson
import CollibraGovernance.Library.Dict

/-! The tagged containers behind a canonical value: how they compare, print and convert back. -/
namespace CollibraGovernance.Identity
open Library

/-- A JSON value as the process holds it: no object repeats a key. -/
structure JsonValue where
  value : Json
  unique : value.uniqueKeys = true

/-- Scalars, `CanonicalArray` and `CanonicalObject`. -/
inductive Tagged where
  | null
  | bool (b : Bool)
  | int (i : Int)
  | float (f : FloatText)
  | str (s : String)
  | canonicalArray (items : List Tagged)
  | canonicalObject (items : List (String × Tagged))

namespace Tagged

mutual
/-- `canonicalize_json_value` -/
def canonicalizeJsonValue : Json → Tagged
  | .null => .null
  | .bool b => .bool b
  | .int i => .int i
  | .float f => .float f
  | .str s => .str s
  | .arr items => .canonicalArray (canonicalizeItems items)
  | .obj members => .canonicalObject (sortBy Prod.fst (canonicalizeMembers members))

def canonicalizeItems : List Json → List Tagged
  | [] => []
  | j :: js => canonicalizeJsonValue j :: canonicalizeItems js

def canonicalizeMembers : List (String × Json) → List (String × Tagged)
  | [] => []
  | (k, j) :: ms => (k, canonicalizeJsonValue j) :: canonicalizeMembers ms
end

mutual
/-- `canonical_json_to_plain` -/
def canonicalJsonToPlain : Tagged → Json
  | .null => .null
  | .bool b => .bool b
  | .int i => .int i
  | .float f => .float f
  | .str s => .str s
  | .canonicalArray items => .arr (plainItems items)
  | .canonicalObject items => .obj (Dict.index Prod.fst Prod.snd (plainMembers items)).entries

def plainItems : List Tagged → List Json
  | [] => []
  | v :: vs => canonicalJsonToPlain v :: plainItems vs

def plainMembers : List (String × Tagged) → List (String × Json)
  | [] => []
  | (k, v) :: ms => (k, canonicalJsonToPlain v) :: plainMembers ms
end

/-- `canonical_value_fingerprint` -/
def canonicalValueFingerprint (value : Tagged) : String := (canonicalJsonToPlain value).canonicalJson

/-- `CanonicalObject.__eq__` and `CanonicalArray.__eq__`: only two containers of one kind compare. -/
def containerEq : Tagged → Tagged → Bool
  | .canonicalObject items, .canonicalObject items' =>
    canonicalValueFingerprint (.canonicalObject items) = canonicalValueFingerprint (.canonicalObject items')
  | .canonicalArray items, .canonicalArray items' =>
    canonicalValueFingerprint (.canonicalArray items) = canonicalValueFingerprint (.canonicalArray items')
  | _, _ => false

lemma canonicalizeItems_eq (items : List Json) :
    canonicalizeItems items = items.map canonicalizeJsonValue := by
  induction items with
  | nil => rfl
  | cons j js ih => simp only [canonicalizeItems, List.map_cons, ih]

lemma canonicalizeMembers_eq (members : List (String × Json)) :
    canonicalizeMembers members = members.map (fun m => (m.1, canonicalizeJsonValue m.2)) := by
  induction members with
  | nil => rfl
  | cons m ms ih =>
    obtain ⟨k, j⟩ := m
    simp only [canonicalizeMembers, List.map_cons, ih]

lemma plainItems_eq (items : List Tagged) : plainItems items = items.map canonicalJsonToPlain := by
  induction items with
  | nil => rfl
  | cons v vs ih => simp only [plainItems, List.map_cons, ih]

lemma plainMembers_eq (items : List (String × Tagged)) :
    plainMembers items = items.map (fun m => (m.1, canonicalJsonToPlain m.2)) := by
  induction items with
  | nil => rfl
  | cons m ms ih =>
    obtain ⟨k, v⟩ := m
    simp only [plainMembers, List.map_cons, ih]

/-- Distinct keys are all kept, in their order. -/
lemma canonicalJsonToPlain_object {items : List (String × Tagged)} (h : (items.map Prod.fst).Nodup) :
    canonicalJsonToPlain (.canonicalObject items) =
      .obj (items.map fun m => (m.1, canonicalJsonToPlain m.2)) := by
  have hkeys : ((items.map fun m => (m.1, canonicalJsonToPlain m.2)).map Prod.fst).Nodup := by
    rwa [List.map_map]
  rw [canonicalJsonToPlain, plainMembers_eq, Dict.entries_index_of_nodup hkeys]
  exact congrArg Json.obj (List.map_id _)

/-- Plain again, a canonical value lists its members in key order. -/
theorem canonicalJsonToPlain_canonicalize {a : Json} (ha : a.uniqueKeys = true) :
    canonicalJsonToPlain (canonicalizeJsonValue a) = a.normalize := by
  induction a using Json.induct with
  | null => rfl
  | bool b => rfl
  | int i => rfl
  | float f => rfl
  | str s => rfl
  | arr items ih =>
    rw [Json.uniqueKeys_arr] at ha
    rw [canonicalizeJsonValue, canonicalJsonToPlain, plainItems_eq, canonicalizeItems_eq, List.map_map,
      Json.normalize_arr]
    exact congrArg Json.arr (List.map_congr_left fun j hj => ih j hj (ha j hj))
  | obj members ih =>
    rw [Json.uniqueKeys_obj] at ha
    have hkeys : ((sortBy Prod.fst (canonicalizeMembers members)).map Prod.fst).Nodup := by
      refine ((sortBy_perm _ _).map _).nodup_iff.mpr ?_
      rw [canonicalizeMembers_eq, List.map_map]
      exact ha.1
    rw [canonicalizeJsonValue, canonicalJsonToPlain_object hkeys, Json.normalize_obj,
      map_sortBy (fun m => (m.1, canonicalJsonToPlain m.2)) Prod.fst Prod.fst (fun _ => rfl),
      canonicalizeMembers_eq, List.map_map]
    refine congrArg (fun ms => Json.obj (sortBy Prod.fst ms)) (List.map_congr_left fun m hm => ?_)
    exact congrArg (Prod.mk m.1) (ih m hm (ha.2 m hm))

/-- The order of the members does not matter to the canonical form. -/
theorem canonicalizeJsonValue_normalize (a : Json) :
    canonicalizeJsonValue a.normalize = canonicalizeJsonValue a := by
  induction a using Json.induct with
  | null => rfl
  | bool b => rfl
  | int i => rfl
  | float f => rfl
  | str s => rfl
  | arr items ih =>
    rw [Json.normalize_arr, canonicalizeJsonValue, canonicalizeJsonValue, canonicalizeItems_eq,
      canonicalizeItems_eq, List.map_map]
    exact congrArg Tagged.canonicalArray (List.map_congr_left ih)
  | obj members ih =>
    have hmembers : (members.map (fun m => (m.1, m.2.normalize))).map
        (fun m => (m.1, canonicalizeJsonValue m.2)) =
          members.map (fun m => (m.1, canonicalizeJsonValue m.2)) := by
      rw [List.map_map]
      exact List.map_congr_left fun m hm => congrArg (Prod.mk m.1) (ih m hm)
    rw [Json.normalize_obj, canonicalizeJsonValue, canonicalizeJsonValue, canonicalizeMembers_eq,
      canonicalizeMembers_eq,
      map_sortBy (fun m => (m.1, canonicalizeJsonValue m.2)) Prod.fst Prod.fst (fun _ => rfl), hmembers,
      sortBy_idem]

/-- The fingerprint prints the value with its members in key order. -/
theorem fingerprint_canonicalize (a : JsonValue) :
    canonicalValueFingerprint (canonicalizeJsonValue a.value) =
      Identity.canonicalValueFingerprint (Identity.canonicalizeJsonValue a.value) := by
  rw [canonicalValueFingerprint, canonicalJsonToPlain_canonicalize a.unique]
  rfl

theorem fingerprint_eq_iff (a b : JsonValue) :
    canonicalValueFingerprint (canonicalizeJsonValue a.value) =
      canonicalValueFingerprint (canonicalizeJsonValue b.value) ↔ Json.SameValue a.value b.value := by
  rw [canonicalValueFingerprint, canonicalValueFingerprint, canonicalJsonToPlain_canonicalize a.unique,
    canonicalJsonToPlain_canonicalize b.unique, Json.canonicalJson_inj, Json.normalize_idem,
    Json.normalize_idem]
  exact ⟨Json.SameValue.of_normalize_eq, fun h => h.normalize_eq a.unique⟩

/-- A plain object or array. -/
def isContainer : Json → Bool
  | .arr _ => true
  | .obj _ => true
  | _ => false

/-- Two containers compare as their fingerprints do. -/
theorem containerEq_eq_true_iff (a b : JsonValue) :
    containerEq (canonicalizeJsonValue a.value) (canonicalizeJsonValue b.value) = true ↔
      isContainer a.value = true ∧ Json.SameValue a.value b.value := by
  rw [← fingerprint_eq_iff]
  constructor
  · intro h
    cases ha : a.value with
    | arr items =>
      rw [ha] at h
      cases hb : b.value with
      | arr items' =>
        rw [hb] at h
        exact ⟨rfl, of_decide_eq_true h⟩
      | _ => simp [hb, canonicalizeJsonValue, containerEq] at h
    | obj members =>
      rw [ha] at h
      cases hb : b.value with
      | obj members' =>
        rw [hb] at h
        exact ⟨rfl, of_decide_eq_true h⟩
      | _ => simp [hb, canonicalizeJsonValue, containerEq] at h
    | _ => simp [ha, canonicalizeJsonValue, containerEq] at h
  · rintro ⟨hcontainer, h⟩
    have hsame := (fingerprint_eq_iff a b).mp h
    cases ha : a.value with
    | arr items =>
      rw [ha] at h hsame
      cases hb : b.value with
      | arr items' =>
        rw [hb] at h
        exact decide_eq_true h
      | _ => rw [hb] at hsame; cases hsame
    | obj members =>
      rw [ha] at h hsame
      cases hb : b.value with
      | obj members' =>
        rw [hb] at h
        exact decide_eq_true h
      | _ => rw [hb] at hsame; cases hsame
    | _ => rw [ha] at hcontainer; cases hcontainer

/-- Fingerprints tell values apart up to the order of object members; containers compare just so; and a
canonical value made plain is canonicalized back. -/
theorem canonical_json_injective (a b : JsonValue) :
    (canonicalValueFingerprint (canonicalizeJsonValue a.value) =
        canonicalValueFingerprint (canonicalizeJsonValue b.value) ↔ Json.SameValue a.value b.value) ∧
      (containerEq (canonicalizeJsonValue a.value) (canonicalizeJsonValue b.value) = true ↔
        isContainer a.value = true ∧ Json.SameValue a.value b.value) ∧
      canonicalizeJsonValue (canonicalJsonToPlain (canonicalizeJsonValue a.value)) =
        canonicalizeJsonValue a.value := by
  refine ⟨fingerprint_eq_iff a b, containerEq_eq_true_iff a b, ?_⟩
  rw [canonicalJsonToPlain_canonicalize a.unique, canonicalizeJsonValue_normalize]

/-- Equal in the process, but different values: `true`, `1` and `1.0` inside an array. -/
example : canonicalValueFingerprint (.canonicalArray [.bool true, .int 1]) = "[true,1]" := by decide

end Tagged
end CollibraGovernance.Identity
