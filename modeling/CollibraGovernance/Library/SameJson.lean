import CollibraGovernance.Library.CanonicalJson
import CollibraGovernance.Library.PyJson
import Mathlib.Data.List.Perm.Basic

/-! JSON values that differ only in the order of object members, and their one canonical text. -/
namespace CollibraGovernance.Library
namespace Json

/-- The same value, up to the order of the members of its objects. -/
inductive SameValue : Json → Json → Prop
  | null : SameValue .null .null
  | bool (b : Bool) : SameValue (.bool b) (.bool b)
  | int (i : Int) : SameValue (.int i) (.int i)
  | float (f : FloatText) : SameValue (.float f) (.float f)
  | str (s : String) : SameValue (.str s) (.str s)
  | arr {items items' : List Json} (h : List.Forall₂ SameValue items items') :
      SameValue (.arr items) (.arr items')
  | obj {members listed members' : List (String × Json)}
      (hkeys : members.map Prod.fst = listed.map Prod.fst)
      (hvalues : List.Forall₂ SameValue (members.map Prod.snd) (listed.map Prod.snd))
      (hlisted : listed.Perm members') : SameValue (.obj members) (.obj members')

/-- Pairings over the members of the first list follow from facts about each of its members. -/
lemma forall₂_of_mem {α β : Type*} {R S : α → β → Prop} {xs : List α} {ys : List β}
    (h : List.Forall₂ R xs ys) (himp : ∀ x ∈ xs, ∀ y, R x y → S x y) : List.Forall₂ S xs ys := by
  induction h with
  | nil => exact .nil
  | cons hxy _ ih =>
    exact .cons (himp _ (.head _) _ hxy) (ih fun x hx => himp x (.tail _ hx))

lemma forall₂_normalize {items items' : List Json} :
    List.Forall₂ (fun a b => a.normalize = b.normalize) items items' ↔
      items.map normalize = items'.map normalize := by
  rw [← List.forall₂_eq_eq_eq, List.forall₂_map_left_iff, List.forall₂_map_right_iff]

/-- Values that are the same are written alike. -/
theorem SameValue.normalize_eq {a b : Json} (h : SameValue a b) (ha : a.uniqueKeys = true) :
    a.normalize = b.normalize := by
  induction a using Json.induct generalizing b with
  | null => cases h; rfl
  | bool b => cases h; rfl
  | int i => cases h; rfl
  | float f => cases h; rfl
  | str s => cases h; rfl
  | arr items ih =>
    cases h with
    | arr h =>
      rw [uniqueKeys_arr] at ha
      rw [normalize_arr, normalize_arr]
      refine congrArg Json.arr (forall₂_normalize.mp (forall₂_of_mem h ?_))
      exact fun j hj b hb => ih j hj hb (ha j hj)
  | obj members ih =>
    cases h with
    | @obj _ listed members' hkeys hvalues hlisted =>
      rw [uniqueKeys_obj] at ha
      have hnormal : (members.map Prod.snd).map normalize = (listed.map Prod.snd).map normalize := by
        refine forall₂_normalize.mp (forall₂_of_mem hvalues ?_)
        intro j hj b hb
        obtain ⟨m, hm, rfl⟩ := List.mem_map.mp hj
        exact ih m hm hb (ha.2 m hm)
      have hmembers : (Json.obj members).normalize = (Json.obj listed).normalize := by
        have hzip : ∀ ms : List (String × Json), ms.map (fun m => (m.1, m.2.normalize)) =
            (ms.map Prod.fst).zip ((ms.map Prod.snd).map normalize) := by
          intro ms
          rw [List.map_map, List.zip_map']
          rfl
        rw [normalize_obj, normalize_obj, hzip, hzip, hkeys, hnormal]
      exact hmembers.trans (normalize_obj_perm (hkeys ▸ ha.1) hlisted)

/-- Values that are written alike are the same. -/
theorem SameValue.of_normalize_eq {a b : Json} (h : a.normalize = b.normalize) : SameValue a b := by
  induction a using Json.induct generalizing b with
  | null => cases b <;> simp [normalize] at h; exact .null
  | bool b => cases b <;> simp [normalize] at h; exact h ▸ .bool _
  | int i => cases b <;> simp [normalize] at h; exact h ▸ .int _
  | float f => cases b <;> simp [normalize] at h; exact h ▸ .float _
  | str s => cases b <;> simp [normalize] at h; exact h ▸ .str _
  | arr items ih =>
    cases b with
    | arr items' =>
      rw [normalize_arr, normalize_arr] at h
      exact .arr (forall₂_of_mem (forall₂_normalize.mpr (Json.arr.inj h)) fun j hj b hb => ih j hj hb)
    | _ => simp [normalize] at h
  | obj members ih =>
    cases b with
    | obj members' =>
      rw [normalize_obj_eq, normalize_obj_eq] at h
      have hperm : (members.map fun m => (m.1, m.2.normalize)).Perm
          (members'.map fun m => (m.1, m.2.normalize)) :=
        (sortedMembers_perm members).symm.trans (Json.obj.inj h ▸ sortedMembers_perm members')
      have hself : List.Forall₂ (fun x m => x = (m.1, m.2.normalize))
          (members'.map fun m : String × Json => (m.1, m.2.normalize)) members' := by
        rw [List.forall₂_map_left_iff]
        exact List.forall₂_same.mpr fun _ _ => rfl
      obtain ⟨listed, hlisted, hmembers⟩ := List.perm_comp_forall₂ hperm hself
      rw [List.forall₂_map_left_iff] at hlisted
      have hpairs : List.Forall₂ (fun m n : String × Json => m.1 = n.1 ∧ SameValue m.2 n.2) members listed :=
        forall₂_of_mem hlisted fun m hm n hn => by
          obtain ⟨hkey, hvalue⟩ := Prod.mk.inj hn
          exact ⟨hkey, ih m hm hvalue⟩
      have hkeys : members.map Prod.fst = listed.map Prod.fst := by
        rw [← List.forall₂_eq_eq_eq, List.forall₂_map_left_iff, List.forall₂_map_right_iff]
        exact hpairs.imp fun _ _ h => h.1
      have hvalues : List.Forall₂ SameValue (members.map Prod.snd) (listed.map Prod.snd) := by
        rw [List.forall₂_map_left_iff, List.forall₂_map_right_iff]
        exact hpairs.imp fun _ _ h => h.2
      exact .obj hkeys hvalues hmembers
    | _ => simp [normalize] at h

end Json
end CollibraGovernance.Library
