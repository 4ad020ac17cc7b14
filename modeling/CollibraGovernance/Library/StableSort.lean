import Mathlib.Data.List.Sort
import Mathlib.Data.Prod.Lex
import Mathlib.Data.String.Basic

/-! Stable ascending sort by a key, and the canonical order it gives a finite family. -/
namespace CollibraGovernance.Library

variable {α β κ : Type*} [LinearOrder κ]

/-- Sort by a key; elements with equal keys keep their input order. -/
def sortBy (key : α → κ) (xs : List α) : List α :=
  xs.insertionSort (fun a b => key a ≤ key b)

/-- The list is already in ascending key order. -/
def SortedBy (key : α → κ) (xs : List α) : Prop := xs.Pairwise (fun a b => key a ≤ key b)

instance (key : α → κ) (xs : List α) : Decidable (SortedBy key xs) :=
  inferInstanceAs (Decidable (xs.Pairwise _))

instance keyTotal (key : α → κ) : Std.Total (fun a b => key a ≤ key b) :=
  ⟨fun a b => le_total (key a) (key b)⟩

instance keyTrans (key : α → κ) : IsTrans α (fun a b => key a ≤ key b) :=
  ⟨fun _ _ _ => le_trans⟩

@[simp] theorem sortBy_nil (key : α → κ) : sortBy key [] = [] := rfl

theorem sortBy_perm (key : α → κ) (xs : List α) : (sortBy key xs).Perm xs :=
  List.perm_insertionSort _ xs

@[simp] theorem mem_sortBy {key : α → κ} {xs : List α} {x : α} :
    x ∈ sortBy key xs ↔ x ∈ xs := (sortBy_perm key xs).mem_iff

@[simp] theorem length_sortBy (key : α → κ) (xs : List α) :
    (sortBy key xs).length = xs.length := (sortBy_perm key xs).length_eq

theorem sortBy_sorted (key : α → κ) (xs : List α) : SortedBy key (sortBy key xs) :=
  List.pairwise_insertionSort _ xs

theorem sortBy_eq_self {key : α → κ} {xs : List α} (h : SortedBy key xs) :
    sortBy key xs = xs := h.insertionSort_eq

@[simp] theorem sortBy_idem (key : α → κ) (xs : List α) :
    sortBy key (sortBy key xs) = sortBy key xs := sortBy_eq_self (sortBy_sorted key xs)

/-- Two sorted arrangements of one family agree when the key separates its members. -/
theorem eq_of_perm_of_sorted {key : α → κ} {xs ys : List α} (h : xs.Perm ys)
    (hx : SortedBy key xs) (hy : SortedBy key ys)
    (hkey : ∀ a ∈ xs, ∀ b ∈ xs, key a = key b → a = b) : xs = ys := by
  refine List.Perm.eq_of_pairwise ?_ hx hy h
  intro a b ha hb hab hba
  exact hkey a ha b (h.mem_iff.mpr hb) (le_antisymm hab hba)

/-- The sorted arrangement does not depend on the listing order. -/
theorem sortBy_congr_perm {key : α → κ} {xs ys : List α} (h : xs.Perm ys)
    (hkey : ∀ a ∈ xs, ∀ b ∈ xs, key a = key b → a = b) : sortBy key xs = sortBy key ys := by
  refine eq_of_perm_of_sorted (((sortBy_perm key xs).trans h).trans (sortBy_perm key ys).symm)
    (sortBy_sorted key xs) (sortBy_sorted key ys) ?_
  intro a ha b hb
  exact hkey a (mem_sortBy.mp ha) b (mem_sortBy.mp hb)

theorem SortedBy.filter {key : α → κ} {xs : List α} (h : SortedBy key xs) (p : α → Bool) :
    SortedBy key (xs.filter p) := List.Pairwise.filter p h

/-- The last member of a sorted list is a greatest one. -/
theorem SortedBy.le_getLast {key : α → κ} {xs : List α} (h : SortedBy key xs) {w : α}
    (hw : xs.getLast? = some w) : ∀ v ∈ xs, key v ≤ key w := by
  obtain ⟨init, rfl⟩ := List.getLast?_eq_some_iff.mp hw
  intro v hv
  rcases List.mem_append.mp hv with hv | hv
  · exact (List.pairwise_append.mp h).2.2 v hv w (List.mem_singleton_self w)
  · rw [List.mem_singleton.mp hv]

theorem filter_orderedInsert_of_neg {key : α → κ} {p : α → Bool} {a : α} (ha : p a = false)
    (xs : List α) :
    (xs.orderedInsert (fun a b => key a ≤ key b) a).filter p = xs.filter p := by
  induction xs with
  | nil => simp [ha]
  | cons x xs ih =>
    by_cases h : key a ≤ key x
    · rw [List.orderedInsert_cons, if_pos h, List.filter_cons_of_neg (by simp [ha])]
    · rw [List.orderedInsert_cons, if_neg h]
      simp only [List.filter_cons, ih]

theorem filter_orderedInsert_of_pos {key : α → κ} {k : κ} {a : α} (ha : key a = k)
    (xs : List α) (hxs : SortedBy key xs) :
    (xs.orderedInsert (fun a b => key a ≤ key b) a).filter (fun x => key x = k) =
      a :: xs.filter (fun x => key x = k) := by
  induction xs with
  | nil => simp [ha]
  | cons x xs ih =>
    obtain ⟨hx, hrest⟩ := List.pairwise_cons.mp hxs
    by_cases h : key a ≤ key x
    · rw [List.orderedInsert_cons, if_pos h, List.filter_cons_of_pos (by simp [ha])]
    · have hne : key x ≠ k := by
        rw [← ha]
        exact ne_of_lt (not_le.mp h)
      rw [List.orderedInsert_cons, if_neg h, List.filter_cons_of_neg (by simp [hne]),
        ih hrest, List.filter_cons_of_neg (by simp [hne])]

/-- Stability: members with one key keep their input order. -/
theorem filter_key_sortBy (key : α → κ) (k : κ) (xs : List α) :
    (sortBy key xs).filter (fun x => key x = k) = xs.filter (fun x => key x = k) := by
  induction xs with
  | nil => rfl
  | cons x xs ih =>
    change ((sortBy key xs).orderedInsert _ x).filter _ = _
    by_cases h : key x = k
    · rw [filter_orderedInsert_of_pos h _ (sortBy_sorted key xs), ih,
        List.filter_cons_of_pos (by simp [h])]
    · rw [filter_orderedInsert_of_neg (by simp [h]), ih, List.filter_cons_of_neg (by simp [h])]

/-- If listing two equally keyed members in either order sorts to the same view, the view does not
tell them apart. -/
theorem eq_of_swap {view : α → β} {key : α → κ} {key' : β → κ} (hview : ∀ a, key' (view a) = key a)
    {a b : α} {rest : List α} (hab : key a = key b)
    (h : (sortBy key (a :: b :: rest)).map view = (sortBy key (b :: a :: rest)).map view) :
    view a = view b := by
  have hfilter : ∀ xs : List α, ((sortBy key xs).map view).filter (fun y => key' y = key a) =
      (xs.filter (fun x => key x = key a)).map view := by
    intro xs
    rw [List.filter_map]
    have hcomp : (fun y => decide (key' y = key a)) ∘ view = fun x => decide (key x = key a) := by
      funext x
      simp [hview]
    rw [hcomp, filter_key_sortBy]
  have hlists := congrArg (List.filter (fun y => key' y = key a)) h
  rw [hfilter, hfilter] at hlists
  simp only [List.filter_cons, hab, decide_true, if_true, List.map_cons, List.cons.injEq] at hlists
  exact hlists.1

/-- Sorting commutes with a map that carries the key. -/
theorem map_sortBy (f : α → β) (key : α → κ) (key' : β → κ) (h : ∀ a, key' (f a) = key a)
    (xs : List α) : (sortBy key xs).map f = sortBy key' (xs.map f) := by
  apply List.map_insertionSort
  intro a _ b _
  simp only [h]

theorem SortedBy.map {f : α → β} {key : α → κ} {key' : β → κ} (h : ∀ a, key' (f a) = key a)
    {xs : List α} : SortedBy key' (xs.map f) ↔ SortedBy key xs := by
  unfold SortedBy
  rw [List.pairwise_map]
  simp only [h]

end CollibraGovernance.Library
