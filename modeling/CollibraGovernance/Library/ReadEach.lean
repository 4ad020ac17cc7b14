import Mathlib.Data.List.Nodup
import CollibraGovernance.Library.Refusal

/-! Reading a list where each entry sees its position and what the entries before it left behind. -/
namespace CollibraGovernance.Library

variable {ε α β σ : Type} {p : ε → Prop}

def readEach (read : Nat → σ → α → Except ε (β × σ)) : Nat → σ → List α → Except ε (List β × σ)
  | _, s, [] => .ok ([], s)
  | i, s, x :: xs => do
    let first ← read i s x
    let rest ← readEach read (i + 1) first.2 xs
    return (first.1 :: rest.1, rest.2)

variable {read : Nat → σ → α → Except ε (β × σ)}

@[simp] lemma readEach_nil {i : Nat} {s : σ} : readEach read i s [] = .ok ([], s) := rfl

lemma readEach_cons_ok {i : Nat} {s s' : σ} {x : α} {xs : List α} {ys : List β} :
    readEach read i s (x :: xs) = .ok (ys, s') ↔
      ∃ y t ys', read i s x = .ok (y, t) ∧ readEach read (i + 1) t xs = .ok (ys', s') ∧ ys = y :: ys' := by
  rw [readEach]
  constructor
  · intro h
    obtain ⟨⟨y, t⟩, hy, h⟩ := bind_eq_ok.mp h
    obtain ⟨⟨ys', s''⟩, hys, h⟩ := bind_eq_ok.mp h
    cases pure_eq_ok.mp h
    exact ⟨y, t, ys', hy, hys, rfl⟩
  · rintro ⟨y, t, ys', hy, hys, rfl⟩
    rw [hy, ok_bind, hys]
    rfl

/-- The first entry that is not read has a fault, in the state the ones before it left. -/
def FirstFaultFrom (read : Nat → σ → α → Except ε (β × σ)) (fault : Nat → σ → α → Prop)
    (i : Nat) (s : σ) (xs : List α) : Prop :=
  ∃ before x after ys s', xs = before ++ x :: after ∧ readEach read i s before = .ok (ys, s') ∧
    fault (i + before.length) s' x

lemma not_firstFaultFrom_nil {fault : Nat → σ → α → Prop} {i : Nat} {s : σ} :
    ¬ FirstFaultFrom read fault i s [] := by
  rintro ⟨before, x, after, _, _, h, -⟩
  cases before <;> cases h

lemma firstFaultFrom_cons {fault : Nat → σ → α → Prop} {i : Nat} {s : σ} {x : α} {xs : List α} :
    FirstFaultFrom read fault i s (x :: xs) ↔
      fault i s x ∨ ∃ y t, read i s x = .ok (y, t) ∧ FirstFaultFrom read fault (i + 1) t xs := by
  constructor
  · rintro ⟨before, z, after, ys, s', h, hread, hfault⟩
    cases before with
    | nil =>
      cases h
      cases hread
      exact Or.inl hfault
    | cons w before =>
      cases h
      obtain ⟨y, t, ys', hy, hrest, rfl⟩ := readEach_cons_ok.mp hread
      refine Or.inr ⟨y, t, hy, before, z, after, ys', s', rfl, hrest, ?_⟩
      rw [List.length_cons] at hfault
      rwa [show i + 1 + before.length = i + (before.length + 1) by omega]
  · rintro (hfault | ⟨y, t, hy, before, z, after, ys, s', rfl, hread, hfault⟩)
    · exact ⟨[], x, xs, [], s, rfl, rfl, hfault⟩
    · refine ⟨x :: before, z, after, y :: ys, s', rfl, readEach_cons_ok.mpr ⟨y, t, ys, hy, hread, rfl⟩, ?_⟩
      rw [List.length_cons]
      rwa [show i + (before.length + 1) = i + 1 + before.length by omega]

/-- Reading stops with an error of a kind exactly when the first entry that is not read stops so. -/
theorem fails_readEach {i : Nat} {s : σ} {xs : List α} :
    Fails p (readEach read i s xs) ↔ FirstFaultFrom read (fun j t x => Fails p (read j t x)) i s xs := by
  induction xs generalizing i s with
  | nil => exact iff_of_false not_fails_ok not_firstFaultFrom_nil
  | cons x xs ih =>
    rw [readEach, fails_bind, firstFaultFrom_cons]
    apply or_congr Iff.rfl
    rw [Prod.exists]
    apply exists_congr
    intro y
    apply exists_congr
    intro t
    apply and_congr_right
    intro _
    rw [fails_bind, ih]
    apply or_iff_left
    rintro ⟨_, -, h⟩
    exact not_fails_pure h

lemma eq_map_of_forall₂ {f : α → β} {xs : List α} {ys : List β} (h : List.Forall₂ (fun x y => f x = y) xs ys) :
    ys = xs.map f := by
  induction h with
  | nil => rfl
  | cons hxy _ ih => rw [List.map_cons, hxy, ih]

/-- Entries that bring ids of their own are all read when no id occurs twice: what is read of each is related to
what it was written from, and the ids add up. -/
theorem readEach_written {γ τ : Type} {read : Nat → List τ → α → Except ε (β × List τ)} {ids : γ → List τ}
    {R : γ → β → Prop} {xs : List γ} {raws : List α}
    (h : List.Forall₂ (fun x raw => ∀ i seen, (seen ++ ids x).Nodup →
      ∃ y, read i seen raw = .ok (y, seen ++ ids x) ∧ R x y) xs raws)
    (i : Nat) (seen : List τ) (hfresh : (seen ++ xs.flatMap ids).Nodup) :
    ∃ ys, readEach read i seen raws = .ok (ys, seen ++ xs.flatMap ids) ∧ List.Forall₂ R xs ys := by
  induction h generalizing i seen with
  | nil => exact ⟨[], by rw [List.flatMap_nil, List.append_nil]; rfl, .nil⟩
  | @cons x raw xs raws hx _ ih =>
    rw [List.flatMap_cons, ← List.append_assoc] at hfresh ⊢
    obtain ⟨y, hy, hr⟩ := hx i seen hfresh.of_append_left
    obtain ⟨ys, hys, hrs⟩ := ih (i + 1) (seen ++ ids x) hfresh
    exact ⟨y :: ys, readEach_cons_ok.mpr ⟨y, _, ys, hy, hys, rfl⟩, .cons hr hrs⟩

/-- Reading that keeps the ids seen so far apart: the ids of what is read add up, and none occurs twice. -/
theorem readEach_inv {τ : Type} {read : Nat → List τ → α → Except ε (β × List τ)} {ids : β → List τ}
    {R : α → β → Prop} {xs : List α}
    (h : ∀ x ∈ xs, ∀ i seen y seen', seen.Nodup → read i seen x = .ok (y, seen') →
      seen' = seen ++ ids y ∧ seen'.Nodup ∧ R x y)
    {i : Nat} {seen seen' : List τ} {ys : List β} (hseen : seen.Nodup)
    (hread : readEach read i seen xs = .ok (ys, seen')) :
    seen' = seen ++ ys.flatMap ids ∧ seen'.Nodup ∧ List.Forall₂ R xs ys := by
  induction xs generalizing i seen ys with
  | nil =>
    cases hread
    exact ⟨by simp, hseen, .nil⟩
  | cons x xs ih =>
    obtain ⟨y, t, ys', hy, hys, rfl⟩ := readEach_cons_ok.mp hread
    obtain ⟨hx, hxs⟩ := List.forall_mem_cons.mp h
    obtain ⟨rfl, hnodup, hr⟩ := hx i seen y t hseen hy
    obtain ⟨rfl, hnodup, hrs⟩ := ih hxs hnodup hys
    exact ⟨by simp, hnodup, .cons hr hrs⟩

/-! Lists that are paired with the lists they were read from. -/

theorem forall₂_filter {R : α → β → Prop} {p : α → Bool} {q : β → Bool} {xs : List α} {ys : List β}
    (h : List.Forall₂ R xs ys) (hpq : ∀ x y, R x y → p x = q y) : List.Forall₂ R (xs.filter p) (ys.filter q) := by
  induction h with
  | nil => exact .nil
  | @cons x y xs ys hxy _ ih =>
    cases hq : q y with
    | true =>
      rw [List.filter_cons_of_pos ((hpq x y hxy).trans hq), List.filter_cons_of_pos hq]
      exact .cons hxy ih
    | false =>
      rw [List.filter_cons_of_neg (by simp [hpq x y hxy, hq]), List.filter_cons_of_neg (by simp [hq])]
      exact ih

/-- A relation that one side decides holds of all pairs when that side does so throughout. -/
theorem forall₂_iff_forall {P : α → Prop} {R : α → β → Prop} {xs : List α} {ys : List β}
    (h : List.Forall₂ (fun x y => R x y ↔ P x) xs ys) : List.Forall₂ R xs ys ↔ ∀ x ∈ xs, P x := by
  induction h with
  | nil => simp
  | cons hxy _ ih => rw [List.forall₂_cons, List.forall_mem_cons, hxy, ih]

/-- Of parts that know their owners, those of one owner are its own, when owners are told apart. -/
theorem filter_flatMap_owned {ι : Type} [DecidableEq ι] {xs : List α} {idOf : α → ι} {parts : α → List β}
    {owner : β → ι} (hids : (xs.map idOf).Nodup) (howned : ∀ x ∈ xs, ∀ y ∈ parts x, owner y = idOf x) {x : α}
    (hx : x ∈ xs) : (xs.flatMap parts).filter (fun y => owner y = idOf x) = parts x := by
  induction xs with
  | nil => exact absurd hx List.not_mem_nil
  | cons z zs ih =>
    obtain ⟨hz, hzs⟩ := List.nodup_cons.mp hids
    obtain ⟨hown, hrest⟩ := List.forall_mem_cons.mp howned
    rw [List.flatMap_cons, List.filter_append]
    rcases List.mem_cons.mp hx with rfl | hx
    · have hothers : (zs.flatMap parts).filter (fun y => owner y = idOf x) = [] := by
        rw [List.filter_eq_nil_iff]
        intro y hy
        obtain ⟨w, hw, hyw⟩ := List.mem_flatMap.mp hy
        rw [decide_eq_true_eq, hrest w hw y hyw]
        exact fun h => hz (h ▸ List.mem_map_of_mem hw)
      rw [hothers, List.append_nil, List.filter_eq_self]
      intro y hy
      exact decide_eq_true (hown y hy)
    · have hnone : (parts z).filter (fun y => owner y = idOf x) = [] := by
        rw [List.filter_eq_nil_iff]
        intro y hy
        rw [decide_eq_true_eq, hown y hy]
        exact fun h => hz (h ▸ List.mem_map_of_mem hx)
      rw [hnone, List.nil_append]
      exact ih hzs hrest hx

end CollibraGovernance.Library
