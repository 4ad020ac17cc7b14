import Mathlib.Data.List.Chain

/-! Cutting a list into consecutive groups that fit: the greedy cut has the fewest groups. -/
namespace CollibraGovernance.Library

variable {α : Type*} {fits : List α → Prop}

/-- `groups` cuts `xs` into consecutive groups that fit. -/
structure Cuts (fits : List α → Prop) (groups : List (List α)) (xs : List α) : Prop where
  flatten : groups.flatten = xs
  fits : ∀ group ∈ groups, fits group

/-- No group could have taken the first element of the next one. -/
def Greedy (fits : List α → Prop) (groups : List (List α)) : Prop :=
  groups.IsChain fun group next => ∀ x ∈ next.head?, ¬ fits (group ++ [x])

/-- What lies inside a fitting list fits. -/
def InfixClosed (fits : List α → Prop) : Prop := ∀ before xs after, fits (before ++ xs ++ after) → fits xs

@[simp] theorem greedy_nil : Greedy fits [] := List.isChain_nil

@[simp] theorem greedy_singleton (group : List α) : Greedy fits [group] := List.isChain_singleton _

theorem Greedy.tail {group : List α} {groups : List (List α)} (h : Greedy fits (group :: groups)) :
    Greedy fits groups := List.IsChain.of_cons h

/-- A new last group starts with an element its predecessor could not take. -/
theorem Greedy.flush {groups : List (List α)} {current : List α} {x : α}
    (h : Greedy fits (groups ++ [current])) (hx : ¬ fits (current ++ [x])) :
    Greedy fits (groups ++ [current] ++ [[x]]) := by
  refine List.isChain_append.mpr ⟨h, List.isChain_singleton _, ?_⟩
  intro group hgroup next hnext y hy
  rw [List.getLast?_concat, Option.mem_some] at hgroup
  rw [List.head?_cons, Option.mem_some] at hnext
  obtain rfl := hgroup
  obtain rfl := hnext
  rw [List.head?_cons, Option.mem_some] at hy
  exact hy ▸ hx

/-- A last group that has a first element keeps it while it grows. -/
theorem Greedy.grow {groups : List (List α)} {current : List α} {x : α}
    (h : Greedy fits (groups ++ [current])) (hne : current ≠ []) :
    Greedy fits (groups ++ [current ++ [x]]) := by
  obtain ⟨hgroups, _, hlast⟩ := List.isChain_append.mp h
  refine List.isChain_append.mpr ⟨hgroups, List.isChain_singleton _, ?_⟩
  intro group hgroup next hnext y hy
  rw [List.head?_cons, Option.mem_some] at hnext
  obtain rfl := hnext
  rw [List.head?_append_of_ne_nil _ hne] at hy
  exact hlast group hgroup current rfl y hy

/-- A first group that could not take more reaches at least as far as any group that starts no later. -/
lemma suffix_of_blocked (closed : InfixClosed fits) {before group rest other others : List α}
    (heq : before ++ group ++ rest = other ++ others) (hother : fits other)
    (hblocked : ∀ x ∈ rest.head?, ¬ fits (group ++ [x])) : rest <:+ others := by
  rcases Nat.lt_or_ge others.length rest.length with hlt | hge
  · -- the group would end strictly inside `other`
    obtain ⟨taken, rfl⟩ : others <:+ rest :=
      List.suffix_of_suffix_length_le ⟨other, rfl⟩ ⟨before ++ group, heq⟩ hlt.le
    obtain rfl : before ++ group ++ taken = other := by
      rw [← List.append_assoc] at heq
      exact List.append_cancel_right heq
    cases taken with
    | nil => simp at hlt
    | cons x taken =>
      have hfits : fits (group ++ [x]) := closed before _ taken (by simpa using hother)
      exact absurd hfits (hblocked x rfl)
  · exact List.suffix_of_suffix_length_le ⟨before ++ group, heq⟩ ⟨other, rfl⟩ hge

/-- A greedy cut of a suffix needs no more groups than any cut of the whole. -/
theorem greedy_length_le_of_suffix (closed : InfixClosed fits) {groups others : List (List α)}
    (hne : ∀ group ∈ groups, group ≠ []) (greedy : Greedy fits groups)
    (hothers : ∀ other ∈ others, fits other) (h : groups.flatten <:+ others.flatten) :
    groups.length ≤ others.length := by
  induction groups generalizing others with
  | nil => exact Nat.zero_le _
  | cons group groups ih =>
    cases others with
    | nil =>
      have hnil : group ++ groups.flatten = [] := List.suffix_nil.mp h
      exact absurd (List.append_eq_nil_iff.mp hnil).1 (hne group (.head _))
    | cons other others =>
      obtain ⟨before, heq⟩ := h
      rw [List.flatten_cons, List.flatten_cons, ← List.append_assoc] at heq
      have hblocked : ∀ x ∈ groups.flatten.head?, ¬ fits (group ++ [x]) := by
        intro x hx
        cases groups with
        | nil => cases hx
        | cons next rest =>
          have hnext : next ≠ [] := hne next (.tail _ (.head _))
          rw [List.flatten_cons, List.head?_append_of_ne_nil _ hnext] at hx
          exact (List.isChain_cons_cons.mp greedy).1 x hx
      have hrest := suffix_of_blocked closed heq (hothers other (.head _)) hblocked
      exact Nat.succ_le_succ (ih (fun g hg => hne g (.tail _ hg)) greedy.tail
        (fun o ho => hothers o (.tail _ ho)) hrest)

/-- No cut into fitting groups has fewer groups than a greedy one. -/
theorem Greedy.minimal (closed : InfixClosed fits) {groups others : List (List α)} {xs : List α}
    (hne : ∀ group ∈ groups, group ≠ []) (greedy : Greedy fits groups) (hcut : groups.flatten = xs)
    (hothers : Cuts fits others xs) : groups.length ≤ others.length :=
  greedy_length_le_of_suffix closed hne greedy hothers.fits
    (by simpa only [hcut, hothers.flatten] using List.suffix_refl xs)

end CollibraGovernance.Library
