import Mathlib.Data.List.Basic

/-! Codes whose words can be told apart whatever follows them. -/
namespace CollibraGovernance.Library
variable {α β : Type}

/-- Equal texts start with the word of the same letter. -/
def PrefixFree (code : α → List β) : Prop := ∀ a b x y, code a ++ x = code b ++ y → a = b

/-- Texts written in such a code, without empty words, are read back in one way only. -/
theorem PrefixFree.flatMap_injective {code : α → List β} (h : PrefixFree code) (hne : ∀ a, code a ≠ []) :
    Function.Injective fun letters : List α => letters.flatMap code := by
  intro as bs heq
  dsimp only at heq
  induction as generalizing bs with
  | nil =>
    cases bs with
    | nil => rfl
    | cons b bs =>
      rw [List.flatMap_nil, List.flatMap_cons] at heq
      exact absurd (List.append_eq_nil_iff.mp heq.symm).1 (hne b)
  | cons a as ih =>
    cases bs with
    | nil =>
      rw [List.flatMap_nil, List.flatMap_cons] at heq
      exact absurd (List.append_eq_nil_iff.mp heq).1 (hne a)
    | cons b bs =>
      rw [List.flatMap_cons, List.flatMap_cons] at heq
      have hab := h a b _ _ heq
      rw [hab] at heq
      rw [hab, ih (List.append_cancel_left heq)]

end CollibraGovernance.Library
