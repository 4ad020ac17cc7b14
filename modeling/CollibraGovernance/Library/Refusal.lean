import CollibraGovernance.Library.Outcome

/-! Why a computation stops: an error of a sequence is the error of its first part that fails. -/
namespace CollibraGovernance.Library

variable {ε ε' α β γ σ : Type} {p : ε → Prop}

/-- The computation stops with an error of a kind. -/
def Fails (p : ε → Prop) (x : Except ε α) : Prop := ∃ e, x = .error e ∧ p e

@[simp] lemma not_fails_ok {a : α} : ¬ Fails p (.ok a : Except ε α) := by
  rintro ⟨e, h, -⟩
  cases h

@[simp] lemma not_fails_pure {a : α} : ¬ Fails p (pure a : Except ε α) := not_fails_ok

@[simp] lemma fails_error {e : ε} : Fails p (.error e : Except ε α) ↔ p e := by
  constructor
  · rintro ⟨e', h, hp⟩
    cases h
    exact hp
  · intro hp
    exact ⟨e, rfl, hp⟩

/-- A sequence stops in its first part, or after it. -/
theorem fails_bind {x : Except ε α} {f : α → Except ε β} :
    Fails p (x >>= f) ↔ Fails p x ∨ ∃ a, x = .ok a ∧ Fails p (f a) := by
  cases x with
  | error e =>
    change Fails p (.error e) ↔ _
    simp
  | ok a =>
    rw [ok_bind]
    simp

/-- A sequence of parts of which none stops so does not stop so. -/
lemma not_fails_bind {x : Except ε α} {f : α → Except ε β} (hx : ¬ Fails p x) (hf : ∀ a, ¬ Fails p (f a)) :
    ¬ Fails p (x >>= f) := by
  rw [fails_bind]
  rintro (h | ⟨a, -, h⟩)
  · exact hx h
  · exact hf a h

lemma fails_map {x : Except ε α} {f : α → β} : Fails p (x.map f) ↔ Fails p x := by
  cases x with
  | error e =>
    change Fails p (.error e) ↔ _
    rw [fails_error, fails_error]
  | ok a => simp only [Except.map, not_fails_ok]

@[simp] lemma fails_functor {x : Except ε α} {f : α → β} : Fails p (f <$> x) ↔ Fails p x := fails_map

lemma fails_mapError {q : ε' → Prop} {x : Except ε α} {f : ε → ε'} :
    Fails q (x.mapError f) ↔ Fails (fun e => q (f e)) x := by
  cases x with
  | error e =>
    change Fails q (.error (f e)) ↔ _
    rw [fails_error, fails_error]
  | ok a => simp only [Except.mapError, not_fails_ok]

lemma fails_ite {c : Prop} [Decidable c] {x y : Except ε α} :
    Fails p (if c then x else y) ↔ (c ∧ Fails p x) ∨ (¬ c ∧ Fails p y) := by
  split_ifs with h <;> simp [h]

/-- The part of a list that is read, and the first entry after it, which has a fault. -/
def FirstFault (read : α → Except ε β) (fault : α → Prop) (xs : List α) : Prop :=
  ∃ before x after, xs = before ++ x :: after ∧ (∀ y ∈ before, ∃ b, read y = .ok b) ∧ fault x

lemma firstFault_nil {read : α → Except ε β} {fault : α → Prop} : ¬ FirstFault read fault [] := by
  rintro ⟨before, x, after, h, -⟩
  cases before <;> cases h

lemma firstFault_cons {read : α → Except ε β} {fault : α → Prop} {x : α} {xs : List α} :
    FirstFault read fault (x :: xs) ↔ fault x ∨ ((∃ b, read x = .ok b) ∧ FirstFault read fault xs) := by
  constructor
  · rintro ⟨before, y, after, h, hread, hfault⟩
    cases before with
    | nil =>
      cases h
      exact Or.inl hfault
    | cons z before =>
      cases h
      exact Or.inr ⟨hread _ List.mem_cons_self,
        before, y, after, rfl, fun w hw => hread w (List.mem_cons_of_mem _ hw), hfault⟩
  · rintro (hfault | ⟨hx, before, y, after, rfl, hread, hfault⟩)
    · exact ⟨[], x, xs, rfl, fun _ h => absurd h List.not_mem_nil, hfault⟩
    · exact ⟨x :: before, y, after, rfl, List.forall_mem_cons.mpr ⟨hx, hread⟩, hfault⟩

lemma firstFault_congr {read : α → Except ε β} {fault fault' : α → Prop} {xs : List α}
    (h : ∀ x, fault x ↔ fault' x) : FirstFault read fault xs ↔ FirstFault read fault' xs := by
  rw [funext fun x => propext (h x)]

/-- Reading a list stops at its first entry that is not read. -/
theorem fails_mapM {read : α → Except ε β} {xs : List α} :
    Fails p (xs.mapM read) ↔ FirstFault read (fun x => Fails p (read x)) xs := by
  induction xs with
  | nil =>
    rw [List.mapM_nil]
    exact iff_of_false not_fails_pure firstFault_nil
  | cons x xs ih =>
    rw [List.mapM_cons, fails_bind, firstFault_cons]
    apply or_congr Iff.rfl
    constructor
    · rintro ⟨b, hb, hrest⟩
      rcases fails_bind.mp hrest with hxs | ⟨bs, _, hpure⟩
      · exact ⟨⟨b, hb⟩, ih.mp hxs⟩
      · exact absurd hpure not_fails_pure
    · rintro ⟨⟨b, hb⟩, hxs⟩
      exact ⟨b, hb, fails_bind.mpr (Or.inl (ih.mpr hxs))⟩

/-- A list of checks stops at the first that fails. -/
theorem fails_forM {check : α → Except ε PUnit} {xs : List α} :
    Fails p (xs.forM check) ↔ FirstFault check (fun x => Fails p (check x)) xs := by
  induction xs with
  | nil => exact iff_of_false not_fails_pure firstFault_nil
  | cons x xs ih =>
    change Fails p (check x >>= fun _ => xs.forM check) ↔ _
    rw [fails_bind, firstFault_cons, ih, ← exists_and_right]

/-- A fold of fallible steps stops at the first step that fails, in the state reached before it. -/
theorem fails_foldlM {step : σ → α → Except ε σ} {xs : List α} {s : σ} :
    Fails p (xs.foldlM step s) ↔
      ∃ before x after s', xs = before ++ x :: after ∧ before.foldlM step s = .ok s' ∧ Fails p (step s' x) := by
  induction xs generalizing s with
  | nil =>
    rw [List.foldlM_nil]
    refine iff_of_false not_fails_pure ?_
    rintro ⟨before, x, after, _, h, -⟩
    cases before <;> cases h
  | cons x xs ih =>
    rw [List.foldlM_cons, fails_bind]
    constructor
    · rintro (hx | ⟨t, ht, hrest⟩)
      · exact ⟨[], x, xs, s, rfl, rfl, hx⟩
      · obtain ⟨before, y, after, s', rfl, hbefore, hfail⟩ := ih.mp hrest
        refine ⟨x :: before, y, after, s', rfl, ?_, hfail⟩
        rw [List.foldlM_cons, ht]
        exact hbefore
    · rintro ⟨before, y, after, s', h, hbefore, hfail⟩
      cases before with
      | nil =>
        cases h
        cases pure_eq_ok.mp hbefore
        exact Or.inl hfail
      | cons z before =>
        cases h
        obtain ⟨t, ht, hbefore⟩ := bind_eq_ok.mp hbefore
        exact Or.inr ⟨t, ht, ih.mpr ⟨before, y, after, s', rfl, hbefore, hfail⟩⟩

/-! ### Computations that differ in their errors only -/

/-- Both succeed with the same result, or neither succeeds. -/
def Agree (x y : Except ε α) : Prop := ∀ a, x = .ok a ↔ y = .ok a

lemma Agree.refl (x : Except ε α) : Agree x x := fun _ => Iff.rfl

lemma agree_error {e e' : ε} : Agree (.error e : Except ε α) (.error e') := by
  intro a
  constructor <;> intro h <;> cases h

lemma Agree.bind {x y : Except ε α} {f g : α → Except ε β} (h : Agree x y) (hf : ∀ a, Agree (f a) (g a)) :
    Agree (x >>= f) (y >>= g) := by
  intro b
  rw [bind_eq_ok, bind_eq_ok]
  exact exists_congr fun a => and_congr (h a) (hf a b)

lemma Agree.ite {c : Prop} [Decidable c] {x x' y y' : Except ε α} (hx : Agree x x') (hy : Agree y y') :
    Agree (if c then x else y) (if c then x' else y') := by
  split_ifs
  · exact hx
  · exact hy

lemma agree_forM {f g : α → Except ε PUnit} {xs : List α} (h : ∀ x ∈ xs, Agree (f x) (g x)) :
    Agree (xs.forM f) (xs.forM g) := by
  induction xs with
  | nil => exact Agree.refl _
  | cons x xs ih =>
    exact (h x (List.mem_cons_self ..)).bind fun _ => ih fun y hy => h y (List.mem_cons_of_mem _ hy)

end CollibraGovernance.Library
