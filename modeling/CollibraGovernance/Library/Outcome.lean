import Mathlib.Data.List.Forall2
import Mathlib.Data.List.Perm.Basic

/-! Inverting computations that may stop with an error. -/
namespace CollibraGovernance.Library

variable {ε α β σ : Type}

/-- A sequence succeeds exactly when its parts do. -/
theorem bind_eq_ok {x : Except ε α} {f : α → Except ε β} {b : β} :
    (x >>= f) = .ok b ↔ ∃ a, x = .ok a ∧ f a = .ok b := by
  cases x with
  | error e => exact ⟨fun h => (by cases h), fun ⟨_, h, _⟩ => (by cases h)⟩
  | ok a => exact ⟨fun h => ⟨a, rfl, h⟩, fun ⟨_, ha, h⟩ => (by cases ha; exact h)⟩

theorem ok_bind (a : α) (f : α → Except ε β) : (Except.ok a >>= f) = f a := rfl

theorem pure_eq_ok {a b : α} : (pure a : Except ε α) = .ok b ↔ a = b :=
  ⟨fun h => by cases h; rfl, fun h => by cases h; rfl⟩

/-- A computation whose success is decided has a result. -/
theorem exists_ok {x : Except ε α} (h : x.toOption.isSome = true) : ∃ a, x = .ok a := by
  cases x with
  | error e => cases h
  | ok a => exact ⟨a, rfl⟩

theorem mapError_eq_ok {ε' : Type} {f : ε → ε'} {x : Except ε α} {a : α} :
    x.mapError f = .ok a ↔ x = .ok a := by
  cases x with
  | error e => exact ⟨fun h => (by cases h), fun h => (by cases h)⟩
  | ok b => exact ⟨fun h => by cases h; rfl, fun h => by cases h; rfl⟩

theorem toOption_eq_some {x : Except ε α} {a : α} : x.toOption = some a ↔ x = .ok a := by
  cases x with
  | error e => exact ⟨fun h => (by cases h), fun h => (by cases h)⟩
  | ok b => exact ⟨fun h => by cases h; rfl, fun h => by cases h; rfl⟩

/-- A computation of whose result something is known has that result. -/
theorem toOption_map_eq_some {x : Except ε α} {f : α → β} {b : β} :
    x.toOption.map f = some b ↔ ∃ a, x = .ok a ∧ f a = b := by
  simp only [Option.map_eq_some_iff, toOption_eq_some]

theorem toOption_bind_eq_some {x : Except ε α} {f : α → Option β} {b : β} :
    x.toOption.bind f = some b ↔ ∃ a, x = .ok a ∧ f a = some b := by
  simp only [Option.bind_eq_some_iff, toOption_eq_some]

theorem toOption_bind {x : Except ε α} {f : α → Except ε β} :
    (x >>= f).toOption = x.toOption.bind (fun a => (f a).toOption) := by
  cases x <;> rfl

/-- A fold of fallible steps keeps whatever relation composes along its steps. -/
theorem foldlM_ok {step : σ → α → Except ε σ} {R : σ → List α → σ → Prop}
    (refl : ∀ s, R s [] s)
    (cons : ∀ (s : σ) (a : α) (s' : σ) (rest : List α) (s'' : σ),
      step s a = .ok s' → R s' rest s'' → R s (a :: rest) s'')
    {s s' : σ} {as : List α} (h : as.foldlM step s = .ok s') : R s as s' := by
  induction as generalizing s with
  | nil =>
    cases pure_eq_ok.mp h
    exact refl _
  | cons a as ih =>
    obtain ⟨t, ha, hrest⟩ := bind_eq_ok.mp h
    exact cons _ _ _ _ _ ha (ih hrest)

/-- A fold whose steps succeed and keep an invariant of what was read succeeds and keeps it. -/
theorem exists_foldlM_ok {step : σ → α → Except ε σ} {motive : List α → σ → Prop} {as : List α}
    {s : σ} (start : motive [] s)
    (next : ∀ done, ∀ a ∈ as, ∀ s, motive done s → ∃ s', step s a = .ok s' ∧ motive (done ++ [a]) s') :
    ∃ s', as.foldlM step s = .ok s' ∧ motive as s' := by
  have main : ∀ rest done s, (∀ a ∈ rest, a ∈ as) → motive done s →
      ∃ s', rest.foldlM step s = .ok s' ∧ motive (done ++ rest) s' := by
    intro rest
    induction rest with
    | nil =>
      intro done s _ h
      exact ⟨s, rfl, by rwa [List.append_nil]⟩
    | cons a rest ih =>
      intro done s hmem h
      obtain ⟨t, ht, hmotive⟩ := next done a (hmem a (List.mem_cons_self ..)) s h
      obtain ⟨s', hs', hend⟩ := ih (done ++ [a]) t
        (fun b hb => hmem b (List.mem_cons_of_mem _ hb)) hmotive
      refine ⟨s', bind_eq_ok.mpr ⟨t, ht, hs'⟩, ?_⟩
      rwa [List.append_assoc, List.singleton_append] at hend
  exact main as [] s (fun _ h => h) start

/-- A list of fallible computations succeeds with the list of their results. -/
theorem mapM_eq_ok {f : α → Except ε β} {xs : List α} {ys : List β} :
    xs.mapM f = .ok ys ↔ List.Forall₂ (fun x y => f x = .ok y) xs ys := by
  induction xs generalizing ys with
  | nil =>
    rw [List.mapM_nil, pure_eq_ok]
    constructor
    · rintro rfl
      exact .nil
    · intro h
      cases h
      rfl
  | cons x xs ih =>
    rw [List.mapM_cons, bind_eq_ok]
    constructor
    · rintro ⟨y, hy, h⟩
      obtain ⟨rest, hrest, h⟩ := bind_eq_ok.mp h
      cases pure_eq_ok.mp h
      exact .cons hy (ih.mp hrest)
    · intro h
      cases h with
      | cons hy hrest => exact ⟨_, hy, bind_eq_ok.mpr ⟨_, ih.mpr hrest, rfl⟩⟩

theorem exists_mapM_ok {f : α → Except ε β} {xs : List α} (h : ∀ x ∈ xs, ∃ y, f x = .ok y) :
    ∃ ys, xs.mapM f = .ok ys := by
  induction xs with
  | nil => exact ⟨[], rfl⟩
  | cons x xs ih =>
    obtain ⟨y, hy⟩ := h x (List.mem_cons_self ..)
    obtain ⟨ys, hys⟩ := ih (fun x hx => h x (List.mem_cons_of_mem _ hx))
    exact ⟨y :: ys, mapM_eq_ok.mpr (.cons hy (mapM_eq_ok.mp hys))⟩

/-- Steps that all succeed give the list of their results. -/
theorem mapM_eq_map {f : α → Except ε β} {g : α → β} {xs : List α} (h : ∀ x ∈ xs, f x = .ok (g x)) :
    xs.mapM f = .ok (xs.map g) := by
  rw [mapM_eq_ok, List.forall₂_map_right_iff, List.forall₂_same]
  exact h

/-- A list whose items are each read back as they were written is read back whole. -/
theorem mapM_map_eq_self {read : β → Except ε α} {write : α → β} {xs : List α}
    (h : ∀ x ∈ xs, read (write x) = .ok x) : (xs.map write).mapM read = .ok xs := by
  rw [mapM_eq_ok, List.forall₂_map_left_iff, List.forall₂_same]
  exact h

/-- Steps that all succeed, each told its place in the list as well. -/
theorem mapM_zipIdx_eq_map {f : α × Nat → Except ε β} {g : α → β} {xs : List α}
    (h : ∀ x ∈ xs, ∀ n, f (x, n) = .ok (g x)) : xs.zipIdx.mapM f = .ok (xs.map g) := by
  have hfirst := congrArg (List.map g) (List.zipIdx_map_fst 0 xs)
  rw [List.map_map] at hfirst
  rw [← hfirst]
  apply mapM_eq_map
  intro e he
  exact h e.1 (List.fst_mem_of_mem_zipIdx he) e.2

/-- The results of steps that are told their place stand at the places of their arguments. -/
theorem mapM_zipIdx_get {f : α × Nat → Except ε β} {xs : List α} {ys : List β}
    (h : xs.zipIdx.mapM f = .ok ys) : ys.length = xs.length ∧
      ∀ (n : Nat) (x : α) (y : β), xs[n]? = some x → ys[n]? = some y → f (x, n) = .ok y := by
  have hall := List.forall₂_iff_get.mp (mapM_eq_ok.mp h)
  refine ⟨by simpa using hall.1.symm, ?_⟩
  intro n x y hx hy
  obtain ⟨hxlt, rfl⟩ := List.getElem?_eq_some_iff.mp hx
  obtain ⟨hylt, rfl⟩ := List.getElem?_eq_some_iff.mp hy
  simpa using hall.2 n (by simpa using hxlt) hylt

/-- Steps taken in another order have the same results, in that order. -/
theorem mapM_perm {f : α → Except ε β} {xs ys : List α} {as : List β} (h : xs.Perm ys)
    (hxs : xs.mapM f = .ok as) : ∃ bs, ys.mapM f = .ok bs ∧ as.Perm bs := by
  obtain ⟨bs, hbs, hperm⟩ := List.perm_comp_forall₂ h.symm (mapM_eq_ok.mp hxs)
  exact ⟨bs, mapM_eq_ok.mpr hbs, hperm.symm⟩

/-- Lists whose steps agree place by place have the same outcome. -/
theorem mapM_congr_forall₂ {γ : Type} {f : α → Except ε β} {g : γ → Except ε β} {xs : List α} {ys : List γ}
    (h : List.Forall₂ (fun x y => f x = g y) xs ys) : xs.mapM f = ys.mapM g := by
  induction h with
  | nil => rfl
  | cons hxy _ ih => rw [List.mapM_cons, List.mapM_cons, hxy, ih]

/-- Steps that all pass, pass together. -/
theorem forM_eq_ok {f : α → Except ε Unit} {xs : List α} : xs.forM f = .ok () ↔ ∀ x ∈ xs, f x = .ok () := by
  induction xs with
  | nil => exact ⟨fun _ x hx => absurd hx List.not_mem_nil, fun _ => rfl⟩
  | cons x xs ih =>
    change (f x >>= fun _ => xs.forM f) = .ok ⟨⟩ ↔ _
    rw [bind_eq_ok, List.forall_mem_cons, ← ih]
    constructor
    · rintro ⟨⟨⟩, hx, hxs⟩
      exact ⟨hx, hxs⟩
    · rintro ⟨hx, hxs⟩
      exact ⟨⟨⟩, hx, hxs⟩

/-- Where each result shows a view of its argument, the results list the arguments' views. -/
theorem mapM_map_of_mem {γ : Type} {f : α → Except ε β} {p : β → γ} {q : α → γ} {xs : List α}
    {ys : List β} (hf : ∀ x ∈ xs, ∀ y, f x = .ok y → p y = q x) (h : xs.mapM f = .ok ys) :
    ys.map p = xs.map q := by
  have hall := mapM_eq_ok.mp h
  clear h
  induction hall with
  | nil => rfl
  | cons hxy _ ih =>
    rw [List.map_cons, List.map_cons, hf _ (List.mem_cons_self ..) _ hxy,
      ih (fun x hx => hf x (List.mem_cons_of_mem _ hx))]

theorem mapM_map {γ : Type} {f : α → Except ε β} {p : β → γ} {q : α → γ}
    (hf : ∀ x y, f x = .ok y → p y = q x) {xs : List α} {ys : List β}
    (h : xs.mapM f = .ok ys) : ys.map p = xs.map q := mapM_map_of_mem (fun x _ => hf x) h

/-- Every member of either list of a pairing has its partner in the other. -/
theorem forall₂_mem {R : α → β → Prop} {xs : List α} {ys : List β} (h : List.Forall₂ R xs ys) :
    (∀ y ∈ ys, ∃ x ∈ xs, R x y) ∧ ∀ x ∈ xs, ∃ y ∈ ys, R x y := by
  induction h with
  | nil => simp
  | cons hxy _ ih =>
    refine ⟨?_, ?_⟩
    · intro y hy
      rcases List.mem_cons.mp hy with rfl | hy
      · exact ⟨_, List.mem_cons_self .., hxy⟩
      · obtain ⟨x, hx, hf⟩ := ih.1 y hy
        exact ⟨x, List.mem_cons_of_mem _ hx, hf⟩
    · intro x hx
      rcases List.mem_cons.mp hx with rfl | hx
      · exact ⟨_, List.mem_cons_self .., hxy⟩
      · obtain ⟨y, hy, hf⟩ := ih.2 x hx
        exact ⟨y, List.mem_cons_of_mem _ hy, hf⟩

/-- Results come from listed arguments, and every argument has its result. -/
theorem mapM_mem {f : α → Except ε β} {xs : List α} {ys : List β} (h : xs.mapM f = .ok ys) :
    (∀ y ∈ ys, ∃ x ∈ xs, f x = .ok y) ∧ ∀ x ∈ xs, ∃ y ∈ ys, f x = .ok y :=
  forall₂_mem (mapM_eq_ok.mp h)

end CollibraGovernance.Library
