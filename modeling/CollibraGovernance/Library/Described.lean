import CollibraGovernance.Library.Dict
import CollibraGovernance.Library.Outcome
import CollibraGovernance.Library.StableSort
import Mathlib.Data.Option.Basic
import Mathlib.Data.Set.Insert

/-! Steps that gather facts, runs of such steps, and dictionaries that are known by the facts their values sum up. -/
namespace CollibraGovernance.Library

section Sets
variable {φ : Type*} {F : Set φ} {a : φ} {xs ys : List φ}

lemma union_nil : F ∪ {x | x ∈ ([] : List φ)} = F := by
  ext x
  simp

lemma union_singleton : F ∪ {x | x ∈ [a]} = insert a F := by
  ext x
  simp [or_comm]

lemma union_cons : insert a F ∪ {x | x ∈ xs} = F ∪ {x | x ∈ a :: xs} := by
  ext x
  simp only [Set.mem_union, Set.mem_insert_iff, Set.mem_ofPred_eq, List.mem_cons]
  tauto

lemma union_append : F ∪ {x | x ∈ xs} ∪ {x | x ∈ ys} = F ∪ {x | x ∈ xs ++ ys} := by
  ext x
  simp only [Set.mem_union, Set.mem_ofPred_eq, List.mem_append, or_assoc]

end Sets

variable {ε σ α φ : Type} {step : σ → α → Except ε σ} {facts : α → List φ} {sums : Set φ → σ → Prop}
  {coherent : Set φ → Prop}

/-- A step adds the facts of what it reads to those that the state sums up, and it succeeds while the facts
are coherent. -/
structure Gathers (step : σ → α → Except ε σ) (facts : α → List φ) (sums : Set φ → σ → Prop)
    (coherent : Set φ → Prop) : Prop where
  keeps : ∀ {F : Set φ} {s s' : σ} {a : α}, sums F s → step s a = .ok s' → sums (F ∪ {f | f ∈ facts a}) s'
  succeeds : ∀ {F : Set φ} {s : σ} {a : α}, sums F s → coherent (F ∪ {f | f ∈ facts a}) → ∃ s', step s a = .ok s'

namespace Gathers

/-- A run of steps gathers the facts of all that it reads. -/
theorem foldlM (h : Gathers step facts sums coherent)
    (hmono : ∀ {F G : Set φ}, F ⊆ G → coherent G → coherent F) :
    Gathers (fun s (as : List α) => as.foldlM step s) (fun as => as.flatMap facts) sums coherent := by
  constructor
  · intro F s s' as hs hrun
    induction as generalizing F s with
    | nil =>
      obtain rfl := pure_eq_ok.mp hrun
      rw [List.flatMap_nil, union_nil]
      exact hs
    | cons a as ih =>
      obtain ⟨next, hstep, hrest⟩ := bind_eq_ok.mp hrun
      rw [List.flatMap_cons, ← union_append]
      exact ih (h.keeps hs hstep) hrest
  · intro F s as hs hcoherent
    induction as generalizing F s with
    | nil => exact ⟨s, rfl⟩
    | cons a as ih =>
      rw [List.flatMap_cons, ← union_append] at hcoherent
      obtain ⟨next, hstep⟩ := h.succeeds hs (hmono Set.subset_union_left hcoherent)
      obtain ⟨s', hrest⟩ := ih (h.keeps hs hstep) hcoherent
      exact ⟨s', bind_eq_ok.mpr ⟨next, hstep, hrest⟩⟩

/-- The same of steps that are told their place. -/
theorem foldlM_zipIdx {step : σ → α × Nat → Except ε σ} (h : Gathers step (fun e => facts e.1) sums coherent)
    (hmono : ∀ {F G : Set φ}, F ⊆ G → coherent G → coherent F) :
    Gathers (fun s (as : List α) => as.zipIdx.foldlM step s) (fun as => as.flatMap facts) sums coherent := by
  have hfacts : ∀ as : List α, as.zipIdx.flatMap (fun e => facts e.1) = as.flatMap facts := by
    intro as
    conv_rhs => rw [← List.zipIdx_map_fst 0 as, List.flatMap_map]
  constructor
  · intro F s s' as hs hrun
    have hkept := (h.foldlM hmono).keeps hs hrun
    rwa [hfacts] at hkept
  · intro F s as hs hcoherent
    rw [← hfacts] at hcoherent
    exact (h.foldlM hmono).succeeds hs hcoherent

end Gathers

/-- Lists of one projection are related where their members of one projection are. -/
theorem forall₂_of_map_eq {α β γ : Type*} {f : α → γ} {g : β → γ} {R : α → β → Prop} {xs : List α} {ys : List β}
    (h : xs.map f = ys.map g) (hR : ∀ x ∈ xs, ∀ y ∈ ys, f x = g y → R x y) : List.Forall₂ R xs ys := by
  induction xs generalizing ys with
  | nil =>
    cases ys with
    | nil => exact .nil
    | cons y ys => cases h
  | cons x xs ih =>
    cases ys with
    | nil => cases h
    | cons y ys =>
      obtain ⟨hhead, htail⟩ := List.cons.inj h
      refine .cons (hR x (List.mem_cons_self ..) y (List.mem_cons_self ..) hhead) (ih htail ?_)
      exact fun x hx y hy => hR x (List.mem_cons_of_mem _ hx) y (List.mem_cons_of_mem _ hy)

namespace Dict

variable {κ ν ρ : Type*} [DecidableEq κ] {d d' : Dict κ ν} {facts facts' : κ → Set ρ} {sums : Set ρ → ν → Prop}

/-- Each value sums up the facts about its key, and a key without a value has no facts. -/
def Described (d : Dict κ ν) (facts : κ → Set ρ) (sums : Set ρ → ν → Prop) : Prop :=
  ∀ k, (∀ v, d.get? k = some v → sums (facts k) v) ∧ (d.get? k = none → facts k = ∅)

theorem described_empty : (empty : Dict κ ν).Described (fun _ => (∅ : Set ρ)) sums := by
  intro k
  refine ⟨fun v h => ?_, fun _ => rfl⟩
  rw [get?_empty] at h
  cases h

namespace Described

theorem sums_of_get? (h : d.Described facts sums) {k : κ} {v : ν} (hv : d.get? k = some v) : sums (facts k) v :=
  (h k).1 v hv

theorem eq_empty (h : d.Described facts sums) {k : κ} (hk : d.get? k = none) : facts k = ∅ := (h k).2 hk

/-- A key with a fact has a value. -/
theorem exists_get? (h : d.Described facts sums) {k : κ} {x : ρ} (hx : x ∈ facts k) : ∃ v, d.get? k = some v := by
  cases hget : d.get? k with
  | some v => exact ⟨v, rfl⟩
  | none =>
    rw [h.eq_empty hget] at hx
    exact hx.elim

/-- A value is set that sums up what is known now about its key. -/
theorem set (h : d.Described facts sums) {k : κ} {v : ν} (hk : sums (facts' k) v)
    (hrest : ∀ k' ≠ k, facts' k' = facts k') : (d.set k v).Described facts' sums := by
  intro k'
  by_cases hk' : k' = k
  · subst hk'
    rw [get?_set_self]
    refine ⟨fun v' hv' => ?_, fun hnone => by cases hnone⟩
    obtain rfl := Option.some.inj hv'
    exact hk
  · rw [get?_set_of_ne d v hk', hrest k' hk']
    exact h k'

/-- Values that sum up the same facts are alike. -/
theorem rel (h : d.Described facts sums) (h' : d'.Described facts sums) {alike : ν → ν → Prop}
    (hempty : ∀ v, ¬ sums ∅ v) (halike : ∀ X v v', sums X v → sums X v' → alike v v') (k : κ) :
    Option.Rel alike (d.get? k) (d'.get? k) := by
  cases hget : d.get? k with
  | none =>
    cases hget' : d'.get? k with
    | none => exact .none
    | some v' => exact absurd (h.eq_empty hget ▸ h'.sums_of_get? hget') (hempty v')
  | some v =>
    cases hget' : d'.get? k with
    | none => exact absurd (h'.eq_empty hget' ▸ h.sums_of_get? hget) (hempty v)
    | some v' => exact .some (halike (facts k) v v' (h.sums_of_get? hget) (h'.sums_of_get? hget'))

end Described

theorem mem_values {v : ν} : v ∈ d.values ↔ ∃ k, d.get? k = some v := by
  simp only [values, List.mem_map, get?_eq_some, Prod.exists, exists_eq_right]

section Sorted
variable {τ : Type} [LinearOrder τ]

/-- Dictionaries with alike values have them under the same keys. -/
theorem keys_iff_of_rel {alike : ν → ν → Prop} (h : ∀ k, Option.Rel alike (d.get? k) (d'.get? k)) (k : κ) :
    k ∈ d.keys ↔ k ∈ d'.keys := by
  rw [mem_keys_iff, mem_keys_iff]
  have hk := h k
  constructor
  · rintro ⟨v, hv⟩
    rw [hv] at hk
    cases hget : d'.get? k with
    | none => rw [hget] at hk; cases hk
    | some v' => exact ⟨v', rfl⟩
  · rintro ⟨v, hv⟩
    rw [hv] at hk
    cases hget : d.get? k with
    | none => rw [hget] at hk; cases hk
    | some v' => exact ⟨v', rfl⟩

/-- Sorted by key, dictionaries with alike values have alike entries. -/
theorem sortBy_entries_of_rel {alike : ν → ν → Prop} {rank : κ → τ} (hrank : Function.Injective rank)
    (h : ∀ k, Option.Rel alike (d.get? k) (d'.get? k)) :
    List.Forall₂ (fun e e' => e.1 = e'.1 ∧ alike e.2 e'.2) (sortBy (fun e : κ × ν => rank e.1) d.entries)
      (sortBy (fun e : κ × ν => rank e.1) d'.entries) := by
  have hkeys : (sortBy (fun e : κ × ν => rank e.1) d.entries).map Prod.fst =
      (sortBy (fun e : κ × ν => rank e.1) d'.entries).map Prod.fst := by
    rw [map_sortBy Prod.fst _ rank fun _ => rfl, map_sortBy Prod.fst _ rank fun _ => rfl]
    refine sortBy_congr_perm ((List.perm_ext_iff_of_nodup d.nodup d'.nodup).mpr (keys_iff_of_rel h)) ?_
    exact fun a _ b _ hab => hrank hab
  refine forall₂_of_map_eq hkeys fun e he e' he' hk => ⟨hk, ?_⟩
  have hrel := h e.1
  rw [get?_eq_some.mpr (mem_sortBy.mp he), hk, get?_eq_some.mpr (mem_sortBy.mp he')] at hrel
  cases hrel with
  | some halike => exact halike

end Sorted
end Dict
end CollibraGovernance.Library
