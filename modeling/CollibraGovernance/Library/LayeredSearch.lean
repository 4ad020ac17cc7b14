import Mathlib.Data.List.Nodup
import Mathlib.Data.List.Perm.Subperm
import Mathlib.Data.Nat.Find
import Mathlib.Order.Lattice

/-! Distances from a family of roots in a directed multigraph, and least shortest walks. -/
namespace CollibraGovernance.Library

variable {V E K : Type}

/-- A directed multigraph given by its steps. -/
structure StepGraph (V E : Type) where
  src : E → V
  dst : E → V
  steps : List E

namespace StepGraph
variable (S : StepGraph V E) (roots : List V)

/-- Contiguous steps from one vertex to another. -/
inductive Walk : V → List E → V → Prop
  | nil (v : V) : Walk v [] v
  | snoc {r : V} {ss : List E} {e : E} : Walk r ss (S.src e) → e ∈ S.steps → Walk r (ss ++ [e]) (S.dst e)

/-- Some root has a walk of `n` steps to the vertex. -/
def Reach (n : Nat) (v : V) : Prop := ∃ r ∈ roots, ∃ ss, ss.length = n ∧ S.Walk r ss v

/-- The shortest walk from a root to the vertex has `n` steps. -/
def Dist (n : Nat) (v : V) : Prop := S.Reach roots n v ∧ ∀ m, m < n → ¬ S.Reach roots m v

variable {S} {roots} {n m : Nat} {u v : V}

lemma walk_nil_iff {r : V} : S.Walk r [] v ↔ r = v := by
  constructor
  · intro h
    generalize hss : ([] : List E) = ss at h
    cases h with
    | nil => rfl
    | snoc _ _ => simp at hss
  · rintro rfl
    exact .nil r

lemma walk_snoc_iff {r : V} {ss : List E} {e : E} :
    S.Walk r (ss ++ [e]) v ↔ S.Walk r ss (S.src e) ∧ e ∈ S.steps ∧ S.dst e = v := by
  constructor
  · intro h
    generalize hss : ss ++ [e] = ts at h
    cases h with
    | nil => simp at hss
    | snoc hw he =>
      obtain ⟨rfl, hlast⟩ := List.append_inj' hss rfl
      cases hlast
      exact ⟨hw, he, rfl⟩
  · rintro ⟨hw, he, rfl⟩
    exact .snoc hw he

theorem reach_zero : S.Reach roots 0 v ↔ v ∈ roots := by
  constructor
  · rintro ⟨r, hr, ss, hlength, hw⟩
    rw [List.length_eq_zero_iff] at hlength
    subst hlength
    rwa [← walk_nil_iff.mp hw]
  · intro hv
    exact ⟨v, hv, [], rfl, .nil v⟩

theorem reach_succ : S.Reach roots (n + 1) v ↔
    ∃ e ∈ S.steps, S.dst e = v ∧ S.Reach roots n (S.src e) := by
  constructor
  · rintro ⟨r, hr, ss, hlength, hw⟩
    obtain ⟨init, e, rfl⟩ := List.eq_nil_or_concat' ss |>.resolve_left
      (List.ne_nil_of_length_eq_add_one hlength)
    obtain ⟨hw, he, hd⟩ := walk_snoc_iff.mp hw
    refine ⟨e, he, hd, r, hr, init, ?_, hw⟩
    rw [List.length_append] at hlength
    exact Nat.succ_injective hlength
  · rintro ⟨e, he, rfl, r, hr, ss, rfl, hw⟩
    exact ⟨r, hr, ss ++ [e], by simp, .snoc hw he⟩

theorem dist_zero : S.Dist roots 0 v ↔ v ∈ roots := by
  rw [Dist, reach_zero]
  exact and_iff_left (fun m hm => absurd hm (Nat.not_lt_zero m))

theorem Dist.unique (h : S.Dist roots n v) (h' : S.Dist roots m v) : n = m := by
  rcases Nat.lt_trichotomy n m with hlt | heq | hlt
  · exact absurd h.1 (h'.2 n hlt)
  · exact heq
  · exact absurd h'.1 (h.2 m hlt)

/-- Whatever is reached has a distance. -/
theorem Reach.exists_dist (h : S.Reach roots n v) : ∃ m ≤ n, S.Dist roots m v := by
  classical
  have hex : ∃ k, S.Reach roots k v := ⟨n, h⟩
  exact ⟨Nat.find hex, Nat.find_le h, Nat.find_spec hex, fun m hm => Nat.find_min hex hm⟩

/-- A step that ends a shortest walk starts one layer earlier. -/
theorem Dist.prev (h : S.Dist roots (n + 1) v) {e : E} (he : e ∈ S.steps) (hd : S.dst e = v)
    (hr : S.Reach roots n (S.src e)) : S.Dist roots n (S.src e) := by
  refine ⟨hr, ?_⟩
  intro m hm hreach
  exact h.2 (m + 1) (by omega) (reach_succ.mpr ⟨e, he, hd, hreach⟩)

/-- The next layer: ends of steps out of this one that no earlier layer holds. -/
theorem dist_succ_iff : S.Dist roots (n + 1) v ↔
    (∃ e ∈ S.steps, S.dst e = v ∧ S.Dist roots n (S.src e)) ∧ ∀ m ≤ n, ¬ S.Dist roots m v := by
  constructor
  · intro h
    obtain ⟨e, he, hd, hr⟩ := reach_succ.mp h.1
    refine ⟨⟨e, he, hd, h.prev he hd hr⟩, ?_⟩
    intro m hm hdist
    exact h.2 m (by omega) hdist.1
  · rintro ⟨⟨e, he, hd, hdist⟩, hnone⟩
    refine ⟨reach_succ.mpr ⟨e, he, hd, hdist.1⟩, ?_⟩
    intro m hm hreach
    obtain ⟨k, hk, hkdist⟩ := hreach.exists_dist
    exact hnone k (by omega) hkdist

/-- Every layer up to a reached one is inhabited. -/
theorem Dist.exists_earlier (h : S.Dist roots n v) (hm : m ≤ n) : ∃ u, S.Dist roots m u := by
  induction n generalizing v with
  | zero =>
    obtain rfl : m = 0 := by omega
    exact ⟨v, h⟩
  | succ n ih =>
    by_cases heq : m = n + 1
    · exact ⟨v, heq ▸ h⟩
    · obtain ⟨⟨e, -, -, hdist⟩, -⟩ := dist_succ_iff.mp h
      exact ih hdist (by omega)

/-- Distances stay below the number of vertices. -/
theorem Dist.lt_length {vs : List V} (hvs : ∀ k u, S.Dist roots k u → u ∈ vs)
    (h : S.Dist roots n v) : n < vs.length := by
  have hlayers : ∀ k, k ≤ n → ∃ u, S.Dist roots k u := fun k hk => h.exists_earlier hk
  have : Nonempty V := ⟨v⟩
  choose! pick hpick using hlayers
  have hnodup : ((List.range (n + 1)).map pick).Nodup := by
    apply List.Nodup.map_on _ List.nodup_range
    intro i hi j hj hij
    have hi := hpick i (Nat.lt_succ_iff.mp (List.mem_range.mp hi))
    have hj := hpick j (Nat.lt_succ_iff.mp (List.mem_range.mp hj))
    rw [hij] at hi
    exact hi.unique hj
  have hsub : (List.range (n + 1)).map pick ⊆ vs := by
    intro u hu
    obtain ⟨k, hk, rfl⟩ := List.mem_map.mp hu
    exact hvs k _ (hpick k (Nat.lt_succ_iff.mp (List.mem_range.mp hk)))
  have hle := (List.subperm_of_subset hnodup hsub).length_le
  rw [List.length_map, List.length_range] at hle
  omega

theorem dist_congr {roots' : List V} (h : ∀ v, v ∈ roots ↔ v ∈ roots') :
    S.Dist roots n v ↔ S.Dist roots' n v := by
  simp only [Dist, Reach, h]

section Least
variable [LinearOrder K] (key : V → List E → K)

/-- A shortest walk from a root whose key no other shortest walk to the vertex undercuts. -/
structure Least (S : StepGraph V E) (roots : List V) (n : Nat) (v r : V) (ss : List E) : Prop where
  root : r ∈ roots
  walk : S.Walk r ss v
  length : ss.length = n
  least : ∀ r' ∈ roots, ∀ ss', S.Walk r' ss' v → ss'.length = n → key r ss ≤ key r' ss'

variable {key}

theorem Least.congr {roots' : List V} (h : ∀ v, v ∈ roots ↔ v ∈ roots') {r : V} {ss : List E}
    (hleast : Least key S roots n v r ss) : Least key S roots' n v r ss where
  root := (h r).mp hleast.root
  walk := hleast.walk
  length := hleast.length
  least r' hr' := hleast.least r' ((h r').mpr hr')

theorem least_zero (hv : v ∈ roots) : Least key S roots 0 v v [] where
  root := hv
  walk := .nil v
  length := rfl
  least r' _ ss' hw hlength := by
    rw [List.length_eq_zero_iff] at hlength
    subst hlength
    rw [walk_nil_iff.mp hw]

/-- If a common last step keeps the order of keys, a least walk to the next layer is found among the
least walks to this one, extended by one step. -/
theorem Least.snoc
    (hkey : ∀ r ss r' ss' e, ss.length = ss'.length → key r ss ≤ key r' ss' →
      key r (ss ++ [e]) ≤ key r' (ss' ++ [e]))
    (hv : S.Dist roots (n + 1) v) {r : V} {ss : List E} {e : E} (he : e ∈ S.steps)
    (hd : S.dst e = v) (h : Least key S roots n (S.src e) r ss)
    (hleast : ∀ e' ∈ S.steps, S.dst e' = v → S.Dist roots n (S.src e') → ∃ r' ss',
      Least key S roots n (S.src e') r' ss' ∧ key r (ss ++ [e]) ≤ key r' (ss' ++ [e'])) :
    Least key S roots (n + 1) v r (ss ++ [e]) where
  root := h.root
  walk := by
    rw [← hd]
    exact .snoc h.walk he
  length := by rw [List.length_append, h.length, List.length_singleton]
  least r'' hr'' ws hw hlength := by
    obtain ⟨ss'', e', rfl⟩ := List.eq_nil_or_concat' ws |>.resolve_left
      (List.ne_nil_of_length_eq_add_one hlength)
    obtain ⟨hw, he', hd'⟩ := walk_snoc_iff.mp hw
    have hlength : ss''.length = n := by
      rw [List.length_append, List.length_singleton] at hlength
      omega
    have hdist : S.Dist roots n (S.src e') := hv.prev he' hd' ⟨r'', hr'', ss'', hlength, hw⟩
    obtain ⟨r', ss', hbest, hle⟩ := hleast e' he' hd' hdist
    calc key r (ss ++ [e]) ≤ key r' (ss' ++ [e']) := hle
      _ ≤ key r'' (ss'' ++ [e']) :=
        hkey r' ss' r'' ss'' e' (by rw [hbest.length, hlength])
          (hbest.least r'' hr'' ss'' hw hlength)

end Least
end StepGraph
end CollibraGovernance.Library
