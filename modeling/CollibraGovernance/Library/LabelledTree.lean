import Mathlib.Data.List.Nodup
import Mathlib.Data.List.Perm.Basic

/-! Finite trees with labelled nodes, and the paths that lead to their nodes. -/
namespace CollibraGovernance.Library

inductive LabelledTree (α : Type*) where
  | node (label : α) (children : List (LabelledTree α))

namespace LabelledTree
variable {α : Type*}

def label : LabelledTree α → α
  | node a _ => a

mutual
/-- Induction over a tree and the forest of its children. -/
theorem induct {P : LabelledTree α → Prop}
    (node : ∀ a cs, (∀ t ∈ cs, P t) → P (.node a cs)) : ∀ t, P t
  | .node a cs => node a cs (inductForest node cs)

theorem inductForest {P : LabelledTree α → Prop}
    (node : ∀ a cs, (∀ t ∈ cs, P t) → P (.node a cs)) : ∀ (ts : List (LabelledTree α)), ∀ t ∈ ts, P t
  | [] => fun _ h => absurd h List.not_mem_nil
  | t :: ts => fun s hs => by
    rcases List.mem_cons.mp hs with h | h
    · exact h ▸ induct node t
    · exact inductForest node ts s h
end

mutual
/-- The number of nodes. -/
def size : LabelledTree α → Nat
  | node _ cs => forestSize cs + 1

def forestSize : List (LabelledTree α) → Nat
  | [] => 0
  | t :: ts => size t + forestSize ts
end

mutual
/-- The labels from the root down to each node. -/
def paths : LabelledTree α → List (List α)
  | node a cs => [a] :: (forestPaths cs).map (a :: ·)

def forestPaths : List (LabelledTree α) → List (List α)
  | [] => []
  | t :: ts => paths t ++ forestPaths ts
end

@[simp] theorem forestPaths_nil : forestPaths ([] : List (LabelledTree α)) = [] := rfl

@[simp] theorem forestPaths_append (ts us : List (LabelledTree α)) :
    forestPaths (ts ++ us) = forestPaths ts ++ forestPaths us := by
  induction ts with
  | nil => rfl
  | cons t ts ih => simp only [List.cons_append, forestPaths, ih, List.append_assoc]

lemma forestPaths_singleton (t : LabelledTree α) : forestPaths [t] = paths t := by
  simp only [forestPaths, List.append_nil]

/-- Each node has its path. -/
theorem length_paths (t : LabelledTree α) : (paths t).length = size t := by
  induction t using induct with
  | node a cs ih =>
    have hforest : ∀ ts : List (LabelledTree α), (∀ t ∈ ts, (paths t).length = size t) →
        (forestPaths ts).length = forestSize ts := by
      intro ts
      induction ts with
      | nil => intro _; rfl
      | cons t ts iht =>
        intro h
        rw [forestPaths, forestSize, List.length_append, h t (List.mem_cons_self ..),
          iht fun s hs => h s (List.mem_cons_of_mem _ hs)]
    rw [paths, size, List.length_cons, List.length_map, hforest cs ih]

theorem length_forestPaths (ts : List (LabelledTree α)) : (forestPaths ts).length = forestSize ts := by
  induction ts with
  | nil => rfl
  | cons t ts ih => rw [forestPaths, forestSize, List.length_append, length_paths, ih]

lemma exists_of_mem_paths {t : LabelledTree α} {p : List α} (h : p ∈ paths t) : ∃ q, p = t.label :: q := by
  cases t with
  | node a cs =>
    rcases List.mem_cons.mp h with rfl | h
    · exact ⟨[], rfl⟩
    · obtain ⟨q, _, rfl⟩ := List.mem_map.mp h
      exact ⟨q, rfl⟩

lemma singleton_mem_paths (t : LabelledTree α) : [t.label] ∈ paths t := by
  cases t
  exact List.mem_cons_self ..

lemma exists_of_mem_forestPaths {ts : List (LabelledTree α)} {p : List α} (h : p ∈ forestPaths ts) :
    ∃ t ∈ ts, p ∈ paths t := by
  induction ts with
  | nil => cases h
  | cons t ts ih =>
    rcases List.mem_append.mp h with h | h
    · exact ⟨t, List.mem_cons_self .., h⟩
    · obtain ⟨s, hs, hp⟩ := ih h
      exact ⟨s, List.mem_cons_of_mem _ hs, hp⟩

lemma mem_forestPaths_of_mem {ts : List (LabelledTree α)} {t : LabelledTree α} (ht : t ∈ ts)
    {p : List α} (hp : p ∈ paths t) : p ∈ forestPaths ts := by
  induction ts with
  | nil => cases ht
  | cons s ts ih =>
    rcases List.mem_cons.mp ht with rfl | ht
    · exact List.mem_append_left _ hp
    · exact List.mem_append_right _ (ih ht)

section Apart
variable [DecidableEq α]

mutual
/-- No node has two children of one label, at any depth. -/
def apart : LabelledTree α → Bool
  | node _ cs => forestApart cs

/-- The trees bear distinct labels, and so do the children of each of their nodes. -/
def forestApart : List (LabelledTree α) → Bool
  | [] => true
  | t :: ts => decide (t.label ∉ ts.map label) && (apart t && forestApart ts)
end

/-- Paths are distinct exactly where siblings have distinct labels. -/
theorem forestPaths_nodup_of (ts : List (LabelledTree α))
    (ih : ∀ t ∈ ts, ((paths t).Nodup ↔ apart t = true)) :
    (forestPaths ts).Nodup ↔ forestApart ts = true := by
  induction ts with
  | nil => simp [forestApart]
  | cons t ts iht =>
    have htail := iht fun s hs => ih s (List.mem_cons_of_mem _ hs)
    have hdisjoint : (∀ p ∈ paths t, ∀ q ∈ forestPaths ts, p ≠ q) ↔ t.label ∉ ts.map label := by
      constructor
      · intro h hmem
        obtain ⟨s, hs, hlabel⟩ := List.mem_map.mp hmem
        exact h [t.label] (singleton_mem_paths t) [s.label]
          (mem_forestPaths_of_mem hs (singleton_mem_paths s)) (by rw [hlabel])
      · rintro h p hp q hq rfl
        obtain ⟨s, hs, hq⟩ := exists_of_mem_forestPaths hq
        obtain ⟨p', rfl⟩ := exists_of_mem_paths hp
        obtain ⟨q', heq⟩ := exists_of_mem_paths hq
        rw [(List.cons.inj heq).1] at h
        exact h (List.mem_map_of_mem hs)
    rw [forestPaths, forestApart, List.nodup_append, ih t (List.mem_cons_self ..), htail, hdisjoint,
      Bool.and_eq_true, Bool.and_eq_true, decide_eq_true_eq]
    tauto

theorem paths_nodup_iff (t : LabelledTree α) : (paths t).Nodup ↔ apart t = true := by
  induction t using induct with
  | node a cs ih =>
    rw [paths, List.nodup_cons, apart, ← forestPaths_nodup_of cs ih,
      List.nodup_map_iff (List.cons_injective)]
    constructor
    · exact And.right
    · intro h
      refine ⟨fun hmem => ?_, h⟩
      obtain ⟨p, hp, heq⟩ := List.mem_map.mp hmem
      obtain ⟨s, _, hp⟩ := exists_of_mem_forestPaths hp
      obtain ⟨q, rfl⟩ := exists_of_mem_paths hp
      cases heq

theorem forestPaths_nodup_iff (ts : List (LabelledTree α)) :
    (forestPaths ts).Nodup ↔ forestApart ts = true :=
  forestPaths_nodup_of ts fun t _ => paths_nodup_iff t

example : forestApart [node 1 [node 2 [], node 3 []], node 2 [node 2 []]] = true := by decide

end Apart
end LabelledTree
end CollibraGovernance.Library
