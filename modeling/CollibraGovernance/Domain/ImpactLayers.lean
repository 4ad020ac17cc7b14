import Mathlib.Data.List.Chain
import CollibraGovernance.Domain.ImpactOrder

/-! One round of the impact search finds the next layer with its least paths. -/
namespace CollibraGovernance.Domain
open Library Identity

/-- The effective hops of a graph as a directed multigraph. -/
def impactGraph (graph : GovernanceGraph) : StepGraph GraphNodeIdentity ImpactStep :=
  ⟨ImpactStep.fromNode, ImpactStep.toNode, effectiveHops graph⟩

lemma mem_adjacency {graph : GovernanceGraph} {node : GraphNodeIdentity} {hop : ImpactStep} :
    hop ∈ ((buildEffectiveAdjacency graph).get? node).getD [] ↔
      hop ∈ effectiveHops graph ∧ hop.fromNode = node := by
  have hmembers := members_groupBy ImpactStep.fromNode (effectiveHops graph) node
  have hfilter : hop ∈ (effectiveHops graph).filter (fun h => h.fromNode = node) ↔
      hop ∈ effectiveHops graph ∧ hop.fromNode = node := by
    rw [List.mem_filter, decide_eq_true_eq]
  rw [← hfilter, ← hmembers, buildEffectiveAdjacency, Dict.get?_mapValues]
  cases (groupBy ImpactStep.fromNode (effectiveHops graph)).get? node with
  | none => rfl
  | some g => simp

namespace SearchState

/-- Root and steps of the best path to a node; a root has no path yet. -/
def prefixOf (st : SearchState) (node : GraphNodeIdentity) : GraphNodeIdentity × List ImpactStep :=
  match st.bestPath.get? node with
  | none => (node, [])
  | some p => (p.root, p.steps)

/-- Key of the best path to the start of a hop, extended by the hop. -/
def extendedKey (st : SearchState) (hop : ImpactStep) : String :=
  pathSortKey (st.prefixOf hop.fromNode).1 ((st.prefixOf hop.fromNode).2 ++ [hop])

/-- The path is the best path to the start of the hop, extended by the hop. -/
structure Extends (st : SearchState) (hop : ImpactStep) (p : ImpactPath) : Prop where
  target : p.target = hop.toNode
  root : p.root = (st.prefixOf hop.fromNode).1
  steps : p.steps = (st.prefixOf hop.fromNode).2 ++ [hop]

lemma Extends.sortKey {st : SearchState} {hop : ImpactStep} {p : ImpactPath} (h : st.Extends hop p) :
    p.sortKey = st.extendedKey hop := by
  rw [ImpactPath.sortKey, h.root, h.steps, extendedKey]

lemma extendPath_ok {st : SearchState} {hop : ImpactStep}
    (h : ∀ p ∈ st.bestPath.get? hop.fromNode, p.target = hop.fromNode) :
    ∃ c, extendPath hop.fromNode (st.bestPath.get? hop.fromNode) hop = .ok c ∧ st.Extends hop c := by
  unfold extendPath
  cases hp : st.bestPath.get? hop.fromNode with
  | none =>
    refine ⟨⟨hop.fromNode, hop.toNode, [hop], rfl, rfl, List.isChain_singleton hop⟩, ?_, ?_⟩
    · simp [ImpactPath.create, Contiguous]
    · constructor <;> simp [prefixOf, hp]
  | some p =>
    have htarget : p.target = hop.fromNode := h p (by rw [hp]; rfl)
    have hne : p.steps ≠ [] := by
      intro hnil
      have := p.starts
      rw [hnil] at this
      cases this
    have hstarts : (p.steps ++ [hop]).head?.map ImpactStep.fromNode = some p.root := by
      rw [List.head?_append_of_ne_nil _ hne, p.starts]
    have hends : (p.steps ++ [hop]).getLast?.map ImpactStep.toNode = some hop.toNode := by simp
    have hcontiguous : Contiguous (p.steps ++ [hop]) := by
      rw [Contiguous, List.isChain_append]
      refine ⟨p.contiguous, List.isChain_singleton hop, ?_⟩
      intro a ha b hb
      have hlast := p.ends
      rw [show p.steps.getLast? = some a from ha, Option.map_some, Option.some_inj] at hlast
      cases hb
      rw [hlast, htarget]
    refine ⟨⟨p.root, hop.toNode, p.steps ++ [hop], hstarts, hends, hcontiguous⟩, ?_, ?_⟩
    · simp only [ImpactPath.create]
      rw [if_neg (by simp), dif_pos hstarts, dif_pos hends, dif_pos hcontiguous]
    · constructor <;> simp [prefixOf, hp]

section Layers
variable {graph : GovernanceGraph} {roots frontier : List GraphNodeIdentity} {d : Nat}
variable {st₀ st : SearchState}

/-- The state after `d` rounds: distances up to `d`, their least paths, and the frontier. -/
structure Layered (graph : GovernanceGraph) (roots : List GraphNodeIdentity) (d : Nat)
    (frontier : List GraphNodeIdentity) (st : SearchState) : Prop where
  distance : ∀ v n, st.distance.get? v = some n ↔ n ≤ d ∧ (impactGraph graph).Dist roots n v
  rootPath : ∀ v ∈ roots, st.bestPath.get? v = none
  best : ∀ v n, (impactGraph graph).Dist roots (n + 1) v → n + 1 ≤ d →
    ∃ p, st.bestPath.get? v = some p ∧ p.target = v ∧
      StepGraph.Least pathSortKey (impactGraph graph) roots (n + 1) v p.root p.steps
  frontier : ∀ v, v ∈ frontier ↔ (impactGraph graph).Dist roots d v

lemma Layered.prefix_least (h : Layered graph roots d frontier st) {v : GraphNodeIdentity}
    (hv : (impactGraph graph).Dist roots d v) :
    StepGraph.Least pathSortKey (impactGraph graph) roots d v (st.prefixOf v).1 (st.prefixOf v).2 := by
  unfold prefixOf
  cases d with
  | zero =>
    have hroot := StepGraph.dist_zero.mp hv
    rw [h.rootPath v hroot]
    exact StepGraph.least_zero hroot
  | succ n =>
    obtain ⟨p, hp, -, hleast⟩ := h.best v n hv (le_refl _)
    rw [hp]
    exact hleast

lemma Layered.path_target (h : Layered graph roots d frontier st) {v : GraphNodeIdentity}
    (hv : (impactGraph graph).Dist roots d v) : ∀ p ∈ st.bestPath.get? v, p.target = v := by
  intro p hp
  cases d with
  | zero =>
    rw [h.rootPath v (StepGraph.dist_zero.mp hv)] at hp
    cases hp
  | succ n =>
    obtain ⟨q, hq, htarget, -⟩ := h.best v n hv (le_refl _)
    rw [hq, Option.mem_some_iff] at hp
    rw [← hp, htarget]

/-- A node that was unknown before the scan and that one of the read hops leads to. -/
def Discovered (st₀ : SearchState) (done : List ImpactStep) (v : GraphNodeIdentity) : Prop :=
  st₀.distance.get? v = none ∧ ∃ e ∈ done, e.toNode = v

lemma discovered_snoc {done : List ImpactStep} {hop : ImpactStep} {v : GraphNodeIdentity} :
    Discovered st₀ (done ++ [hop]) v ↔
      Discovered st₀ done v ∨ (st₀.distance.get? v = none ∧ hop.toNode = v) := by
  simp only [Discovered, List.mem_append, List.mem_singleton, or_and_right, exists_or,
    exists_eq_left, and_or_left]

/-- The state in the middle of a discovery scan that has read the listed hops. -/
structure Scanned (st₀ : SearchState) (d : Nat) (done : List ImpactStep) (st : SearchState) :
    Prop where
  distance : ∀ v, Discovered st₀ done v → st.distance.get? v = some (d + 1)
  best : ∀ v, Discovered st₀ done v → ∃ e ∈ done, ∃ c, st.bestPath.get? v = some c ∧
    e.toNode = v ∧ st₀.Extends e c ∧ ∀ e' ∈ done, e'.toNode = v → c.sortKey ≤ st₀.extendedKey e'
  oldDistance : ∀ v, ¬ Discovered st₀ done v → st.distance.get? v = st₀.distance.get? v
  oldPath : ∀ v, ¬ Discovered st₀ done v → st.bestPath.get? v = st₀.bestPath.get? v
  next : ∀ v, v ∈ st.nextCandidates.keys ↔ Discovered st₀ done v

lemma not_discovered_nil (v : GraphNodeIdentity) : ¬ Discovered st₀ [] v := by
  rintro ⟨-, e, he, -⟩
  cases he

lemma scanned_start : Scanned st₀ d [] { st₀ with nextCandidates := .empty } where
  distance v h := absurd h (not_discovered_nil v)
  best v h := absurd h (not_discovered_nil v)
  oldDistance v _ := rfl
  oldPath v _ := rfl
  next v := ⟨fun h => (by simp at h), fun h => absurd h (not_discovered_nil v)⟩

/-- A hop to a node that was known before the scan changes nothing. -/
lemma Scanned.skip {done : List ImpactStep} {hop : ImpactStep} (h : Scanned st₀ d done st)
    (hknown : st₀.distance.get? hop.toNode ≠ none) : Scanned st₀ d (done ++ [hop]) st := by
  have hsame : ∀ v, Discovered st₀ (done ++ [hop]) v ↔ Discovered st₀ done v := by
    intro v
    rw [discovered_snoc]
    refine or_iff_left ?_
    rintro ⟨hv, rfl⟩
    exact hknown hv
  refine ⟨?_, ?_, ?_, ?_, ?_⟩
  · intro v hv
    exact h.distance v ((hsame v).mp hv)
  · intro v hv
    obtain ⟨e, he, c, hc, htarget, hext, hleast⟩ := h.best v ((hsame v).mp hv)
    refine ⟨e, List.mem_append_left _ he, c, hc, htarget, hext, ?_⟩
    intro e' he' htarget'
    rcases List.mem_append.mp he' with he' | he'
    · exact hleast e' he' htarget'
    · rw [List.mem_singleton.mp he'] at htarget'
      rw [htarget'] at hknown
      exact absurd hv.1 hknown
  · intro v hv
    exact h.oldDistance v (fun hd => hv ((hsame v).mpr hd))
  · intro v hv
    exact h.oldPath v (fun hd => hv ((hsame v).mpr hd))
  · intro v
    rw [h.next, hsame]

/-- A hop to a node that no earlier hop of the scan led to. -/
lemma Scanned.discover {done : List ImpactStep} {hop : ImpactStep} {c : ImpactPath}
    (h : Scanned st₀ d done st) (hnew : st₀.distance.get? hop.toNode = none)
    (hfresh : ¬ Discovered st₀ done hop.toNode) (hc : st₀.Extends hop c) :
    Scanned st₀ d (done ++ [hop]) (st.discover hop.toNode (d + 1) c) := by
  have hnone : ∀ e ∈ done, e.toNode ≠ hop.toNode := fun e he htarget => hfresh ⟨hnew, e, he, htarget⟩
  refine ⟨?_, ?_, ?_, ?_, ?_⟩
  · intro v hv
    by_cases heq : v = hop.toNode
    · rw [heq]
      exact Dict.get?_set_self ..
    · rw [SearchState.discover, Dict.get?_set_of_ne _ _ heq]
      refine h.distance v ((discovered_snoc.mp hv).resolve_right ?_)
      exact fun hr => heq hr.2.symm
  · intro v hv
    by_cases heq : v = hop.toNode
    · subst heq
      refine ⟨hop, by simp, c, Dict.get?_set_self .., rfl, hc, ?_⟩
      intro e' he' htarget'
      rcases List.mem_append.mp he' with he' | he'
      · exact absurd htarget' (hnone e' he')
      · rw [List.mem_singleton.mp he', hc.sortKey]
    · obtain ⟨e, he, c', hc', htarget, hext, hleast⟩ := h.best v
        ((discovered_snoc.mp hv).resolve_right (fun hr => heq hr.2.symm))
      refine ⟨e, List.mem_append_left _ he, c', ?_, htarget, hext, ?_⟩
      · rw [SearchState.discover, Dict.get?_set_of_ne _ _ heq, hc']
      · intro e' he' htarget'
        rcases List.mem_append.mp he' with he' | he'
        · exact hleast e' he' htarget'
        · rw [List.mem_singleton.mp he'] at htarget'
          exact absurd htarget'.symm heq
  · intro v hv
    rw [discovered_snoc, not_or] at hv
    have heq : v ≠ hop.toNode := by
      rintro rfl
      exact hv.2 ⟨hnew, rfl⟩
    rw [SearchState.discover, Dict.get?_set_of_ne _ _ heq, h.oldDistance v hv.1]
  · intro v hv
    rw [discovered_snoc, not_or] at hv
    have heq : v ≠ hop.toNode := by
      rintro rfl
      exact hv.2 ⟨hnew, rfl⟩
    rw [SearchState.discover, Dict.get?_set_of_ne _ _ heq, h.oldPath v hv.1]
  · intro v
    rw [SearchState.discover, Dict.mem_keys_set, h.next, discovered_snoc]
    constructor
    · rintro (rfl | hv)
      · exact .inr ⟨hnew, rfl⟩
      · exact .inl hv
    · rintro (hv | ⟨-, rfl⟩)
      · exact .inr hv
      · exact .inl rfl

/-- A further hop to a node of this scan; the smaller of the two paths is kept. -/
lemma Scanned.improve {done : List ImpactStep} {hop : ImpactStep} {c b : ImpactPath}
    (h : Scanned st₀ d done st) (hfound : Discovered st₀ done hop.toNode)
    (hb : st.bestPath.get? hop.toNode = some b) (hc : st₀.Extends hop c) :
    (b.sortKey ≤ c.sortKey → Scanned st₀ d (done ++ [hop]) st) ∧
      (c.sortKey < b.sortKey →
        Scanned st₀ d (done ++ [hop]) { st with bestPath := st.bestPath.set hop.toNode c }) := by
  have hsame : ∀ v, Discovered st₀ (done ++ [hop]) v ↔ Discovered st₀ done v := by
    intro v
    rw [discovered_snoc]
    refine or_iff_left_of_imp ?_
    rintro ⟨-, rfl⟩
    exact hfound
  obtain ⟨e, he, b', hb', htarget, hext, hleast⟩ := h.best _ hfound
  rw [hb, Option.some_inj] at hb'
  subst hb'
  constructor
  · intro hle
    refine ⟨fun v hv => h.distance v ((hsame v).mp hv), ?_,
      fun v hv => h.oldDistance v (fun hd => hv ((hsame v).mpr hd)),
      fun v hv => h.oldPath v (fun hd => hv ((hsame v).mpr hd)), fun v => by rw [h.next, hsame]⟩
    intro v hv
    obtain ⟨e, he, c', hc', htarget, hext, hleast⟩ := h.best v ((hsame v).mp hv)
    refine ⟨e, List.mem_append_left _ he, c', hc', htarget, hext, ?_⟩
    intro e' he' htarget'
    rcases List.mem_append.mp he' with he' | he'
    · exact hleast e' he' htarget'
    · rw [List.mem_singleton.mp he'] at htarget' ⊢
      rw [← htarget', hb, Option.some_inj] at hc'
      rw [← hc', ← hc.sortKey]
      exact hle
  · intro hlt
    refine ⟨fun v hv => h.distance v ((hsame v).mp hv), ?_,
      fun v hv => h.oldDistance v (fun hd => hv ((hsame v).mpr hd)), ?_,
      fun v => by rw [h.next, hsame]⟩
    · intro v hv
      by_cases heq : v = hop.toNode
      · subst heq
        refine ⟨hop, by simp, c, Dict.get?_set_self .., rfl, hc, ?_⟩
        intro e' he' htarget'
        rcases List.mem_append.mp he' with he' | he'
        · exact le_trans (le_of_lt hlt) (hleast e' he' htarget')
        · rw [List.mem_singleton.mp he', hc.sortKey]
      · obtain ⟨e, he, c', hc', htarget, hext, hleast⟩ := h.best v ((hsame v).mp hv)
        refine ⟨e, List.mem_append_left _ he, c', ?_, htarget, hext, ?_⟩
        · rw [Dict.get?_set_of_ne _ _ heq, hc']
        · intro e' he' htarget'
          rcases List.mem_append.mp he' with he' | he'
          · exact hleast e' he' htarget'
          · rw [List.mem_singleton.mp he'] at htarget'
            exact absurd htarget'.symm heq
    · intro v hv
      have heq : v ≠ hop.toNode := by
        rintro rfl
        exact hv ((hsame _).mpr hfound)
      rw [Dict.get?_set_of_ne _ _ heq, h.oldPath v (fun hd => hv ((hsame v).mpr hd))]

end Layers
end SearchState
end CollibraGovernance.Domain
