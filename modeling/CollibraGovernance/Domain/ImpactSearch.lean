import CollibraGovernance.Domain.ImpactLayers

/-! The impact search visits the layers in order and ends with every reachable node. -/
namespace CollibraGovernance.Domain
open Library Identity

namespace SearchState
variable {graph : GovernanceGraph} {roots frontier : List GraphNodeIdentity} {d : Nat}
variable {st₀ st : SearchState} {done : List ImpactStep} {hop : ImpactStep}

lemma item_eq_ok {ν : Type} {dict : Dict GraphNodeIdentity ν} {node : GraphNodeIdentity} {v : ν} :
    item dict node = .ok v ↔ dict.get? node = some v := by
  unfold item
  cases dict.get? node <;> simp

/-- Distance of a node of the frontier in the middle of a scan. -/
lemma Scanned.frontier_distance (h₀ : Layered graph roots d frontier st₀)
    (h : Scanned st₀ d done st) {v : GraphNodeIdentity} (hv : (impactGraph graph).Dist roots d v) :
    st.distance.get? v = some d ∧ st.bestPath.get? v = st₀.bestPath.get? v := by
  have hknown : st₀.distance.get? v = some d := (h₀.distance v d).mpr ⟨le_refl d, hv⟩
  have hold : ¬ Discovered st₀ done v := by
    rintro ⟨hnone, -⟩
    rw [hknown] at hnone
    cases hnone
  exact ⟨by rw [h.oldDistance v hold, hknown], h.oldPath v hold⟩

lemma visitHop_scanned (h₀ : Layered graph roots d frontier st₀) (h : Scanned st₀ d done st)
    (hd : (impactGraph graph).Dist roots d hop.fromNode) :
    ∃ st', visitHop roots hop.fromNode (st₀.bestPath.get? hop.fromNode) st hop = .ok st' ∧
      Scanned st₀ d (done ++ [hop]) st' := by
  unfold visitHop
  by_cases hroot : hop.toNode ∈ roots
  · have hknown : st₀.distance.get? hop.toNode = some 0 :=
      (h₀.distance _ 0).mpr ⟨Nat.zero_le d, StepGraph.dist_zero.mpr hroot⟩
    rw [if_pos hroot]
    exact ⟨st, rfl, h.skip (by rw [hknown]; simp)⟩
  · rw [if_neg hroot]
    obtain ⟨c, hcall, hext⟩ := extendPath_ok (h₀.path_target hd)
    have hnode := item_eq_ok.mpr (h.frontier_distance h₀ hd).1
    simp only [hcall, hnode, ok_bind]
    cases hold : st₀.distance.get? hop.toNode with
    | some existing =>
      have hget : st.distance.get? hop.toNode = some existing := by
        rw [h.oldDistance _ (fun hdisc => by rw [hdisc.1] at hold; cases hold), hold]
      have hle := ((h₀.distance _ existing).mp hold).1
      refine ⟨st, ?_, h.skip (by rw [hold]; simp)⟩
      rw [hget]
      exact if_pos (by omega)
    | none =>
      by_cases hdisc : Discovered st₀ done hop.toNode
      · obtain ⟨e, he, b, hb, -⟩ := h.best _ hdisc
        obtain ⟨hkeep, hreplace⟩ := h.improve hdisc hb hext
        have hget := h.distance _ hdisc
        by_cases hle : b.sortKey ≤ c.sortKey
        · refine ⟨st, ?_, hkeep hle⟩
          rw [hget]
          simp only [gt_iff_lt, lt_self_iff_false, if_false, if_true]
          refine bind_eq_ok.mpr ⟨b, item_eq_ok.mpr hb, ?_⟩
          exact if_pos hle
        · refine ⟨_, ?_, hreplace (lt_of_not_ge hle)⟩
          rw [hget]
          simp only [gt_iff_lt, lt_self_iff_false, if_false, if_true]
          refine bind_eq_ok.mpr ⟨b, item_eq_ok.mpr hb, ?_⟩
          exact if_neg hle
      · refine ⟨_, ?_, h.discover hold hdisc hext⟩
        rw [h.oldDistance _ hdisc, hold]
        rfl

/-- After a complete scan the second one has nothing to improve. -/
lemma rescanHop_unchanged (h₀ : Layered graph roots d frontier st₀) (h : Scanned st₀ d done st)
    (hd : (impactGraph graph).Dist roots d hop.fromNode) (hmem : hop ∈ done) :
    rescanHop hop.fromNode (st₀.bestPath.get? hop.fromNode) st hop = .ok st := by
  unfold rescanHop
  by_cases hnext : st.nextCandidates.contains hop.toNode = false
  · rw [if_pos hnext]
  · rw [if_neg hnext]
    have hdisc : Discovered st₀ done hop.toNode :=
      (h.next _).mp (Dict.contains_iff.mp (Bool.of_not_eq_false hnext))
    obtain ⟨c, hcall, hext⟩ := extendPath_ok (h₀.path_target hd)
    have hnode := item_eq_ok.mpr (h.frontier_distance h₀ hd).1
    obtain ⟨e, he, b, hb, -, -, hleast⟩ := h.best _ hdisc
    have hle : b.sortKey ≤ c.sortKey := by
      rw [hext.sortKey]
      exact hleast hop hmem rfl
    simp only [hcall, hnode, ok_bind, h.distance _ hdisc, ne_eq, not_true_eq_false, if_false,
      item_eq_ok.mpr hb]
    rw [if_neg (not_lt_of_ge hle)]
    rfl

/-- The hops out of some nodes. -/
def hopsOf (graph : GovernanceGraph) (nodes : List GraphNodeIdentity) : List ImpactStep :=
  nodes.flatMap (fun n => ((buildEffectiveAdjacency graph).get? n).getD [])

lemma mem_hopsOf {nodes : List GraphNodeIdentity} :
    hop ∈ hopsOf graph nodes ↔ hop ∈ effectiveHops graph ∧ hop.fromNode ∈ nodes := by
  simp only [hopsOf, List.mem_flatMap, mem_adjacency]
  constructor
  · rintro ⟨n, hn, hhop, rfl⟩
    exact ⟨hhop, hn⟩
  · rintro ⟨hhop, hn⟩
    exact ⟨_, hn, hhop, rfl⟩

lemma hopsOf_snoc (nodes : List GraphNodeIdentity) (n : GraphNodeIdentity) :
    hopsOf graph (nodes ++ [n]) =
      hopsOf graph nodes ++ ((buildEffectiveAdjacency graph).get? n).getD [] := by
  simp [hopsOf]

lemma scanNode_scanned (h₀ : Layered graph roots d frontier st₀) (h : Scanned st₀ d done st)
    {node : GraphNodeIdentity} (hd : (impactGraph graph).Dist roots d node) :
    ∃ st', scanNode (buildEffectiveAdjacency graph) (visitHop roots) st node = .ok st' ∧
      Scanned st₀ d (done ++ ((buildEffectiveAdjacency graph).get? node).getD []) st' := by
  unfold scanNode
  rw [(h.frontier_distance h₀ hd).2]
  apply exists_foldlM_ok (motive := fun read st => Scanned st₀ d (done ++ read) st)
  · rwa [List.append_nil]
  · intro read hop hhop st hst
    obtain ⟨-, rfl⟩ := mem_adjacency.mp hhop
    obtain ⟨st', hcall, hst'⟩ := visitHop_scanned h₀ hst hd
    exact ⟨st', hcall, by rwa [List.append_assoc] at hst'⟩

lemma scanNode_unchanged (h₀ : Layered graph roots d frontier st₀)
    (h : Scanned st₀ d (hopsOf graph frontier) st) {node : GraphNodeIdentity}
    (hnode : node ∈ frontier) :
    scanNode (buildEffectiveAdjacency graph) rescanHop st node = .ok st := by
  have hd := (h₀.frontier node).mp hnode
  have hfold : ∃ st', ((((buildEffectiveAdjacency graph).get? node).getD []).foldlM
      (rescanHop node (st₀.bestPath.get? node)) st = .ok st') ∧ st' = st := by
    apply exists_foldlM_ok (motive := fun _ st' => st' = st) rfl
    rintro read hop hhop st' rfl
    obtain ⟨hmem, rfl⟩ := mem_adjacency.mp hhop
    exact ⟨st', rescanHop_unchanged h₀ h hd (mem_hopsOf.mpr ⟨hmem, hnode⟩), rfl⟩
  obtain ⟨st', hcall, rfl⟩ := hfold
  rw [scanNode, (h.frontier_distance h₀ hd).2, hcall]

/-- What a complete scan discovers is the next layer. -/
lemma discovered_iff (h₀ : Layered graph roots d frontier st₀) {v : GraphNodeIdentity} :
    Discovered st₀ (hopsOf graph frontier) v ↔ (impactGraph graph).Dist roots (d + 1) v := by
  have hunknown : st₀.distance.get? v = none ↔
      ∀ m ≤ d, ¬ (impactGraph graph).Dist roots m v := by
    rw [Option.eq_none_iff_forall_ne_some]
    constructor
    · intro h m hm hdist
      exact h m ((h₀.distance v m).mpr ⟨hm, hdist⟩)
    · intro h n hn
      obtain ⟨hle, hdist⟩ := (h₀.distance v n).mp hn
      exact h n hle hdist
  rw [StepGraph.dist_succ_iff, Discovered, hunknown, and_comm]
  refine and_congr_left (fun _ => ?_)
  constructor
  · rintro ⟨e, he, htarget⟩
    obtain ⟨hmem, hfrom⟩ := mem_hopsOf.mp he
    exact ⟨e, hmem, htarget, (h₀.frontier _).mp hfrom⟩
  · rintro ⟨e, hmem, htarget, hdist⟩
    exact ⟨e, mem_hopsOf.mpr ⟨hmem, (h₀.frontier _).mpr hdist⟩, htarget⟩

/-- One complete scan takes the search to the next layer. -/
lemma Scanned.layered (h₀ : Layered graph roots d frontier st₀)
    (h : Scanned st₀ d (hopsOf graph frontier) st) :
    Layered graph roots (d + 1) (sortBy GraphNodeIdentity.canonicalBytes st.nextCandidates.keys)
      st where
  distance v n := by
    by_cases hnew : (impactGraph graph).Dist roots (d + 1) v
    · rw [h.distance v ((discovered_iff h₀).mpr hnew), Option.some_inj]
      constructor
      · rintro rfl
        exact ⟨le_refl _, hnew⟩
      · rintro ⟨-, hdist⟩
        exact hnew.unique hdist
    · rw [h.oldDistance v (fun hdisc => hnew ((discovered_iff h₀).mp hdisc)), h₀.distance]
      constructor
      · rintro ⟨hle, hdist⟩
        exact ⟨by omega, hdist⟩
      · rintro ⟨hle, hdist⟩
        refine ⟨?_, hdist⟩
        by_contra hgt
        obtain rfl : n = d + 1 := by omega
        exact hnew hdist
  rootPath v hv := by
    have hold : ¬ Discovered st₀ (hopsOf graph frontier) v := by
      rintro ⟨hnone, -⟩
      rw [(h₀.distance v 0).mpr ⟨Nat.zero_le d, StepGraph.dist_zero.mpr hv⟩] at hnone
      cases hnone
    rw [h.oldPath v hold, h₀.rootPath v hv]
  best v n hv hn := by
    by_cases heq : n = d
    · subst heq
      obtain ⟨e, he, c, hc, htarget, hext, hleast⟩ := h.best v ((discovered_iff h₀).mpr hv)
      obtain ⟨hmem, hfrom⟩ := mem_hopsOf.mp he
      have hbase := h₀.prefix_least ((h₀.frontier _).mp hfrom)
      refine ⟨c, hc, by rw [hext.target, htarget], ?_⟩
      rw [hext.root, hext.steps]
      have hkey : ∀ (r : GraphNodeIdentity) ss r' ss' e, ss.length = ss'.length →
          pathSortKey r ss ≤ pathSortKey r' ss' →
          pathSortKey r (ss ++ [e]) ≤ pathSortKey r' (ss' ++ [e]) :=
        fun _ _ _ _ e => pathSortKey_snoc_le e
      refine StepGraph.Least.snoc hkey hv hmem htarget hbase ?_
      intro e' he' htarget' hdist
      refine ⟨_, _, h₀.prefix_least hdist, ?_⟩
      have hle := hleast e' (mem_hopsOf.mpr ⟨he', (h₀.frontier _).mpr hdist⟩) htarget'
      rwa [hext.sortKey] at hle
    · have hold : ¬ Discovered st₀ (hopsOf graph frontier) v := by
        intro hdisc
        have := hv.unique ((discovered_iff h₀).mp hdisc)
        omega
      rw [h.oldPath v hold]
      exact h₀.best v n hv (by omega)
  frontier v := by rw [mem_sortBy, h.next, discovered_iff h₀]

/-- One round of the search succeeds and takes it to the next layer. -/
theorem expandLayer_layered (h₀ : Layered graph roots d frontier st₀) :
    ∃ st, expandLayer (buildEffectiveAdjacency graph) roots frontier st₀ = .ok st ∧
      Layered graph roots (d + 1)
        (sortBy GraphNodeIdentity.canonicalBytes st.nextCandidates.keys) st := by
  set ordered := sortBy GraphNodeIdentity.canonicalBytes frontier with hordered
  have hfrontier : ∀ v, v ∈ ordered ↔ (impactGraph graph).Dist roots d v := by
    intro v
    rw [hordered, mem_sortBy, h₀.frontier]
  have h₀' : Layered graph roots d ordered st₀ := ⟨h₀.distance, h₀.rootPath, h₀.best, hfrontier⟩
  have hfirst : ∃ st, ordered.foldlM (scanNode (buildEffectiveAdjacency graph) (visitHop roots))
      { st₀ with nextCandidates := .empty } = .ok st ∧ Scanned st₀ d (hopsOf graph ordered) st := by
    apply exists_foldlM_ok (motive := fun read st => Scanned st₀ d (hopsOf graph read) st)
    · exact scanned_start
    · intro read node hnode st hst
      rw [hopsOf_snoc]
      exact scanNode_scanned h₀' hst ((hfrontier node).mp hnode)
  obtain ⟨st, hcall, hscanned⟩ := hfirst
  have hsecond : ∃ st', ordered.foldlM (scanNode (buildEffectiveAdjacency graph) rescanHop) st =
      .ok st' ∧ st' = st := by
    apply exists_foldlM_ok (motive := fun _ st' => st' = st) rfl
    rintro read node hnode st' rfl
    exact ⟨st', scanNode_unchanged h₀' hscanned hnode, rfl⟩
  obtain ⟨st', hcall', rfl⟩ := hsecond
  exact ⟨st', bind_eq_ok.mpr ⟨st', hcall, hcall'⟩, hscanned.layered h₀'⟩

end SearchState
end CollibraGovernance.Domain
