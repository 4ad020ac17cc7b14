import CollibraGovernance.Domain.ImpactSearch

/-! The impact analysis reports exactly the reachable nodes, each with a least shortest path. -/
namespace CollibraGovernance.Domain
open Library Identity

section Search
variable {graph : GovernanceGraph} {roots frontier : List GraphNodeIdentity}

/-- The search has found every reachable node. -/
structure Complete (graph : GovernanceGraph) (roots : List GraphNodeIdentity) (st : SearchState) :
    Prop where
  distance : ∀ v n, st.distance.get? v = some n ↔ (impactGraph graph).Dist roots n v
  best : ∀ v n, (impactGraph graph).Dist roots (n + 1) v → ∃ p, st.bestPath.get? v = some p ∧
    p.target = v ∧ StepGraph.Least pathSortKey (impactGraph graph) roots (n + 1) v p.root p.steps

lemma layered_start : SearchState.Layered graph roots 0 roots
    ⟨Dict.index id (fun _ => 0) roots, .empty, .empty⟩ where
  distance v n := by
    have hmem : ((Dict.index id (fun _ => 0) roots).get? v = some n) ↔ v ∈ roots ∧ n = 0 := by
      rw [Dict.get?_index, Option.map_eq_some_iff]
      constructor
      · rintro ⟨r, hr, rfl⟩
        have hmem := List.mem_filter.mp (List.mem_of_mem_getLast? hr)
        rw [decide_eq_true_eq] at hmem
        exact ⟨hmem.2 ▸ hmem.1, rfl⟩
      · rintro ⟨hv, rfl⟩
        have hne : (roots.filter (fun r => id r = v)) ≠ [] := by
          rw [ne_eq, List.filter_eq_nil_iff]
          intro h
          exact h v hv (by simp)
        exact ⟨_, List.getLast?_eq_some_getLast hne, rfl⟩
    rw [hmem, Nat.le_zero]
    constructor
    · rintro ⟨hv, rfl⟩
      exact ⟨rfl, StepGraph.dist_zero.mpr hv⟩
    · rintro ⟨rfl, hdist⟩
      exact ⟨StepGraph.dist_zero.mp hdist, rfl⟩
  rootPath v _ := rfl
  best v n _ hn := absurd hn (by omega)
  frontier v := StepGraph.dist_zero.symm

lemma SearchState.Layered.complete {d : Nat} {st : SearchState}
    (h : SearchState.Layered graph roots d frontier st)
    (hlast : ∀ v n, (impactGraph graph).Dist roots n v → n ≤ d) : Complete graph roots st where
  distance v n := (h.distance v n).trans (and_iff_right_of_imp (hlast v n))
  best v n hv := h.best v n hv (hlast v (n + 1) hv)

/-- Distances stay below the number of nodes of the graph. -/
lemma dist_lt_nodes (hroots : ∀ r ∈ roots, r ∈ graph.nodes.map GraphNode.identity)
    {n : Nat} {v : GraphNodeIdentity} (h : (impactGraph graph).Dist roots n v) :
    n < graph.nodes.length := by
  have hpresent := (normalizeGovernanceGraph_isOk_iff.mp
    (Exists.intro _ graph.normalized)).endpoints_present
  have hmem : ∀ k u, (impactGraph graph).Dist roots k u →
      u ∈ graph.nodes.map GraphNode.identity := by
    intro k u hu
    cases k with
    | zero => exact hroots u (StepGraph.dist_zero.mp hu)
    | succ k =>
      obtain ⟨⟨hop, hhop, rfl, -⟩, -⟩ := StepGraph.dist_succ_iff.mp hu
      obtain ⟨edge, hedge, heff⟩ := List.mem_filterMap.mp hhop
      obtain ⟨hs, ht⟩ := hpresent edge hedge
      unfold effectiveHop at heff
      split_ifs at heff
      · cases heff
        exact hs
      · cases heff
        exact ht
  have hlt := h.lt_length hmem
  rwa [List.length_map] at hlt

/-- The search ends complete when it may take as many rounds as there are nodes. -/
theorem search_complete (hroots : ∀ r ∈ roots, r ∈ graph.nodes.map GraphNode.identity)
    {rounds d : Nat} (hrounds : graph.nodes.length ≤ rounds + d) {st : SearchState}
    (h : SearchState.Layered graph roots d frontier st) :
    ∃ st', SearchState.search (buildEffectiveAdjacency graph) roots rounds frontier st = .ok st' ∧
      Complete graph roots st' := by
  induction rounds generalizing d frontier st with
  | zero =>
    refine ⟨st, rfl, h.complete ?_⟩
    intro v n hdist
    have := dist_lt_nodes hroots hdist
    omega
  | succ rounds ih =>
    rw [SearchState.search]
    by_cases hempty : frontier = []
    · rw [if_pos hempty]
      refine ⟨st, rfl, h.complete ?_⟩
      intro v n hdist
      by_contra hlt
      obtain ⟨u, hu⟩ := hdist.exists_earlier (Nat.le_of_not_le hlt)
      have hmem := (h.frontier u).mpr hu
      rw [hempty] at hmem
      cases hmem
    · rw [if_neg hempty]
      obtain ⟨next, hcall, hnext⟩ := SearchState.expandLayer_layered h
      obtain ⟨st', hrest, hcomplete⟩ := ih (by omega) hnext
      exact ⟨st', bind_eq_ok.mpr ⟨next, hcall, hrest⟩, hcomplete⟩

end Search

section Result

lemma mem_nodesAt {distance : Dict GraphNodeIdentity Nat} {p : Nat → Bool} {v : GraphNodeIdentity} :
    v ∈ nodesAt distance p ↔ ∃ n, distance.get? v = some n ∧ p n = true := by
  simp only [nodesAt, mem_sortBy, List.mem_map, List.mem_filter, Prod.exists, exists_and_right,
    exists_eq_right, Dict.get?_eq_some]

lemma nodesAt_nodup (distance : Dict GraphNodeIdentity Nat) (p : Nat → Bool) :
    (nodesAt distance p).Nodup :=
  (sortBy_perm _ _).nodup_iff.mpr
    ((List.filter_sublist.map Prod.fst).nodup distance.nodup)

lemma normalizePaths_ok {values : List ImpactPath} (h : (values.map ImpactPath.target).Nodup) :
    normalizePaths values = .ok (sortBy (fun p => p.target.canonicalBytes) values) := by
  have hfold : values.foldlM addPath .empty = .ok (Dict.index ImpactPath.target id values) := by
    induction values using List.reverseRecOn with
    | nil => rfl
    | append_singleton values p ih =>
      rw [List.map_append, List.nodup_append] at h
      rw [List.foldlM_append, ih h.1, ok_bind, Dict.index_append_singleton, List.foldlM_cons,
        addPath, if_neg]
      · rfl
      · rw [Dict.contains_iff, Dict.mem_keys_index]
        rintro ⟨q, hq, htarget⟩
        exact h.2.2 _ (List.mem_map_of_mem hq) _ (by simp) htarget
  have hvalues : (Dict.index ImpactPath.target id values).values = values := by
    rw [Dict.values, Dict.entries_index_of_nodup h, List.map_map]
    exact List.map_id values
  rw [normalizePaths, hfold, ok_bind, hvalues]
  rfl

lemma normalizeAffectedEdges_ok {graph : GovernanceGraph} {values : List GraphEdge}
    (h : ∀ e ∈ values, e ∈ graph.edges) : ∃ edges, normalizeAffectedEdges values = .ok edges := by
  have hagree := (normalizeGovernanceGraph_isOk_iff.mp
    (Exists.intro _ graph.normalized)).edges_agree
  have hmerge : ∃ merged, edgeMerging.mergeAll ImpactError.conflictingEdge (fun _ => .ok ())
      values = .ok merged :=
    Merging.exists_mergeAll_iff.mpr
      ⟨fun a ha b hb => hagree a (h a ha) b (h b hb), fun _ _ => rfl⟩
  obtain ⟨merged, hmerged⟩ := hmerge
  exact ⟨_, bind_eq_ok.mpr ⟨merged, hmerged, rfl⟩⟩

lemma collectAffectedEdges_mem {graph : GovernanceGraph} {closure : List GraphNodeIdentity}
    {e : GraphEdge} (h : e ∈ collectAffectedEdges (buildEffectiveAdjacency graph) closure) :
    e ∈ graph.edges := by
  rw [collectAffectedEdges, mem_sortBy, Dict.values, List.mem_map] at h
  obtain ⟨entry, hentry, rfl⟩ := h
  obtain ⟨hop, hhop, -, hedge⟩ := Dict.exists_of_mem_index hentry
  obtain ⟨n, -, hhop⟩ := List.mem_flatMap.mp hhop
  obtain ⟨hmem, -⟩ := mem_adjacency.mp (List.mem_of_mem_filter hhop)
  obtain ⟨edge, hgraph, heff⟩ := List.mem_filterMap.mp hmem
  have hsame : hop.edge = edge := by
    unfold effectiveHop at heff
    split_ifs at heff <;> cases heff <;> rfl
  rw [← hedge, hsame]
  exact hgraph

/-- What an impact result says about the nodes and paths of a graph. -/
structure Reports (graph : GovernanceGraph) (changed : List GraphNodeIdentity)
    (r : GovernanceImpactResult) : Prop where
  direct_once : r.directNodes.Nodup
  direct : ∀ v, v ∈ r.directNodes ↔ (impactGraph graph).Dist changed 1 v
  transitive_once : r.transitiveNodes.Nodup
  transitive : ∀ v, v ∈ r.transitiveNodes ↔ ∃ n ≥ 2, (impactGraph graph).Dist changed n v
  paths_once : (r.paths.map ImpactPath.target).Nodup
  path_targets : ∀ v, v ∈ r.paths.map ImpactPath.target ↔
    v ∈ r.directNodes ∨ v ∈ r.transitiveNodes
  paths_least : ∀ p ∈ r.paths, ∃ n, (impactGraph graph).Dist changed n p.target ∧
    StepGraph.Least pathSortKey (impactGraph graph) changed n p.target p.root p.steps

lemma normalizeChangedRoots_eq_ok {graph : GovernanceGraph}
    {changed roots : List GraphNodeIdentity} :
    normalizeChangedRoots graph changed = .ok roots ↔
      changed ≠ [] ∧ (∀ v ∈ changed, v ∈ graph.nodes.map GraphNode.identity) ∧
        roots = sortedDistinct GraphNodeIdentity.canonicalBytes changed := by
  have hempty : distinct changed = [] ↔ changed = [] := by
    simp only [List.eq_nil_iff_forall_not_mem, mem_distinct]
  unfold normalizeChangedRoots
  simp only [hempty]
  by_cases hnil : changed = []
  · simp [hnil]
  · rw [if_neg hnil]
    cases hfind : (distinct changed).find? (fun n => n ∉ graph.nodes.map GraphNode.identity) with
    | some n =>
      have hmem := mem_distinct.mp (List.mem_of_find?_eq_some hfind)
      have habsent := List.find?_some hfind
      rw [decide_eq_true_eq] at habsent
      constructor
      · intro h
        cases h
      · rintro ⟨-, hall, -⟩
        exact absurd (hall n hmem) habsent
    | none =>
      rw [List.find?_eq_none] at hfind
      have hall : ∀ v ∈ changed, v ∈ graph.nodes.map GraphNode.identity := by
        intro v hv
        have hv := hfind v (mem_distinct.mpr hv)
        rwa [decide_eq_true_eq, not_not] at hv
      constructor
      · intro h
        cases h
        exact ⟨hnil, hall, rfl⟩
      · rintro ⟨-, -, rfl⟩
        rfl

section Analysis
variable {graph : GovernanceGraph} {roots changed : List GraphNodeIdentity} {st : SearchState}

lemma Complete.mem_direct (h : Complete graph roots st) {v : GraphNodeIdentity} :
    v ∈ nodesAt st.distance (fun d => d = 1) ↔ (impactGraph graph).Dist roots 1 v := by
  simp only [mem_nodesAt, h.distance, decide_eq_true_eq, exists_eq_right]

lemma Complete.mem_transitive (h : Complete graph roots st) {v : GraphNodeIdentity} :
    v ∈ nodesAt st.distance (fun d => d ≥ 2) ↔
      ∃ n ≥ 2, (impactGraph graph).Dist roots n v := by
  simp only [mem_nodesAt, h.distance, decide_eq_true_eq]
  constructor
  · rintro ⟨n, hdist, hn⟩
    exact ⟨n, hn, hdist⟩
  · rintro ⟨n, hn, hdist⟩
    exact ⟨n, hdist, hn⟩

/-- The paths found for the affected nodes, in their order. -/
lemma Complete.found (h : Complete graph roots st) : ∃ found,
    (nodesAt st.distance (fun d => d = 1) ++ nodesAt st.distance (fun d => d ≥ 2)).mapM
      (SearchState.item st.bestPath) = .ok found ∧
    found.map ImpactPath.target =
      nodesAt st.distance (fun d => d = 1) ++ nodesAt st.distance (fun d => d ≥ 2) ∧
    ∀ p ∈ found, ∃ n, (impactGraph graph).Dist roots n p.target ∧
      StepGraph.Least pathSortKey (impactGraph graph) roots n p.target p.root p.steps := by
  have hbest : ∀ v ∈ nodesAt st.distance (fun d => d = 1) ++ nodesAt st.distance (fun d => d ≥ 2),
      ∃ p n, SearchState.item st.bestPath v = .ok p ∧ p.target = v ∧
        (impactGraph graph).Dist roots n v ∧
        StepGraph.Least pathSortKey (impactGraph graph) roots n v p.root p.steps := by
    intro v hv
    have hdist : ∃ n, (impactGraph graph).Dist roots (n + 1) v := by
      rcases List.mem_append.mp hv with hv | hv
      · exact ⟨0, h.mem_direct.mp hv⟩
      · obtain ⟨n, hn, hdist⟩ := h.mem_transitive.mp hv
        obtain ⟨m, rfl⟩ : ∃ m, n = m + 1 := ⟨n - 1, by omega⟩
        exact ⟨m, hdist⟩
    obtain ⟨n, hdist⟩ := hdist
    obtain ⟨p, hp, htarget, hleast⟩ := h.best v n hdist
    exact ⟨p, n + 1, SearchState.item_eq_ok.mpr hp, htarget, hdist, hleast⟩
  have hfound : ∀ v ∈ nodesAt st.distance (fun d => d = 1) ++ nodesAt st.distance (fun d => d ≥ 2),
      ∃ p, SearchState.item st.bestPath v = .ok p := by
    intro v hv
    obtain ⟨p, -, hp, -⟩ := hbest v hv
    exact ⟨p, hp⟩
  obtain ⟨found, hcall⟩ := exists_mapM_ok hfound
  refine ⟨found, hcall, ?_, ?_⟩
  · have htargets := mapM_map_of_mem (q := id) (p := ImpactPath.target) (fun v hv p hp => by
      obtain ⟨p', n, hp', htarget, -⟩ := hbest v hv
      rw [hp, Except.ok.injEq] at hp'
      rw [hp', htarget, id_eq]) hcall
    rwa [List.map_id] at htargets
  · intro p hp
    obtain ⟨v, hv, hitem⟩ := (mapM_mem hcall).1 p hp
    obtain ⟨p', n, hp', rfl, hdist, hleast⟩ := hbest v hv
    rw [hitem, Except.ok.injEq] at hp'
    subst hp'
    exact ⟨n, hdist, hleast⟩

lemma Complete.affected_nodup (h : Complete graph roots st) :
    (nodesAt st.distance (fun d => d = 1) ++ nodesAt st.distance (fun d => d ≥ 2)).Nodup := by
  rw [List.nodup_append]
  refine ⟨nodesAt_nodup _ _, nodesAt_nodup _ _, ?_⟩
  rintro v hv _ hv' rfl
  obtain ⟨n, hn, hdist⟩ := h.mem_transitive.mp hv'
  have := (h.mem_direct.mp hv).unique hdist
  omega

/-- Every call on present nodes returns a result, and the result is exact. -/
theorem analyzeDownstreamImpact_ok (hne : changed ≠ [])
    (hpresent : ∀ v ∈ changed, v ∈ graph.nodes.map GraphNode.identity) :
    ∃ r, analyzeDownstreamImpact graph changed = .ok r ∧ Reports graph changed r := by
  obtain ⟨roots, hroots⟩ : ∃ roots, roots = sortedDistinct GraphNodeIdentity.canonicalBytes changed :=
    ⟨_, rfl⟩
  have hsame : ∀ v, v ∈ roots ↔ v ∈ changed := fun v => by rw [hroots, mem_sortedDistinct]
  have hnormal := normalizeChangedRoots_eq_ok.mpr ⟨hne, hpresent, hroots⟩
  have hrounds : graph.nodes.length ≤ graph.nodes.length + 1 + 0 := by omega
  obtain ⟨st, hsearch, hcomplete⟩ := search_complete
    (fun r hr => hpresent r ((hsame r).mp hr)) hrounds (@layered_start graph roots)
  obtain ⟨found, hfound, htargets, hleast⟩ := hcomplete.found
  have hnodup := hcomplete.affected_nodup
  have hsortedTargets : ((sortBy (fun p => p.target.canonicalBytes) found).map
      ImpactPath.target).Nodup := by
    rw [((sortBy_perm _ found).map _).nodup_iff, htargets]
    exact hnodup
  have hcollected : ∀ core, ∀ e ∈ collectAffectedEdges (buildEffectiveAdjacency graph) core,
      e ∈ graph.edges := fun core e he => collectAffectedEdges_mem he
  obtain ⟨edges, hedges⟩ := normalizeAffectedEdges_ok (hcollected (distinct (roots ++
    nodesAt st.distance (fun d => d = 1) ++ nodesAt st.distance (fun d => d ≥ 2))))
  refine ⟨_, bind_eq_ok.mpr ⟨roots, hnormal, bind_eq_ok.mpr ⟨st, hsearch, bind_eq_ok.mpr
    ⟨found, hfound, bind_eq_ok.mpr ⟨edges, hedges, bind_eq_ok.mpr
      ⟨_, normalizePaths_ok hsortedTargets, rfl⟩⟩⟩⟩⟩, ?_⟩
  have hdirect : ∀ v, v ∈ normalizeIdentityTuple (nodesAt st.distance (fun d => d = 1)) ↔
      (impactGraph graph).Dist changed 1 v := by
    intro v
    rw [normalizeIdentityTuple, mem_sortedDistinct, hcomplete.mem_direct,
      StepGraph.dist_congr hsame]
  have htransitive : ∀ v, v ∈ normalizeIdentityTuple (nodesAt st.distance (fun d => d ≥ 2)) ↔
      ∃ n ≥ 2, (impactGraph graph).Dist changed n v := by
    intro v
    simp only [normalizeIdentityTuple, mem_sortedDistinct, hcomplete.mem_transitive,
      StepGraph.dist_congr hsame]
  refine ⟨sortedDistinct_nodup _ _, hdirect, sortedDistinct_nodup _ _, htransitive, ?_, ?_, ?_⟩
  · rw [((sortBy_perm _ _).map _).nodup_iff]
    exact hsortedTargets
  · intro v
    rw [((sortBy_perm _ _).map _).mem_iff, ((sortBy_perm _ _).map _).mem_iff, htargets,
      List.mem_append]
    exact or_congr mem_sortedDistinct.symm mem_sortedDistinct.symm
  · intro p hp
    obtain ⟨n, hdist, hbest⟩ := hleast p (mem_sortBy.mp (mem_sortBy.mp hp))
    exact ⟨n, (StepGraph.dist_congr hsame).mp hdist, hbest.congr hsame⟩

/-- The analysis answers for every non-empty family of nodes of the graph, and its answer lists
exactly the nodes at distance one and at greater distances, each with a shortest path whose key no
other shortest path undercuts. -/
theorem analyzeDownstreamImpact_exact (graph : GovernanceGraph)
    (changed : List GraphNodeIdentity) :
    ((∃ r, analyzeDownstreamImpact graph changed = .ok r) ↔
      changed ≠ [] ∧ ∀ v ∈ changed, v ∈ graph.nodes.map GraphNode.identity) ∧
    ∀ r, analyzeDownstreamImpact graph changed = .ok r → Reports graph changed r := by
  have haccepted : ∀ r, analyzeDownstreamImpact graph changed = .ok r →
      changed ≠ [] ∧ ∀ v ∈ changed, v ∈ graph.nodes.map GraphNode.identity := by
    intro r h
    obtain ⟨roots, hroots, -⟩ := bind_eq_ok.mp h
    obtain ⟨hne, hpresent, -⟩ := normalizeChangedRoots_eq_ok.mp hroots
    exact ⟨hne, hpresent⟩
  refine ⟨?_, ?_⟩
  · constructor
    · rintro ⟨r, h⟩
      exact haccepted r h
    · rintro ⟨hne, hpresent⟩
      obtain ⟨r, h, -⟩ := analyzeDownstreamImpact_ok hne hpresent
      exact ⟨r, h⟩
  · intro r h
    obtain ⟨hne, hpresent⟩ := haccepted r h
    obtain ⟨r', h', hreports⟩ := analyzeDownstreamImpact_ok hne hpresent
    rw [h, Except.ok.injEq] at h'
    rw [h']
    exact hreports

end Analysis
end Result
end CollibraGovernance.Domain
