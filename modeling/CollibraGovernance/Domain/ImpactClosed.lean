import CollibraGovernance.Domain.ImpactSpec

/-! An impact result is closed under its edges and associations, and blind to how its input is listed. -/
namespace CollibraGovernance.Domain
open Library Identity

/-- The changed nodes with the reached ones. -/
def GovernanceImpactResult.core (r : GovernanceImpactResult) : List GraphNodeIdentity :=
  r.changedNodes ++ r.directNodes ++ r.transitiveNodes

/-- The kinds of edges that are followed. -/
def followedKinds : List String := [edgeKindDependsOn, edgeKindContains, edgeKindGoverns]

/-- The node or one above it. -/
def AtOrAbove (v n : GraphNodeIdentity) : Prop := v = n ∨ v ∈ n.ancestors

/-- What an impact result lists besides its nodes. -/
structure ClosedImpact (graph : GovernanceGraph) (r : GovernanceImpactResult) : Prop where
  edges_once : (r.affectedEdges.map GraphEdge.logicalIdentity).Nodup
  edges : ∀ e, e ∈ r.affectedEdges ↔
    e ∈ graph.edges ∧ e.kind.val ∈ followedKinds ∧ e.source ∈ r.core ∧ e.target ∈ r.core
  contracts_once : r.associatedContracts.Nodup
  contracts : ∀ v, v ∈ r.associatedContracts ↔ v.kind.val = nodeKindContract ∧
    (v ∈ r.core ∨ ∃ e ∈ graph.edges, e.kind.val = edgeKindGoverns ∧ e.source = v ∧
      ∃ n ∈ r.core, AtOrAbove e.target n)
  assets_once : r.governanceAssets.Nodup
  assets : ∀ v, v ∈ r.governanceAssets ↔ v.kind.val ≠ nodeKindContract ∧
    (v ∈ r.core ∨ v ∈ graph.nodes.map GraphNode.identity ∧
      ∃ n ∈ r.core, n.kind.val ≠ nodeKindContract ∧ v ∈ n.ancestors)

section Edges
variable {graph : GovernanceGraph} {closure : List GraphNodeIdentity}

lemma GovernanceGraph.edges_once (graph : GovernanceGraph) :
    (graph.edges.map GraphEdge.logicalIdentity).Nodup :=
  (GovernanceGraph.holds_of_fromParts (GovernanceGraph.fromParts_eq_ok.mpr graph.normalized)).edges_once

lemma GovernanceGraph.source_present {e : GraphEdge} (he : e ∈ graph.edges) :
    e.source ∈ graph.nodes.map GraphNode.identity :=
  ((normalizeGovernanceGraph_isOk_iff.mp (Exists.intro _ graph.normalized)).endpoints_present e he).1

/-- The hop of an edge runs between its ends. -/
lemma effectiveHop_eq_some {e : GraphEdge} {hop : ImpactStep} (h : effectiveHop e = some hop) :
    hop.edge = e ∧ e.kind.val ∈ followedKinds ∧
      ((hop.fromNode = e.source ∧ hop.toNode = e.target) ∨ (hop.fromNode = e.target ∧ hop.toNode = e.source)) := by
  unfold effectiveHop at h
  split_ifs at h with hdepends hforward
  · cases h
    exact ⟨rfl, by simp [followedKinds, hdepends], Or.inr ⟨rfl, rfl⟩⟩
  · cases h
    refine ⟨rfl, ?_, Or.inl ⟨rfl, rfl⟩⟩
    rcases hforward with hkind | hkind <;> simp [followedKinds, hkind]

lemma exists_effectiveHop {e : GraphEdge} (h : e.kind.val ∈ followedKinds) : ∃ hop, effectiveHop e = some hop := by
  unfold effectiveHop
  split_ifs with hdepends hforward
  · exact ⟨_, rfl⟩
  · exact ⟨_, rfl⟩
  · simp only [followedKinds, List.mem_cons, List.not_mem_nil, or_false] at h
    rcases h with h | h
    · exact absurd h hdepends
    · exact absurd h hforward

/-- The collected edges are those with both ends in the closure. -/
lemma mem_collectAffectedEdges {e : GraphEdge} :
    e ∈ collectAffectedEdges (buildEffectiveAdjacency graph) closure ↔
      e ∈ graph.edges ∧ e.kind.val ∈ followedKinds ∧ e.source ∈ closure ∧ e.target ∈ closure := by
  have hhops : ∀ hop, (hop ∈ closure.flatMap (fun n =>
      (((buildEffectiveAdjacency graph).get? n).getD []).filter (fun hop => hop.toNode ∈ closure))) ↔
        hop ∈ effectiveHops graph ∧ hop.fromNode ∈ closure ∧ hop.toNode ∈ closure := by
    intro hop
    simp only [List.mem_flatMap, List.mem_filter, decide_eq_true_eq, mem_adjacency]
    constructor
    · rintro ⟨n, hn, ⟨hhop, rfl⟩, hto⟩
      exact ⟨hhop, hn, hto⟩
    · rintro ⟨hhop, hfrom, hto⟩
      exact ⟨_, hfrom, ⟨hhop, rfl⟩, hto⟩
  have hends : ∀ hop, hop ∈ effectiveHops graph → hop.fromNode ∈ closure → hop.toNode ∈ closure →
      hop.edge ∈ graph.edges ∧ hop.edge.kind.val ∈ followedKinds ∧
        hop.edge.source ∈ closure ∧ hop.edge.target ∈ closure := by
    intro hop hhop hfrom hto
    obtain ⟨edge, hedge, heff⟩ := List.mem_filterMap.mp hhop
    obtain ⟨rfl, hkind, ⟨hs, ht⟩ | ⟨hs, ht⟩⟩ := effectiveHop_eq_some heff
    · exact ⟨hedge, hkind, hs ▸ hfrom, ht ▸ hto⟩
    · exact ⟨hedge, hkind, ht ▸ hto, hs ▸ hfrom⟩
  rw [collectAffectedEdges, mem_sortBy, Dict.values, List.mem_map]
  constructor
  · rintro ⟨entry, hentry, rfl⟩
    obtain ⟨hop, hhop, -, hedge⟩ := Dict.exists_of_mem_index hentry
    obtain ⟨hhop, hfrom, hto⟩ := (hhops hop).mp hhop
    exact hedge ▸ hends hop hhop hfrom hto
  · rintro ⟨hedge, hkind, hsource, htarget⟩
    obtain ⟨hop, heff⟩ := exists_effectiveHop hkind
    obtain ⟨hsame, -, hdirection⟩ := effectiveHop_eq_some heff
    have hhop : hop ∈ effectiveHops graph := List.mem_filterMap.mpr ⟨e, hedge, heff⟩
    have hinside : hop.fromNode ∈ closure ∧ hop.toNode ∈ closure := by
      rcases hdirection with ⟨hs, ht⟩ | ⟨hs, ht⟩
      · exact ⟨hs ▸ hsource, ht ▸ htarget⟩
      · exact ⟨hs ▸ htarget, ht ▸ hsource⟩
    have hkey : hop.edge.logicalIdentity ∈ (Dict.index (fun hop => hop.edge.logicalIdentity)
        ImpactStep.edge (closure.flatMap (fun n =>
          (((buildEffectiveAdjacency graph).get? n).getD []).filter (fun hop => hop.toNode ∈ closure)))).keys :=
      Dict.mem_keys_index.mpr ⟨hop, (hhops hop).mpr ⟨hhop, hinside⟩, rfl⟩
    obtain ⟨entry, hentry, hentryKey⟩ := List.mem_map.mp hkey
    refine ⟨entry, hentry, ?_⟩
    -- another hop may have written the value, but only of the same edge
    obtain ⟨hop', hhop', hkey', hedge'⟩ := Dict.exists_of_mem_index hentry
    obtain ⟨hhop', hfrom', hto'⟩ := (hhops hop').mp hhop'
    rw [← hedge']
    refine List.inj_on_of_nodup_map graph.edges_once (hends hop' hhop' hfrom' hto').1 hedge ?_
    rw [hkey', hentryKey, hsame]

/-- Edges of a graph merge to themselves. -/
lemma mem_normalizeAffectedEdges {values edges : List GraphEdge} (hvalues : ∀ e ∈ values, e ∈ graph.edges)
    (h : normalizeAffectedEdges values = .ok edges) :
    (edges.map GraphEdge.logicalIdentity).Nodup ∧ ∀ e, e ∈ edges ↔ e ∈ values := by
  obtain ⟨merged, hmerged, hsorted⟩ := bind_eq_ok.mp h
  cases hsorted
  have hunited : ∀ e ∈ values, edgeMerging.united values e = e := by
    intro e he
    refine (edgeMerging.retag_congr e e _ (edgeMerging.tags e) rfl rfl (Merging.tags_subset he)
      (List.Subset.refl _) ?_).trans (edgeMerging.retag_self e)
    intro t
    simp only [List.mem_flatMap, List.mem_filter, decide_eq_true_eq]
    constructor
    · rintro ⟨b, ⟨hb, hkey⟩, ht⟩
      rwa [List.inj_on_of_nodup_map graph.edges_once (hvalues b hb) (hvalues e he) hkey] at ht
    · intro ht
      exact ⟨e, ⟨he, rfl⟩, ht⟩
  refine ⟨?_, ?_⟩
  · rw [((sortBy_perm _ _).map _).nodup_iff]
    exact Merging.mergeAll_keys_nodup hmerged
  · intro e
    rw [mem_sortBy, Merging.mem_mergeAll hmerged]
    constructor
    · rintro ⟨a, ha, rfl⟩
      rwa [hunited a ha]
    · intro he
      exact ⟨e, he, (hunited e he).symm⟩

end Edges

section Associations
variable {graph : GovernanceGraph} {core : List GraphNodeIdentity} {v : GraphNodeIdentity}

lemma mem_associateContracts : v ∈ associateContracts graph core ↔ v.kind.val = nodeKindContract ∧
    (v ∈ core ∨ ∃ e ∈ graph.edges, e.kind.val = edgeKindGoverns ∧ e.source = v ∧
      ∃ n ∈ core, AtOrAbove e.target n) := by
  rw [associateContracts, mem_sortedDistinct, List.mem_append, List.mem_filter, decide_eq_true_eq]
  simp only [List.mem_flatMap, List.mem_cons, List.mem_map, List.mem_filter, decide_eq_true_eq]
  constructor
  · rintro (⟨hcore, hkind⟩ | ⟨n, hn, i, hi, e, ⟨⟨he, hgoverns, hkind, -⟩, rfl⟩, rfl⟩)
    · exact ⟨hkind, Or.inl hcore⟩
    · exact ⟨hkind, Or.inr ⟨e, he, hgoverns, rfl, n, hn, hi⟩⟩
  · rintro ⟨hkind, hcore | ⟨e, he, hgoverns, rfl, n, hn, habove⟩⟩
    · exact Or.inl ⟨hcore, hkind⟩
    · exact Or.inr ⟨n, hn, e.target, habove, e,
        ⟨⟨he, hgoverns, hkind, List.mem_map.mp (GovernanceGraph.source_present he)⟩, rfl⟩, rfl⟩

lemma mem_associateGovernanceAssets : v ∈ associateGovernanceAssets graph core ↔
    v.kind.val ≠ nodeKindContract ∧ (v ∈ core ∨ v ∈ graph.nodes.map GraphNode.identity ∧
      ∃ n ∈ core, n.kind.val ≠ nodeKindContract ∧ v ∈ n.ancestors) := by
  rw [associateGovernanceAssets, mem_sortedDistinct]
  simp only [List.mem_flatMap, List.mem_cons, List.mem_filter, decide_eq_true_eq]
  constructor
  · rintro ⟨n, ⟨hn, hkind⟩, rfl | ⟨habove, hpresent, hv⟩⟩
    · exact ⟨hkind, Or.inl hn⟩
    · exact ⟨hv, Or.inr ⟨hpresent, n, hn, hkind, habove⟩⟩
  · rintro ⟨hkind, hv | ⟨hpresent, n, hn, hnkind, habove⟩⟩
    · exact ⟨v, ⟨hv, hkind⟩, Or.inl rfl⟩
    · exact ⟨n, ⟨hn, hnkind⟩, Or.inr ⟨habove, hpresent, hkind⟩⟩

end Associations

section Result
variable {graph : GovernanceGraph} {changed changed' : List GraphNodeIdentity} {r : GovernanceImpactResult}

/-- The parts of a result are computed from its core. -/
lemma parts_of_analysis (h : analyzeDownstreamImpact graph changed = .ok r) :
    ∃ core, (∀ v, v ∈ core ↔ v ∈ r.core) ∧
      normalizeAffectedEdges (collectAffectedEdges (buildEffectiveAdjacency graph) core) = .ok r.affectedEdges ∧
      r.associatedContracts = normalizeIdentityTuple (associateContracts graph core) ∧
      r.governanceAssets = normalizeIdentityTuple (associateGovernanceAssets graph core) := by
  obtain ⟨roots, -, h⟩ := bind_eq_ok.mp h
  obtain ⟨st, -, h⟩ := bind_eq_ok.mp h
  obtain ⟨found, -, h⟩ := bind_eq_ok.mp h
  obtain ⟨edges, hedges, h⟩ := bind_eq_ok.mp h
  obtain ⟨paths, -, h⟩ := bind_eq_ok.mp h
  cases h
  refine ⟨_, ?_, hedges, rfl, rfl⟩
  intro v
  simp [GovernanceImpactResult.core, normalizeIdentityTuple]

theorem closed_of_analysis (h : analyzeDownstreamImpact graph changed = .ok r) : ClosedImpact graph r := by
  obtain ⟨core, hcore, hedges, hcontracts, hassets⟩ := parts_of_analysis h
  obtain ⟨honce, hsame⟩ := mem_normalizeAffectedEdges
    (fun e he => (mem_collectAffectedEdges.mp he).1) hedges
  refine ⟨honce, ?_, ?_, ?_, ?_, ?_⟩
  · intro e
    rw [hsame, mem_collectAffectedEdges, hcore, hcore]
  · rw [hcontracts]
    exact sortedDistinct_nodup _ _
  · intro v
    rw [hcontracts, normalizeIdentityTuple, mem_sortedDistinct, mem_associateContracts]
    simp only [hcore]
  · rw [hassets]
    exact sortedDistinct_nodup _ _
  · intro v
    rw [hassets, normalizeIdentityTuple, mem_sortedDistinct, mem_associateGovernanceAssets]
    simp only [hcore]

/-- Only which nodes have changed matters. -/
lemma analyzeDownstreamImpact_of_mem (hchanged : ∀ v, v ∈ changed ↔ v ∈ changed')
    (h : analyzeDownstreamImpact graph changed = .ok r) : analyzeDownstreamImpact graph changed' = .ok r := by
  obtain ⟨roots, hroots, hrest⟩ := bind_eq_ok.mp h
  obtain ⟨hne, hpresent, hsorted⟩ := normalizeChangedRoots_eq_ok.mp hroots
  refine bind_eq_ok.mpr ⟨roots, normalizeChangedRoots_eq_ok.mpr ⟨?_, ?_, ?_⟩, hrest⟩
  · obtain ⟨v, hv⟩ := List.exists_mem_of_ne_nil _ hne
    exact List.ne_nil_of_mem ((hchanged v).mp hv)
  · intro v hv
    exact hpresent v ((hchanged v).mpr hv)
  · rw [hsorted]
    exact sortedDistinct_congr GraphNodeIdentity.canonicalBytes_inj hchanged

/-- The impact on the graph with the given parts. -/
def impactOfParts (nodes : List GraphNode) (edges : List GraphEdge) (changed : List GraphNodeIdentity) :
    Option GovernanceImpactResult := do
  let graph ← (GovernanceGraph.fromParts nodes edges).toOption
  (analyzeDownstreamImpact graph changed).toOption

lemma impactOfParts_eq_some {nodes : List GraphNode} {edges : List GraphEdge} :
    impactOfParts nodes edges changed = some r ↔
      ∃ graph, GovernanceGraph.fromParts nodes edges = .ok graph ∧
        analyzeDownstreamImpact graph changed = .ok r := by
  simp only [impactOfParts, Option.bind_eq_bind, Option.bind_eq_some_iff, toOption_eq_some]

/-- Results are closed, and neither the order nor the repetition of parts and changed nodes matters. -/
theorem impact_closed_and_order_free (nodes : List GraphNode) (edges : List GraphEdge)
    (changed : List GraphNodeIdentity) :
    (∀ nodes' edges' changed', (∀ n, n ∈ nodes ↔ n ∈ nodes') → (∀ e, e ∈ edges ↔ e ∈ edges') →
      (∀ v, v ∈ changed ↔ v ∈ changed') →
        impactOfParts nodes edges changed = impactOfParts nodes' edges' changed') ∧
    ∀ graph, GovernanceGraph.fromParts nodes edges = .ok graph →
      ∀ r, analyzeDownstreamImpact graph changed = .ok r →
        (∀ v, v ∈ r.changedNodes ↔ v ∈ changed) ∧ Reports graph changed r ∧ ClosedImpact graph r := by
  refine ⟨?_, ?_⟩
  · intro nodes' edges' changed' hnodes hedges hchanged
    apply Option.ext
    intro r
    simp only [impactOfParts_eq_some]
    constructor
    · rintro ⟨graph, hgraph, h⟩
      exact ⟨graph, GovernanceGraph.fromParts_of_mem hnodes hedges hgraph,
        analyzeDownstreamImpact_of_mem hchanged h⟩
    · rintro ⟨graph, hgraph, h⟩
      exact ⟨graph, GovernanceGraph.fromParts_of_mem (fun n => (hnodes n).symm) (fun e => (hedges e).symm) hgraph,
        analyzeDownstreamImpact_of_mem (fun v => (hchanged v).symm) h⟩
  · intro graph _ r h
    obtain ⟨roots, hroots, hrest⟩ := bind_eq_ok.mp h
    obtain ⟨hne, hpresent, hsorted⟩ := normalizeChangedRoots_eq_ok.mp hroots
    obtain ⟨r', h', hreports⟩ := analyzeDownstreamImpact_ok hne hpresent
    cases Except.ok.inj (h.symm.trans h')
    refine ⟨?_, hreports, closed_of_analysis h⟩
    obtain ⟨st, -, hrest⟩ := bind_eq_ok.mp hrest
    obtain ⟨found, -, hrest⟩ := bind_eq_ok.mp hrest
    obtain ⟨affected, -, hrest⟩ := bind_eq_ok.mp hrest
    obtain ⟨paths, -, hrest⟩ := bind_eq_ok.mp hrest
    cases hrest
    intro v
    rw [normalizeIdentityTuple, mem_sortedDistinct, hsorted, mem_sortedDistinct]

end Result
end CollibraGovernance.Domain
