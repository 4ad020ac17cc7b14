import CollibraGovernance.Domain.Graph

/-! When a family of parts makes a graph, and what the graph holds. -/
namespace CollibraGovernance.Domain
open Library Identity

section Spec
variable {nodes nodes' : List GraphNode} {edges edges' : List GraphEdge}

/-- Parts of one identity agree, and every ancestor and endpoint is among the parts. -/
structure Admissible (nodes : List GraphNode) (edges : List GraphEdge) : Prop where
  nodes_agree : ∀ a ∈ nodes, ∀ b ∈ nodes, a.identity = b.identity →
    a.materialPayload = b.materialPayload
  ancestors_present : ∀ n ∈ nodes, ∀ a ∈ n.identity.ancestors, a ∈ nodes.map GraphNode.identity
  endpoints_present : ∀ e ∈ edges, e.source ∈ nodes.map GraphNode.identity ∧
    e.target ∈ nodes.map GraphNode.identity
  edges_agree : ∀ a ∈ edges, ∀ b ∈ edges, a.logicalIdentity = b.logicalIdentity →
    a.attributes = b.attributes

lemma requireAncestors_eq_ok {merged : List GraphNode} {n : GraphNode} {u : Unit} :
    requireAncestors merged n = .ok u ↔
      ∀ a ∈ n.identity.ancestors, a ∈ merged.map GraphNode.identity := by
  unfold requireAncestors
  cases hfind : n.identity.ancestors.find? (fun a => a ∉ merged.map GraphNode.identity) with
  | none =>
    rw [List.find?_eq_none] at hfind
    simp only [true_iff]
    intro a ha
    simpa using hfind a ha
  | some a =>
    have hmem := List.mem_of_find?_eq_some hfind
    have hmissing := List.find?_some hfind
    rw [decide_eq_true_eq] at hmissing
    constructor
    · intro h
      cases h
    · intro h
      exact absurd (h a hmem) hmissing

lemma requireEndpoints_eq_ok {merged : List GraphNode} {i : EdgeIdentity} :
    requireEndpoints merged i = .ok () ↔
      i.1 ∈ merged.map GraphNode.identity ∧ i.2.2 ∈ merged.map GraphNode.identity := by
  unfold requireEndpoints
  split_ifs with hs ht <;> simp_all

lemma mem_identities {merged : List GraphNode} (h : mergeNodes nodes = .ok merged) {i : GraphNodeIdentity} :
    i ∈ merged.map GraphNode.identity ↔ i ∈ nodes.map GraphNode.identity := by
  have hsame := Merging.sameContent_mergeAll h
  simp only [List.mem_map]
  constructor
  · rintro ⟨n, hn, rfl⟩
    obtain ⟨m, hm, hk, -⟩ := hsame.forward n hn
    exact ⟨m, hm, hk⟩
  · rintro ⟨n, hn, rfl⟩
    obtain ⟨m, hm, hk, -⟩ := hsame.backward n hn
    exact ⟨m, hm, hk⟩

/-- The parts of a normalization that succeeds. -/
lemma normalizeGovernanceGraph_eq_ok {result : List GraphNode × List GraphEdge} :
    normalizeGovernanceGraph nodes edges = .ok result ↔
      ∃ merged mergedEdges,
        mergeNodes nodes = .ok merged ∧
        (∀ n ∈ merged, ∀ a ∈ n.identity.ancestors, a ∈ nodes.map GraphNode.identity) ∧
        mergeEdges merged edges = .ok mergedEdges ∧
        result = (sortBy (fun n => n.identity.canonicalBytes) merged,
          sortBy GraphEdge.logicalSortKey mergedEdges) := by
  constructor
  · intro h
    obtain ⟨merged, hmerged, h⟩ := bind_eq_ok.mp h
    obtain ⟨units, hunits, h⟩ := bind_eq_ok.mp h
    obtain ⟨mergedEdges, hedges, h⟩ := bind_eq_ok.mp h
    refine ⟨merged, mergedEdges, hmerged, ?_, hedges, (pure_eq_ok.mp h).symm⟩
    intro n hn a ha
    obtain ⟨u, -, hu⟩ := (mapM_mem hunits).2 n hn
    exact (mem_identities hmerged).mp (requireAncestors_eq_ok.mp hu a ha)
  · rintro ⟨merged, mergedEdges, hmerged, hancestors, hedges, rfl⟩
    have hchecked : ∀ n ∈ merged, ∃ u, requireAncestors merged n = .ok u :=
      fun n hn => ⟨(), requireAncestors_eq_ok.mpr
        (fun a ha => (mem_identities hmerged).mpr (hancestors n hn a ha))⟩
    obtain ⟨units, hunits⟩ := exists_mapM_ok hchecked
    exact bind_eq_ok.mpr ⟨merged, hmerged, bind_eq_ok.mpr ⟨units, hunits,
      bind_eq_ok.mpr ⟨mergedEdges, hedges, rfl⟩⟩⟩

/-- Parts are refused exactly when they conflict or something they need is missing. -/
theorem normalizeGovernanceGraph_isOk_iff :
    (∃ result, normalizeGovernanceGraph nodes edges = .ok result) ↔ Admissible nodes edges := by
  constructor
  · rintro ⟨result, h⟩
    obtain ⟨merged, mergedEdges, hmerged, hancestors, hedges, -⟩ :=
      normalizeGovernanceGraph_eq_ok.mp h
    obtain ⟨hnodes, -⟩ := Merging.exists_mergeAll_iff.mp (Exists.intro merged hmerged)
    obtain ⟨hedgesAgree, hends⟩ := Merging.exists_mergeAll_iff.mp (Exists.intro mergedEdges hedges)
    refine ⟨hnodes, ?_, ?_, hedgesAgree⟩
    · intro n hn
      obtain ⟨m, hm, hk, -⟩ := (Merging.sameContent_mergeAll hmerged).backward n hn
      have hk : m.identity = n.identity := hk
      rw [← hk]
      exact hancestors m hm
    · intro e he
      obtain ⟨hs, ht⟩ := requireEndpoints_eq_ok.mp (hends e he)
      exact ⟨(mem_identities hmerged).mp hs, (mem_identities hmerged).mp ht⟩
  · intro h
    have hmergeable : ∃ merged, mergeNodes nodes = .ok merged :=
      Merging.exists_mergeAll_iff.mpr ⟨h.nodes_agree, fun _ _ => rfl⟩
    obtain ⟨merged, hmerged⟩ := hmergeable
    have hends : ∀ e ∈ edges, requireEndpoints merged (edgeMerging.key e) = .ok () := by
      intro e he
      obtain ⟨hs, ht⟩ := h.endpoints_present e he
      exact requireEndpoints_eq_ok.mpr
        ⟨(mem_identities hmerged).mpr hs, (mem_identities hmerged).mpr ht⟩
    have hmergeableEdges : ∃ mergedEdges, mergeEdges merged edges = .ok mergedEdges :=
      Merging.exists_mergeAll_iff.mpr ⟨h.edges_agree, hends⟩
    obtain ⟨mergedEdges, hedges⟩ := hmergeableEdges
    refine ⟨_, normalizeGovernanceGraph_eq_ok.mpr
      ⟨merged, mergedEdges, hmerged, ?_, hedges, rfl⟩⟩
    intro n hn
    obtain ⟨m, hm, hk, -⟩ := (Merging.sameContent_mergeAll hmerged).forward n hn
    have hk : m.identity = n.identity := hk
    rw [← hk]
    exact h.ancestors_present m hm

/-- Parts of the same content are refused together. -/
lemma Admissible.of_sameContent (h : Admissible nodes edges)
    (hnodes : nodeMerging.SameContent nodes nodes')
    (hedges : edgeMerging.SameContent edges edges') : Admissible nodes' edges' := by
  have hids : ∀ i, i ∈ nodes.map GraphNode.identity → i ∈ nodes'.map GraphNode.identity := by
    intro i hi
    obtain ⟨n, hn, rfl⟩ := List.mem_map.mp hi
    obtain ⟨m, hm, hk, -⟩ := hnodes.forward n hn
    exact List.mem_map.mpr ⟨m, hm, hk⟩
  refine ⟨hnodes.coherent h.nodes_agree, ?_, ?_, hedges.coherent h.edges_agree⟩
  · intro n hn a ha
    obtain ⟨m, hm, hk, -⟩ := hnodes.backward n hn
    have hk : m.identity = n.identity := hk
    rw [← hk] at ha
    exact hids a (h.ancestors_present m hm a ha)
  · intro e he
    obtain ⟨d, hd, hk, -⟩ := hedges.backward e he
    have hk : d.logicalIdentity = e.logicalIdentity := hk
    simp only [GraphEdge.logicalIdentity, Prod.mk.injEq] at hk
    obtain ⟨hs, ht⟩ := h.endpoints_present d hd
    rw [← hk.1, ← hk.2.2]
    exact ⟨hids _ hs, hids _ ht⟩

/-- Parts of the same content normalize to the same graph. -/
theorem normalizeGovernanceGraph_congr {result : List GraphNode × List GraphEdge}
    (hnodes : nodeMerging.SameContent nodes nodes')
    (hedges : edgeMerging.SameContent edges edges')
    (h : normalizeGovernanceGraph nodes edges = .ok result) :
    normalizeGovernanceGraph nodes' edges' = .ok result := by
  have hadmissible := normalizeGovernanceGraph_isOk_iff.mp (Exists.intro result h)
  obtain ⟨result', h'⟩ := normalizeGovernanceGraph_isOk_iff.mpr
    (hadmissible.of_sameContent hnodes hedges)
  obtain ⟨merged, mergedEdges, hmerged, -, hmergedEdges, rfl⟩ := normalizeGovernanceGraph_eq_ok.mp h
  obtain ⟨merged', mergedEdges', hmerged', -, hmergedEdges', rfl⟩ :=
    normalizeGovernanceGraph_eq_ok.mp h'
  have hsortedNodes := Merging.sortBy_mergeAll_congr GraphNodeIdentity.canonicalBytes_inj hnodes
    hmerged hmerged'
  have hsortedEdges := Merging.sortBy_mergeAll_congr EdgeIdentity.sortKey_inj hedges hmergedEdges
    hmergedEdges'
  rw [h']
  exact congrArg Except.ok (Prod.ext hsortedNodes.symm hsortedEdges.symm)

/-- A normalized family has the content of its parts. -/
theorem sameContent_normalizeGovernanceGraph {result : List GraphNode × List GraphEdge}
    (h : normalizeGovernanceGraph nodes edges = .ok result) :
    nodeMerging.SameContent nodes result.1 ∧ edgeMerging.SameContent edges result.2 := by
  obtain ⟨merged, mergedEdges, hmerged, -, hmergedEdges, rfl⟩ := normalizeGovernanceGraph_eq_ok.mp h
  exact ⟨(Merging.sameContent_mergeAll hmerged).symm.trans
      (Merging.sameContent_of_mem (fun _ => mem_sortBy.symm)),
    (Merging.sameContent_mergeAll hmergedEdges).symm.trans
      (Merging.sameContent_of_mem (fun _ => mem_sortBy.symm))⟩

theorem normalizeGovernanceGraph_idem {result : List GraphNode × List GraphEdge}
    (h : normalizeGovernanceGraph nodes edges = .ok result) :
    normalizeGovernanceGraph result.1 result.2 = .ok result := by
  obtain ⟨hnodes, hedges⟩ := sameContent_normalizeGovernanceGraph h
  exact normalizeGovernanceGraph_congr hnodes hedges h

end Spec

/-- Immutable governance graph: its parts are their own normalization. -/
structure GovernanceGraph where
  nodes : List GraphNode
  edges : List GraphEdge
  normalized : normalizeGovernanceGraph nodes edges = .ok (nodes, edges)

namespace GovernanceGraph
variable {nodes nodes' : List GraphNode} {edges edges' : List GraphEdge} {g : GovernanceGraph}

theorem ext {g g' : GovernanceGraph} (hn : g.nodes = g'.nodes) (he : g.edges = g'.edges) :
    g = g' := by
  obtain ⟨ns, es, h⟩ := g
  cases hn
  cases he
  rfl

/-- `GovernanceGraph.from_parts` -/
def fromParts (nodes : List GraphNode) (edges : List GraphEdge) :
    Except GraphError GovernanceGraph :=
  match h : normalizeGovernanceGraph nodes edges with
  | .ok result => .ok ⟨result.1, result.2, normalizeGovernanceGraph_idem h⟩
  | .error e => .error e

def canonicalDictWithoutIdentity (g : GovernanceGraph) : Json :=
  .obj [("edges", .arr (g.edges.map GraphEdge.toDict)),
    ("nodes", .arr (g.nodes.map GraphNode.toDict))]

theorem fromParts_eq_ok :
    fromParts nodes edges = .ok g ↔
      normalizeGovernanceGraph nodes edges = .ok (g.nodes, g.edges) := by
  unfold fromParts
  split
  · rename_i result h
    constructor
    · intro h'
      cases h'
      exact h
    · intro h'
      have hresult := Except.ok.inj (h.symm.trans h')
      exact congrArg Except.ok
        (GovernanceGraph.ext (congrArg Prod.fst hresult) (congrArg Prod.snd hresult))
  · rename_i e h
    rw [h]
    simp

theorem fromParts_isOk_iff : (∃ g, fromParts nodes edges = .ok g) ↔ Admissible nodes edges := by
  rw [← normalizeGovernanceGraph_isOk_iff]
  constructor
  · rintro ⟨g, h⟩
    exact ⟨_, fromParts_eq_ok.mp h⟩
  · rintro ⟨result, h⟩
    exact ⟨⟨result.1, result.2, normalizeGovernanceGraph_idem h⟩, fromParts_eq_ok.mpr h⟩

/-- What the graph holds of each identity of its parts. -/
structure Holds (g : GovernanceGraph) (nodes : List GraphNode) (edges : List GraphEdge) : Prop where
  nodes_once : (g.nodes.map GraphNode.identity).Nodup
  edges_once : (g.edges.map GraphEdge.logicalIdentity).Nodup
  node_identities : ∀ i, i ∈ g.nodes.map GraphNode.identity ↔ i ∈ nodes.map GraphNode.identity
  edge_identities : ∀ i, i ∈ g.edges.map GraphEdge.logicalIdentity ↔
    i ∈ edges.map GraphEdge.logicalIdentity
  node_payload : ∀ n ∈ g.nodes, ∀ p ∈ nodes, p.identity = n.identity →
    p.materialPayload = n.materialPayload
  edge_payload : ∀ e ∈ g.edges, ∀ p ∈ edges, p.logicalIdentity = e.logicalIdentity →
    p.attributes = e.attributes
  node_provenance : ∀ n ∈ g.nodes, ∀ r, r ∈ n.provenance ↔
    ∃ p ∈ nodes, p.identity = n.identity ∧ r ∈ p.provenance
  edge_provenance : ∀ e ∈ g.edges, ∀ r, r ∈ e.provenance ↔
    ∃ p ∈ edges, p.logicalIdentity = e.logicalIdentity ∧ r ∈ p.provenance

theorem holds_of_fromParts (h : fromParts nodes edges = .ok g) : g.Holds nodes edges := by
  have hnormalized := fromParts_eq_ok.mp h
  have hadmissible := normalizeGovernanceGraph_isOk_iff.mp (Exists.intro _ hnormalized)
  obtain ⟨hnodes, hedges⟩ := sameContent_normalizeGovernanceGraph hnormalized
  obtain ⟨merged, mergedEdges, hmerged, -, hmergedEdges, hresult⟩ :=
    normalizeGovernanceGraph_eq_ok.mp hnormalized
  simp only [Prod.mk.injEq] at hresult
  have hnodesOnce : (g.nodes.map GraphNode.identity).Nodup := by
    rw [hresult.1]
    exact ((sortBy_perm _ merged).map _).nodup_iff.mpr (Merging.mergeAll_keys_nodup hmerged)
  have hedgesOnce : (g.edges.map GraphEdge.logicalIdentity).Nodup := by
    rw [hresult.2]
    exact ((sortBy_perm _ mergedEdges).map _).nodup_iff.mpr
      (Merging.mergeAll_keys_nodup hmergedEdges)
  exact
    { nodes_once := hnodesOnce
      edges_once := hedgesOnce
      node_identities := hnodes.mem_keys
      edge_identities := hedges.mem_keys
      node_payload := fun n hn p hp hk => hnodes.payload_eq hadmissible.nodes_agree hn hp hk
      edge_payload := fun e he p hp hk => hedges.payload_eq hadmissible.edges_agree he hp hk
      node_provenance := fun n hn r => hnodes.mem_tags hnodesOnce hn r
      edge_provenance := fun e he r => hedges.mem_tags hedgesOnce he r }

/-- Only which parts are listed matters. -/
lemma fromParts_of_mem (hnodes : ∀ n, n ∈ nodes ↔ n ∈ nodes') (hedges : ∀ e, e ∈ edges ↔ e ∈ edges')
    (h : fromParts nodes edges = .ok g) : fromParts nodes' edges' = .ok g :=
  fromParts_eq_ok.mpr (normalizeGovernanceGraph_congr (Merging.sameContent_of_mem hnodes)
    (Merging.sameContent_of_mem hedges) (fromParts_eq_ok.mp h))

/-- Parts make a graph exactly when they are admissible; the graph holds each identity once with the
united provenance, whatever the listing, and is its own normalization. -/
theorem fromParts_canonical (nodes : List GraphNode) (edges : List GraphEdge) :
    ((∃ g, fromParts nodes edges = .ok g) ↔ Admissible nodes edges) ∧
    (∀ g, fromParts nodes edges = .ok g →
      g.Holds nodes edges ∧ fromParts g.nodes g.edges = .ok g) ∧
    ∀ nodes' edges', (∀ n, n ∈ nodes ↔ n ∈ nodes') → (∀ e, e ∈ edges ↔ e ∈ edges') →
      (fromParts nodes edges).toOption = (fromParts nodes' edges').toOption := by
  refine ⟨fromParts_isOk_iff, ?_, ?_⟩
  · intro g h
    exact ⟨holds_of_fromParts h, fromParts_eq_ok.mpr g.normalized⟩
  · intro nodes' edges' hnodes hedges
    apply Option.ext
    intro g
    rw [toOption_eq_some, toOption_eq_some]
    exact ⟨fromParts_of_mem hnodes hedges,
      fromParts_of_mem (fun n => (hnodes n).symm) (fun e => (hedges e).symm)⟩

end GovernanceGraph
end CollibraGovernance.Domain
