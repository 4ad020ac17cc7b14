import CollibraGovernance.Domain.GraphSpec
import CollibraGovernance.Domain.Observations
import CollibraGovernance.Domain.PhysicalProjection

/-! What a mapper collects from a document and hands over: a graph with property observations. -/
namespace CollibraGovernance.Domain
open Library Identity

theorem nodeKindContract_nonblank : isBlank nodeKindContract = false := by decide
theorem nodeKindTransformation_nonblank : isBlank nodeKindTransformation = false := by decide
theorem edgeKindContains_nonblank : isBlank edgeKindContains = false := by decide
theorem edgeKindGoverns_nonblank : isBlank edgeKindGoverns = false := by decide
theorem edgeKindDependsOn_nonblank : isBlank edgeKindDependsOn = false := by decide

def kindContract : Stripped := .of nodeKindContract nodeKindContract_nonblank
def kindTransformation : Stripped := .of nodeKindTransformation nodeKindTransformation_nonblank
def kindContains : Stripped := .of edgeKindContains edgeKindContains_nonblank
def kindGoverns : Stripped := .of edgeKindGoverns edgeKindGoverns_nonblank
def kindDependsOn : Stripped := .of edgeKindDependsOn edgeKindDependsOn_nonblank

theorem contract_ne_column : kindContract.val ≠ nodeKindColumn := by decide
theorem dataset_ne_column : kindDataset.val ≠ nodeKindColumn := by decide
theorem table_ne_column : kindTable.val ≠ nodeKindColumn := by decide
theorem transformation_ne_column : kindTransformation.val ≠ nodeKindColumn := by decide

/-- A node with the given members as its attributes. -/
def mappedNode (identity : GraphNodeIdentity) (name : Stripped) (description : Option String)
    (attributes : List (String × Json)) (provenance : List ProvenanceRecord) : GraphNode :=
  ⟨identity, name, description, canonicalizeAttributesObject (some attributes),
    mergeProvenance provenance, mergeProvenance_idem provenance⟩

/-- An edge without attributes. -/
def mappedEdge (source target : GraphNodeIdentity) (kind : Stripped)
    (provenance : List ProvenanceRecord) : GraphEdge :=
  ⟨source, target, kind, canonicalizeAttributesObject none, mergeProvenance provenance,
    mergeProvenance_idem provenance⟩

/-- The node is what the constructor makes of the same arguments. -/
theorem create_mappedNode (identity : GraphNodeIdentity) (name : Stripped) (description : Option String)
    (attributes : List (String × Json)) (provenance : List ProvenanceRecord) :
    GraphNode.create identity name.val description (some attributes) provenance =
      .ok (mappedNode identity name description attributes provenance) := by
  rw [GraphNode.create, requireNonEmptyStr_stripped, ok_bind]
  rfl

theorem create_mappedEdge (source target : GraphNodeIdentity) (kind : Stripped)
    (provenance : List ProvenanceRecord) :
    GraphEdge.create source target kind.val none provenance =
      .ok (mappedEdge source target kind provenance) := by
  rw [GraphEdge.create, requireNonEmptyStr_stripped, ok_bind]
  rfl

/-- One report of the observation builder. -/
abbrev PendingObservation := GraphNodeIdentity × PropertyPath × Json × ProvenanceRecord

theorem segment_ne_nil (key : String) : [key] ≠ [] := List.cons_ne_nil _ _
theorem segments_ne_nil (first second : String) : [first, second] ≠ [] := List.cons_ne_nil _ _

def namePath : PropertyPath := ⟨["name"], segment_ne_nil "name"⟩
def descriptionPath : PropertyPath := ⟨["description"], segment_ne_nil "description"⟩
def attributePath (key : String) : PropertyPath := ⟨["attributes", key], segments_ne_nil "attributes" key⟩

/-- `_observe_node`: name, description and attributes of a node that has a provenance. -/
def observeNode (node : GraphNode) (record : ProvenanceRecord) : List PendingObservation :=
  if node.provenance = [] then []
  else [(node.identity, namePath, .str node.name.val, record)] ++
    node.description.toList.map (fun d => (node.identity, descriptionPath, .str d, record)) ++
    node.attributes.items.map (fun m => (node.identity, attributePath m.1, m.2, record))

/-- The lists that a mapper appends to. -/
structure MappedParts where
  nodes : List GraphNode
  edges : List GraphEdge
  pending : List PendingObservation

namespace MappedParts

def empty : MappedParts := ⟨[], [], []⟩

def append (p q : MappedParts) : MappedParts :=
  ⟨p.nodes ++ q.nodes, p.edges ++ q.edges, p.pending ++ q.pending⟩

instance : Append MappedParts := ⟨append⟩

/-- A node that is observed, with the edge that leads to it. -/
def observed (node : GraphNode) (record : ProvenanceRecord) (edges : List GraphEdge) : MappedParts :=
  ⟨[node], edges, observeNode node record⟩

@[simp] theorem nodes_append (p q : MappedParts) : (p ++ q).nodes = p.nodes ++ q.nodes := rfl
@[simp] theorem edges_append (p q : MappedParts) : (p ++ q).edges = p.edges ++ q.edges := rfl
@[simp] theorem pending_append (p q : MappedParts) : (p ++ q).pending = p.pending ++ q.pending := rfl
@[simp] theorem nodes_empty : empty.nodes = [] := rfl
@[simp] theorem edges_empty : empty.edges = [] := rfl
@[simp] theorem pending_empty : empty.pending = [] := rfl

theorem ext {p q : MappedParts} (hn : p.nodes = q.nodes) (he : p.edges = q.edges)
    (ho : p.pending = q.pending) : p = q := by
  obtain ⟨ns, es, os⟩ := p
  cases hn
  cases he
  cases ho
  rfl

theorem append_assoc (p q r : MappedParts) : p ++ q ++ r = p ++ (q ++ r) :=
  ext (List.append_assoc ..) (List.append_assoc ..) (List.append_assoc ..)

@[simp] theorem empty_append (p : MappedParts) : empty ++ p = p := rfl

@[simp] theorem append_empty (p : MappedParts) : p ++ empty = p :=
  ext (List.append_nil _) (List.append_nil _) (List.append_nil _)

/-- The same nodes, edges and reports, in some order and number. -/
structure Same (p q : MappedParts) : Prop where
  nodes : ∀ n, n ∈ p.nodes ↔ n ∈ q.nodes
  edges : ∀ e, e ∈ p.edges ↔ e ∈ q.edges
  pending : ∀ o, o ∈ p.pending ↔ o ∈ q.pending

theorem Same.refl (p : MappedParts) : p.Same p := ⟨fun _ => Iff.rfl, fun _ => Iff.rfl, fun _ => Iff.rfl⟩

theorem Same.symm {p q : MappedParts} (h : p.Same q) : q.Same p :=
  ⟨fun n => (h.nodes n).symm, fun e => (h.edges e).symm, fun o => (h.pending o).symm⟩

theorem Same.trans {p q r : MappedParts} (h : p.Same q) (h' : q.Same r) : p.Same r :=
  ⟨fun n => (h.nodes n).trans (h'.nodes n), fun e => (h.edges e).trans (h'.edges e),
    fun o => (h.pending o).trans (h'.pending o)⟩

theorem Same.append {p p' q q' : MappedParts} (h : p.Same p') (h' : q.Same q') :
    (p ++ q).Same (p' ++ q') where
  nodes n := by rw [nodes_append, nodes_append, List.mem_append, List.mem_append, h.nodes, h'.nodes]
  edges e := by rw [edges_append, edges_append, List.mem_append, List.mem_append, h.edges, h'.edges]
  pending o := by
    rw [pending_append, pending_append, List.mem_append, List.mem_append, h.pending, h'.pending]

/-- All parts of a list, one after the other. -/
def join (ps : List MappedParts) : MappedParts :=
  ⟨ps.flatMap MappedParts.nodes, ps.flatMap MappedParts.edges, ps.flatMap MappedParts.pending⟩

@[simp] theorem join_nil : join [] = empty := rfl

@[simp] theorem join_cons (p : MappedParts) (ps : List MappedParts) : join (p :: ps) = p ++ join ps := rfl

theorem Same.join_perm {ps qs : List MappedParts} (h : ps.Perm qs) : (join ps).Same (join qs) where
  nodes _ := (h.flatMap_right _).mem_iff
  edges _ := (h.flatMap_right _).mem_iff
  pending _ := (h.flatMap_right _).mem_iff

end MappedParts

/-- Graph and property observations of one mapped document. -/
structure GovernanceMappingResult where
  graph : GovernanceGraph
  observations : PropertyObservationSet

theorem record_ne_nil (r : ProvenanceRecord) : [r] ≠ [] := List.cons_ne_nil _ _

/-- The observation that the builder makes of one report. -/
def PendingObservation.observation (q : PendingObservation) : PropertyObservation :=
  ⟨q.1, q.2.1, canonicalizeJsonValue q.2.2.1, mergeProvenance [q.2.2.2],
    PropertyObservation.mergeProvenance_ne_nil (record_ne_nil q.2.2.2),
    mergeProvenance_idem [q.2.2.2]⟩

/-- The builder never fails. -/
theorem buildObservations_eq (pending : List PendingObservation) :
    buildObservations pending =
      .ok (.fromObservations (pending.map PendingObservation.observation)) := by
  have hcreate : ∀ q ∈ pending, PropertyObservation.create q.1 q.2.1 q.2.2.1 [q.2.2.2] =
      .ok (PendingObservation.observation q) := fun q _ => dif_pos (record_ne_nil q.2.2.2)
  rw [buildObservations, mapM_eq_map hcreate, ok_bind]
  rfl

theorem fromObservations_of_mem {xs ys : List PropertyObservation} (h : ∀ o, o ∈ xs ↔ o ∈ ys) :
    PropertyObservationSet.fromObservations xs = .fromObservations ys := by
  apply PropertyObservationSet.fromObservations_congr
  intro i p v r
  simp only [Observed, h]

/-- The observations that the builder makes of the collected reports. -/
def MappedParts.observations (parts : MappedParts) : PropertyObservationSet :=
  .fromObservations (parts.pending.map PendingObservation.observation)

/-- The end of every mapper: the graph of the parts, with the built observations. -/
def MappedParts.result (parts : MappedParts) : Except GraphError GovernanceMappingResult := do
  let graph ← GovernanceGraph.fromParts parts.nodes parts.edges
  return ⟨graph, parts.observations⟩

theorem MappedParts.result_eq_ok {parts : MappedParts} {r : GovernanceMappingResult} :
    parts.result = .ok r ↔
      GovernanceGraph.fromParts parts.nodes parts.edges = .ok r.graph ∧
        r.observations = parts.observations := by
  unfold MappedParts.result
  rw [bind_eq_ok]
  constructor
  · rintro ⟨graph, hgraph, h⟩
    obtain rfl := pure_eq_ok.mp h
    exact ⟨hgraph, rfl⟩
  · rintro ⟨hgraph, hobservations⟩
    refine ⟨r.graph, hgraph, ?_⟩
    rw [← hobservations]
    rfl

/-- The result depends only on which parts were collected. -/
theorem MappedParts.Same.result {p q : MappedParts} (h : p.Same q) {r : GovernanceMappingResult}
    (hr : p.result = .ok r) : q.result = .ok r := by
  obtain ⟨hgraph, hobservations⟩ := MappedParts.result_eq_ok.mp hr
  refine MappedParts.result_eq_ok.mpr ⟨GovernanceGraph.fromParts_of_mem h.nodes h.edges hgraph, ?_⟩
  rw [hobservations, MappedParts.observations, MappedParts.observations]
  apply fromObservations_of_mem
  intro o
  simp only [List.mem_map, h.pending]

end CollibraGovernance.Domain
