import CollibraGovernance.Domain.GraphSpec

/-! Deterministic downstream blast radius. `depends_on` edges are followed against their stored
direction, `contains` and `governs` edges along it, other edges not at all. -/
namespace CollibraGovernance.Domain
open Library Identity

inductive TraversalMode where
  | forward | reverse
  deriving DecidableEq

def TraversalMode.value : TraversalMode → String
  | .forward => "forward"
  | .reverse => "reverse"

/-- `_validate_impact_step_direction` -/
def StepDirection (fromNode toNode : GraphNodeIdentity) (edge : GraphEdge)
    (traversal : TraversalMode) : Prop :=
  if edge.kind.val = edgeKindDependsOn then
    traversal = .reverse ∧ fromNode = edge.target ∧ toNode = edge.source
  else if edge.kind.val = edgeKindContains ∨ edge.kind.val = edgeKindGoverns then
    traversal = .forward ∧ fromNode = edge.source ∧ toNode = edge.target
  else False

/-- One effective hop, as the adjacency holds it and as an explanation path lists it. -/
structure ImpactStep where
  fromNode : GraphNodeIdentity
  toNode : GraphNodeIdentity
  edge : GraphEdge
  traversal : TraversalMode
  direction : StepDirection fromNode toNode edge traversal

/-- The hop that an edge of a known kind allows. -/
def effectiveHop (edge : GraphEdge) : Option ImpactStep :=
  if h : edge.kind.val = edgeKindDependsOn then
    some ⟨edge.target, edge.source, edge, .reverse, by simp [StepDirection, h]⟩
  else if h' : edge.kind.val = edgeKindContains ∨ edge.kind.val = edgeKindGoverns then
    some ⟨edge.source, edge.target, edge, .forward, by simp [StepDirection, h, h']⟩
  else none

/-- What can go wrong during an analysis. -/
inductive ImpactError where
  | noChangedNodes
  | absentNode (node : GraphNodeIdentity)
  | invalidPath (message : String)
  | unknownKey (node : GraphNodeIdentity)
  | conflictingEdge (identity : EdgeIdentity)
  | duplicateTarget (target : GraphNodeIdentity)

def ImpactError.message (isPrintable : Char → Bool) : ImpactError → String
  | .noChangedNodes => "changed_nodes must not be empty"
  | .absentNode n => "changed node not present in graph: " ++ n.toCanonicalList.pyRepr isPrintable
  | .invalidPath m => m
  | .unknownKey n => n.toCanonicalList.pyRepr isPrintable
  | .conflictingEdge i => (GraphError.conflictingEdge i).message isPrintable
  | .duplicateTarget t =>
    "duplicate impact path target: " ++ t.toCanonicalList.pyRepr isPrintable

/-- Each step starts where the one before it ended. -/
def Contiguous (steps : List ImpactStep) : Prop :=
  steps.IsChain (fun a b => a.toNode = b.fromNode)

instance (steps : List ImpactStep) : Decidable (Contiguous steps) :=
  inferInstanceAs (Decidable (steps.IsChain _))

/-- Explanation path from a changed root to an affected node. -/
structure ImpactPath where
  root : GraphNodeIdentity
  target : GraphNodeIdentity
  steps : List ImpactStep
  starts : steps.head?.map ImpactStep.fromNode = some root
  ends : steps.getLast?.map ImpactStep.toNode = some target
  contiguous : Contiguous steps

namespace ImpactPath

def create (root target : GraphNodeIdentity) (steps : List ImpactStep) :
    Except ImpactError ImpactPath :=
  if steps = [] then .error (.invalidPath "impact path requires at least one step")
  else if h : steps.head?.map ImpactStep.fromNode = some root then
    if h' : steps.getLast?.map ImpactStep.toNode = some target then
      if h'' : Contiguous steps then .ok ⟨root, target, steps, h, h', h''⟩
      else .error (.invalidPath "impact path steps must be contiguous")
    else .error (.invalidPath "impact path must end at target")
  else .error (.invalidPath "impact path must start at root")

def distance (p : ImpactPath) : Nat := p.steps.length

end ImpactPath

def stepJson (s : ImpactStep) : Json :=
  .arr [s.fromNode.toCanonicalList, s.toNode.toCanonicalList, s.edge.source.toCanonicalList,
    .str s.edge.kind.val, s.edge.target.toCanonicalList, .str s.traversal.value]

/-- `_path_sort_key` of the path with these parts. -/
def pathSortKey (root : GraphNodeIdentity) (steps : List ImpactStep) : String :=
  (Json.arr [root.toCanonicalList, .arr (steps.map stepJson)]).canonicalJson

def ImpactPath.sortKey (p : ImpactPath) : String := pathSortKey p.root p.steps

def hopNeighborSortKey (hop : ImpactStep) : String ×ₗ String ×ₗ String :=
  toLex (hop.toNode.canonicalBytes, toLex (hop.edge.logicalSortKey, hop.traversal.value))

section Search
variable (graph : GovernanceGraph)

def effectiveHops : List ImpactStep := graph.edges.filterMap effectiveHop

/-- `_build_effective_adjacency` -/
def buildEffectiveAdjacency : Dict GraphNodeIdentity (List ImpactStep) :=
  (groupBy ImpactStep.fromNode (effectiveHops graph)).mapValues
    (fun hops => sortBy hopNeighborSortKey hops.members)

/-- `_normalize_changed_roots` -/
def normalizeChangedRoots (changedNodes : List GraphNodeIdentity) :
    Except ImpactError (List GraphNodeIdentity) :=
  let unique := distinct changedNodes
  if unique = [] then .error .noChangedNodes
  else
    match unique.find? (fun n => n ∉ graph.nodes.map GraphNode.identity) with
    | some n => .error (.absentNode n)
    | none => .ok (sortBy GraphNodeIdentity.canonicalBytes unique)

end Search

/-- `_extend_path` -/
def extendPath (parent : GraphNodeIdentity) (parentPath : Option ImpactPath) (hop : ImpactStep) :
    Except ImpactError ImpactPath :=
  match parentPath with
  | none => ImpactPath.create parent hop.toNode [hop]
  | some p => ImpactPath.create p.root hop.toNode (p.steps ++ [hop])

structure SearchState where
  distance : Dict GraphNodeIdentity Nat
  bestPath : Dict GraphNodeIdentity ImpactPath
  nextCandidates : Dict GraphNodeIdentity ImpactPath

namespace SearchState

/-- `dictionary[node]` -/
def item {ν : Type} (d : Dict GraphNodeIdentity ν) (node : GraphNodeIdentity) :
    Except ImpactError ν :=
  match d.get? node with
  | some v => .ok v
  | none => .error (.unknownKey node)

/-- First visit of a target, or a strictly shorter path to it. -/
def discover (st : SearchState) (target : GraphNodeIdentity) (newDistance : Nat)
    (candidate : ImpactPath) : SearchState where
  distance := st.distance.set target newDistance
  bestPath := st.bestPath.set target candidate
  nextCandidates := st.nextCandidates.set target candidate

/-- One hop of the discovery scan. -/
def visitHop (roots : List GraphNodeIdentity) (node : GraphNodeIdentity)
    (parentPath : Option ImpactPath) (st : SearchState) (hop : ImpactStep) :
    Except ImpactError SearchState :=
  if hop.toNode ∈ roots then .ok st
  else do
    let candidate ← extendPath node parentPath hop
    let newDistance := (← item st.distance node) + 1
    match st.distance.get? hop.toNode with
    | none => return st.discover hop.toNode newDistance candidate
    | some existing =>
      if newDistance > existing then return st
      else if newDistance = existing then
        let currentBest ← item st.bestPath hop.toNode
        if candidate.sortKey ≥ currentBest.sortKey then return st
        else return { st with bestPath := st.bestPath.set hop.toNode candidate }
      else return st.discover hop.toNode newDistance candidate

/-- One hop of the second scan, which only improves this layer's discoveries. -/
def rescanHop (node : GraphNodeIdentity) (parentPath : Option ImpactPath) (st : SearchState)
    (hop : ImpactStep) : Except ImpactError SearchState :=
  if st.nextCandidates.contains hop.toNode = false then .ok st
  else do
    let candidate ← extendPath node parentPath hop
    let d ← item st.distance node
    if st.distance.get? hop.toNode ≠ some (d + 1) then return st
    else
      let currentBest ← item st.bestPath hop.toNode
      if candidate.sortKey < currentBest.sortKey then
        return { st with
          bestPath := st.bestPath.set hop.toNode candidate
          nextCandidates := st.nextCandidates.set hop.toNode candidate }
      else return st

/-- A scan of the hops out of one node of the frontier. -/
def scanNode (adjacency : Dict GraphNodeIdentity (List ImpactStep))
    (onHop : GraphNodeIdentity → Option ImpactPath → SearchState → ImpactStep →
      Except ImpactError SearchState) (st : SearchState) (node : GraphNodeIdentity) :
    Except ImpactError SearchState :=
  ((adjacency.get? node).getD []).foldlM (onHop node (st.bestPath.get? node)) st

/-- One round of the search: both scans over the sorted frontier. -/
def expandLayer (adjacency : Dict GraphNodeIdentity (List ImpactStep))
    (roots frontier : List GraphNodeIdentity) (st : SearchState) :
    Except ImpactError SearchState := do
  let ordered := sortBy GraphNodeIdentity.canonicalBytes frontier
  let st ← ordered.foldlM (scanNode adjacency (visitHop roots)) { st with nextCandidates := .empty }
  ordered.foldlM (scanNode adjacency rescanHop) st

/-- `while frontier`, for at most the given number of rounds. -/
def search (adjacency : Dict GraphNodeIdentity (List ImpactStep)) (roots : List GraphNodeIdentity) :
    Nat → List GraphNodeIdentity → SearchState → Except ImpactError SearchState
  | 0, _, st => .ok st
  | rounds + 1, frontier, st =>
    if frontier = [] then .ok st
    else do
      let st ← expandLayer adjacency roots frontier st
      search adjacency roots rounds
        (sortBy GraphNodeIdentity.canonicalBytes st.nextCandidates.keys) st

end SearchState

section Associations
variable (graph : GovernanceGraph)

/-- `_collect_affected_edges` -/
def collectAffectedEdges (adjacency : Dict GraphNodeIdentity (List ImpactStep))
    (closure : List GraphNodeIdentity) : List GraphEdge :=
  let hops := closure.flatMap (fun n => ((adjacency.get? n).getD []).filter
    (fun hop => hop.toNode ∈ closure))
  sortBy GraphEdge.logicalSortKey
    (Dict.index (fun hop => hop.edge.logicalIdentity) ImpactStep.edge hops).values

/-- `_associate_governance_assets` -/
def associateGovernanceAssets (impactCore : List GraphNodeIdentity) : List GraphNodeIdentity :=
  let assets := (impactCore.filter (fun n => n.kind.val ≠ nodeKindContract)).flatMap (fun n =>
    n :: n.ancestors.filter (fun a => a ∈ graph.nodes.map GraphNode.identity ∧
      a.kind.val ≠ nodeKindContract))
  sortedDistinct GraphNodeIdentity.canonicalBytes assets

/-- `_associate_contracts` -/
def associateContracts (impactCore : List GraphNodeIdentity) : List GraphNodeIdentity :=
  let governing := graph.edges.filter (fun e => e.kind.val = edgeKindGoverns ∧
    e.source.kind.val = nodeKindContract ∧ e.source ∈ graph.nodes.map GraphNode.identity)
  let contracts := impactCore.filter (fun n => n.kind.val = nodeKindContract) ++
    impactCore.flatMap (fun n => (n :: n.ancestors).flatMap (fun i =>
      (governing.filter (fun e => e.target = i)).map GraphEdge.source))
  sortedDistinct GraphNodeIdentity.canonicalBytes contracts

def policyRelevantKinds : List String :=
  [nodeKindDataSource, nodeKindDataset, nodeKindTable, nodeKindColumn]

/-- `_policy_relevant_nodes` -/
def policyRelevantNodes (assets : List GraphNodeIdentity) : List GraphNodeIdentity :=
  sortBy GraphNodeIdentity.canonicalBytes
    (assets.filter (fun n => n.kind.val ∈ policyRelevantKinds))

end Associations

/-- Deterministic downstream blast-radius analysis result. -/
structure GovernanceImpactResult where
  changedNodes : List GraphNodeIdentity
  directNodes : List GraphNodeIdentity
  transitiveNodes : List GraphNodeIdentity
  affectedEdges : List GraphEdge
  paths : List ImpactPath
  associatedContracts : List GraphNodeIdentity
  governanceAssets : List GraphNodeIdentity
  policyRelevantNodes : List GraphNodeIdentity

/-- `_normalize_identity_tuple` -/
def normalizeIdentityTuple (values : List GraphNodeIdentity) : List GraphNodeIdentity :=
  sortedDistinct GraphNodeIdentity.canonicalBytes values

/-- `_normalize_affected_edges` -/
def normalizeAffectedEdges (values : List GraphEdge) : Except ImpactError (List GraphEdge) := do
  let merged ← edgeMerging.mergeAll .conflictingEdge (fun _ => .ok ()) values
  return sortBy GraphEdge.logicalSortKey merged

def addPath (byTarget : Dict GraphNodeIdentity ImpactPath) (path : ImpactPath) :
    Except ImpactError (Dict GraphNodeIdentity ImpactPath) :=
  if byTarget.contains path.target then .error (.duplicateTarget path.target)
  else .ok (byTarget.set path.target path)

/-- `_normalize_paths` -/
def normalizePaths (values : List ImpactPath) : Except ImpactError (List ImpactPath) := do
  let byTarget ← values.foldlM addPath .empty
  return sortBy (fun p => p.target.canonicalBytes) byTarget.values

def GovernanceImpactResult.create (changedNodes directNodes transitiveNodes : List GraphNodeIdentity)
    (affectedEdges : List GraphEdge) (paths : List ImpactPath)
    (associatedContracts governanceAssets policyRelevant : List GraphNodeIdentity) :
    Except ImpactError GovernanceImpactResult := do
  let affectedEdges ← normalizeAffectedEdges affectedEdges
  let paths ← normalizePaths paths
  return ⟨normalizeIdentityTuple changedNodes, normalizeIdentityTuple directNodes,
    normalizeIdentityTuple transitiveNodes, affectedEdges, paths,
    normalizeIdentityTuple associatedContracts, normalizeIdentityTuple governanceAssets,
    normalizeIdentityTuple policyRelevant⟩

/-- Nodes whose recorded distance satisfies a condition, in canonical order. -/
def nodesAt (distance : Dict GraphNodeIdentity Nat) (p : Nat → Bool) : List GraphNodeIdentity :=
  sortBy GraphNodeIdentity.canonicalBytes
    ((distance.entries.filter (fun e => p e.2)).map Prod.fst)

/-- `analyze_downstream_impact` -/
def analyzeDownstreamImpact (graph : GovernanceGraph) (changedNodes : List GraphNodeIdentity) :
    Except ImpactError GovernanceImpactResult := do
  let roots ← normalizeChangedRoots graph changedNodes
  let adjacency := buildEffectiveAdjacency graph
  let st ← SearchState.search adjacency roots (graph.nodes.length + 1) roots
    ⟨Dict.index id (fun _ => 0) roots, .empty, .empty⟩
  let directNodes := nodesAt st.distance (fun d => d = 1)
  let transitiveNodes := nodesAt st.distance (fun d => d ≥ 2)
  let impactCore := distinct (roots ++ directNodes ++ transitiveNodes)
  let found ← (directNodes ++ transitiveNodes).mapM (SearchState.item st.bestPath)
  let assets := associateGovernanceAssets graph impactCore
  GovernanceImpactResult.create roots directNodes transitiveNodes
    (collectAffectedEdges adjacency impactCore) (sortBy (fun p => p.target.canonicalBytes) found)
    (associateContracts graph impactCore) assets (policyRelevantNodes assets)

end CollibraGovernance.Domain
