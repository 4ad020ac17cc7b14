import CollibraGovernance.Identity.JsonValues
import CollibraGovernance.Identity.Hashing
import CollibraGovernance.Library.Merge
import CollibraGovernance.Library.PyJson

/-! Vendor-neutral governance graph: nodes, edges and provenance in canonical order. -/
namespace CollibraGovernance.Domain
open Library Identity

def nodeKindDataSource : String := "data_source"
def nodeKindDataset : String := "dataset"
def nodeKindTable : String := "table"
def nodeKindColumn : String := "column"
def nodeKindContract : String := "contract"
def nodeKindTransformation : String := "transformation"

def edgeKindContains : String := "contains"
def edgeKindDependsOn : String := "depends_on"
def edgeKindGoverns : String := "governs"

/-- Stable node identity; a column always has a parent. -/
inductive GraphNodeIdentity where
  | root (nameSpace kind logicalId : Stripped) (h : kind.val ≠ nodeKindColumn)
  | child (nameSpace kind logicalId : Stripped) (parent : GraphNodeIdentity)
  deriving DecidableEq

namespace GraphNodeIdentity

def nameSpace : GraphNodeIdentity → Stripped
  | .root n _ _ _ => n
  | .child n _ _ _ => n

def kind : GraphNodeIdentity → Stripped
  | .root _ k _ _ => k
  | .child _ k _ _ => k

def logicalId : GraphNodeIdentity → Stripped
  | .root _ _ l _ => l
  | .child _ _ l _ => l

def parent : GraphNodeIdentity → Option GraphNodeIdentity
  | .root _ _ _ _ => none
  | .child _ _ _ p => some p

def create (nameSpace kind logicalId : String) (parent : Option GraphNodeIdentity) :
    Except String GraphNodeIdentity := do
  let nameSpace ← requireNonEmptyStr nameSpace "namespace"
  let kind ← requireNonEmptyStr kind "kind"
  let logicalId ← requireNonEmptyStr logicalId "logical_id"
  match parent with
  | some p => return .child nameSpace kind logicalId p
  | none =>
    if h : kind.val ≠ nodeKindColumn then return .root nameSpace kind logicalId h
    else .error "column identity requires parent"

/-- `to_canonical_list` -/
def toCanonicalList : GraphNodeIdentity → Json
  | .root n k l _ => .arr [.str n.val, .str k.val, .str l.val, .null]
  | .child n k l p => .arr [.str n.val, .str k.val, .str l.val, p.toCanonicalList]

def canonicalBytes (i : GraphNodeIdentity) : String := i.toCanonicalList.canonicalJson

def toDict : GraphNodeIdentity → Json
  | .root n k l _ => .obj [("kind", .str k.val), ("logical_id", .str l.val),
      ("namespace", .str n.val), ("parent", .null)]
  | .child n k l p => .obj [("kind", .str k.val), ("logical_id", .str l.val),
      ("namespace", .str n.val), ("parent", p.toDict)]

/-- The walk of `ancestors` up the parents, stopping at an identity it has seen. -/
def ancestorsFrom (seen : List GraphNodeIdentity) : GraphNodeIdentity → List GraphNodeIdentity
  | .root _ _ _ _ => []
  | .child _ _ _ p => if p ∈ seen then [] else p :: ancestorsFrom (p :: seen) p

def ancestors (i : GraphNodeIdentity) : List GraphNodeIdentity := ancestorsFrom [] i

lemma normalize_toCanonicalList (i : GraphNodeIdentity) :
    i.toCanonicalList.normalize = i.toCanonicalList := by
  induction i with
  | root n k l h => rfl
  | child n k l p ih => simp [toCanonicalList, ih]

lemma toCanonicalList_inj {i j : GraphNodeIdentity} (h : i.toCanonicalList = j.toCanonicalList) :
    i = j := by
  induction i generalizing j with
  | root n k l hk =>
    cases j with
    | root n' k' l' hk' =>
      simp only [toCanonicalList, Json.arr.injEq, List.cons.injEq, Json.str.injEq] at h
      obtain ⟨hn, hk, hl, -⟩ := h
      cases Stripped.ext hn
      cases Stripped.ext hk
      cases Stripped.ext hl
      rfl
    | child n' k' l' p' =>
      cases p' <;> simp [toCanonicalList] at h
  | child n k l p ih =>
    cases j with
    | root n' k' l' hk' =>
      cases p <;> simp [toCanonicalList] at h
    | child n' k' l' p' =>
      simp only [toCanonicalList, Json.arr.injEq, List.cons.injEq, Json.str.injEq] at h
      obtain ⟨hn, hk, hl, hp, -⟩ := h
      cases Stripped.ext hn
      cases Stripped.ext hk
      cases Stripped.ext hl
      rw [ih hp]

theorem canonicalBytes_inj : Function.Injective canonicalBytes := by
  intro i j h
  have hnormal := Json.canonicalJson_inj.mp h
  rw [normalize_toCanonicalList, normalize_toCanonicalList] at hnormal
  exact toCanonicalList_inj hnormal

lemma normalize_toDict (i : GraphNodeIdentity) : i.toDict.normalize = i.toDict := by
  have hkeys : SortedBy id ["kind", "logical_id", "namespace", "parent"] := by decide
  induction i with
  | root n k l h =>
    rw [toDict, Json.normalize_obj_of_sorted]
    · rfl
    · exact hkeys
  | child n k l p ih =>
    rw [toDict, Json.normalize_obj_of_sorted]
    · simp [ih]
    · exact hkeys

lemma toDict_inj {i j : GraphNodeIdentity} (h : i.toDict = j.toDict) : i = j := by
  induction i generalizing j with
  | root n k l hk =>
    cases j with
    | root n' k' l' hk' =>
      simp only [toDict, Json.obj.injEq, List.cons.injEq, Prod.mk.injEq, Json.str.injEq, true_and] at h
      obtain ⟨hk, hl, hn, -⟩ := h
      cases Stripped.ext hn
      cases Stripped.ext hk
      cases Stripped.ext hl
      rfl
    | child n' k' l' p' =>
      cases p' <;> simp [toDict] at h
  | child n k l p ih =>
    cases j with
    | root n' k' l' hk' =>
      cases p <;> simp [toDict] at h
    | child n' k' l' p' =>
      simp only [toDict, Json.obj.injEq, List.cons.injEq, Prod.mk.injEq, Json.str.injEq, true_and] at h
      obtain ⟨hk, hl, hn, hp, -⟩ := h
      cases Stripped.ext hn
      cases Stripped.ext hk
      cases Stripped.ext hl
      rw [ih hp]

/-- Number of ancestors. -/
def depth : GraphNodeIdentity → Nat
  | .root _ _ _ _ => 0
  | .child _ _ _ p => p.depth + 1

/-- No identity is its own ancestor, so the walk always reaches the root. -/
theorem ancestorsFrom_eq {i : GraphNodeIdentity} {seen : List GraphNodeIdentity}
    (hseen : ∀ s ∈ seen, i.depth ≤ s.depth) : ancestorsFrom seen i = ancestors i := by
  induction i generalizing seen with
  | root n k l hk => rfl
  | child n k l p ih =>
    have hfresh : p ∉ seen := by
      intro hp
      have := hseen p hp
      rw [depth] at this
      omega
    have hdeeper : ∀ s ∈ p :: seen, p.depth ≤ s.depth := by
      intro s hs
      cases List.mem_cons.mp hs with
      | inl h => rw [h]
      | inr h =>
        have := hseen s h
        rw [depth] at this
        omega
    rw [ancestors, ancestorsFrom, ancestorsFrom, if_neg hfresh, if_neg (List.not_mem_nil), ih hdeeper,
      ih (fun s hs => by rw [List.mem_singleton.mp hs])]

@[simp] theorem ancestors_root (n k l : Stripped) (h : k.val ≠ nodeKindColumn) :
    (root n k l h).ancestors = [] := rfl

@[simp] theorem ancestors_child (n k l : Stripped) (p : GraphNodeIdentity) :
    (child n k l p).ancestors = p :: p.ancestors := by
  rw [ancestors, ancestorsFrom, if_neg (List.not_mem_nil),
    ancestorsFrom_eq (fun s hs => by rw [List.mem_singleton.mp hs])]

end GraphNodeIdentity

inductive ObservationMode where
  | declared | observed | derived
  deriving DecidableEq

namespace ObservationMode

def value : ObservationMode → String
  | .declared => "declared"
  | .observed => "observed"
  | .derived => "derived"

def parse (s : String) : Option ObservationMode :=
  if s = "declared" then some .declared
  else if s = "observed" then some .observed
  else if s = "derived" then some .derived
  else none

lemma value_inj {a b : ObservationMode} (h : a.value = b.value) : a = b := by
  cases a <;> cases b <;> first | rfl | simp [value] at h

end ObservationMode

/-- Explicit provenance for declared, observed or derived metadata. -/
structure ProvenanceRecord where
  providerType : Stripped
  sourceRef : Stripped
  sourceVersion : Option Stripped
  observationMode : ObservationMode
  deriving DecidableEq

namespace ProvenanceRecord

def create (providerType sourceRef : String) (sourceVersion : Option String)
    (observationMode : String) : Except String ProvenanceRecord := do
  let providerType ← requireNonEmptyStr providerType "provider_type"
  let sourceRef ← requireNonEmptyStr sourceRef "source_ref"
  let sourceVersion ← match sourceVersion with
    | none => .ok none
    | some v =>
      if h : isBlank v = false then .ok (some (.of v h))
      else .error "source_version must be None or a non-empty string"
  let mode ← requireNonEmptyStr observationMode "observation_mode"
  match ObservationMode.parse mode.val with
  | some mode => return ⟨providerType, sourceRef, sourceVersion, mode⟩
  | none => .error "observation_mode must be one of: declared, observed, derived"

def versionJson (r : ProvenanceRecord) : Json :=
  match r.sourceVersion with
  | some v => .str v.val
  | none => .null

def toCanonicalList (r : ProvenanceRecord) : Json :=
  .arr [.str r.providerType.val, .str r.sourceRef.val, r.versionJson, .str r.observationMode.value]

def canonicalSortKey (r : ProvenanceRecord) : String := r.toCanonicalList.canonicalJson

def toDict (r : ProvenanceRecord) : Json :=
  .obj [("observation_mode", .str r.observationMode.value),
    ("provider_type", .str r.providerType.val), ("source_ref", .str r.sourceRef.val),
    ("source_version", r.versionJson)]

lemma versionJson_normalize (r : ProvenanceRecord) : r.versionJson.normalize = r.versionJson := by
  unfold versionJson
  cases r.sourceVersion <;> rfl

lemma versionJson_inj {r r' : ProvenanceRecord} (h : r.versionJson = r'.versionJson) :
    r.sourceVersion = r'.sourceVersion := by
  unfold versionJson at h
  split at h <;> split at h
  · rename_i hv _ _ hv'
    rw [hv, hv', Stripped.ext (Json.str.inj h)]
  · cases h
  · cases h
  · rename_i hv _ hv'
    rw [hv, hv']

theorem canonicalSortKey_inj : Function.Injective canonicalSortKey := by
  intro a b h
  have hnormal := Json.canonicalJson_inj.mp h
  simp only [toCanonicalList, Json.normalize_arr, List.map_cons, List.map_nil,
    versionJson_normalize, Json.normalize_str, Json.arr.injEq, List.cons.injEq, Json.str.injEq] at hnormal
  obtain ⟨hp, hs, hv, hm, -⟩ := hnormal
  have hv := versionJson_inj hv
  have hp := Stripped.ext hp
  have hs := Stripped.ext hs
  have hm := ObservationMode.value_inj hm
  cases a
  cases b
  simp_all

end ProvenanceRecord

/-- `_merge_provenance` -/
def mergeProvenance (records : List ProvenanceRecord) : List ProvenanceRecord :=
  sortedDistinct ProvenanceRecord.canonicalSortKey records

@[simp] theorem mem_mergeProvenance {records : List ProvenanceRecord} {r : ProvenanceRecord} :
    r ∈ mergeProvenance records ↔ r ∈ records := mem_sortedDistinct

theorem mergeProvenance_idem (records : List ProvenanceRecord) :
    mergeProvenance (mergeProvenance records) = mergeProvenance records :=
  sortedDistinct_idem ProvenanceRecord.canonicalSortKey_inj records

theorem mergeProvenance_congr {xs ys : List ProvenanceRecord} (h : ∀ r, r ∈ xs ↔ r ∈ ys) :
    mergeProvenance xs = mergeProvenance ys :=
  sortedDistinct_congr ProvenanceRecord.canonicalSortKey_inj h

/-- Immutable node with canonical attributes. -/
structure GraphNode where
  identity : GraphNodeIdentity
  name : Stripped
  description : Option String
  attributes : CanonicalObject
  provenance : List ProvenanceRecord
  provenance_merged : mergeProvenance provenance = provenance

namespace GraphNode

def create (identity : GraphNodeIdentity) (name : String) (description : Option String)
    (attributes : Option (List (String × Json))) (provenance : List ProvenanceRecord) :
    Except String GraphNode := do
  let name ← requireNonEmptyStr name "name"
  return ⟨identity, name, description, canonicalizeAttributesObject attributes,
    mergeProvenance provenance, mergeProvenance_idem provenance⟩

def materialPayload (n : GraphNode) : Stripped × Option String × CanonicalObject :=
  (n.name, n.description, n.attributes)

def toDict (n : GraphNode) : Json :=
  .obj [("attributes", .obj n.attributes.items),
    ("description", n.description.elim .null .str), ("identity", n.identity.toDict),
    ("name", .str n.name.val), ("provenance", .arr (n.provenance.map ProvenanceRecord.toDict))]

theorem ext {a b : GraphNode} (hi : a.identity = b.identity)
    (hp : a.materialPayload = b.materialPayload) (hprov : a.provenance = b.provenance) : a = b := by
  obtain ⟨i, n, d, at', p, hm⟩ := a
  simp only [materialPayload, Prod.mk.injEq] at hp
  obtain ⟨rfl, rfl, rfl⟩ := hp
  cases hi
  cases hprov
  rfl

/-- The node with the given provenance in place of its own. -/
def withProvenance (n : GraphNode) (records : List ProvenanceRecord) : GraphNode :=
  { n with
    provenance := mergeProvenance records
    provenance_merged := mergeProvenance_idem records }

end GraphNode

/-- Immutable directed edge. -/
structure GraphEdge where
  source : GraphNodeIdentity
  target : GraphNodeIdentity
  kind : Stripped
  attributes : CanonicalObject
  provenance : List ProvenanceRecord
  provenance_merged : mergeProvenance provenance = provenance

/-- Source, kind and target of an edge. -/
abbrev EdgeIdentity := GraphNodeIdentity × Stripped × GraphNodeIdentity

def EdgeIdentity.sortKey (i : EdgeIdentity) : String :=
  (Json.arr [i.1.toCanonicalList, .str i.2.1.val, i.2.2.toCanonicalList]).canonicalJson

theorem EdgeIdentity.sortKey_inj : Function.Injective EdgeIdentity.sortKey := by
  rintro ⟨s, k, t⟩ ⟨s', k', t'⟩ h
  have hnormal := Json.canonicalJson_inj.mp h
  simp only [Json.normalize_arr, List.map_cons, List.map_nil, Json.normalize_str,
    GraphNodeIdentity.normalize_toCanonicalList, Json.arr.injEq, List.cons.injEq,
    Json.str.injEq] at hnormal
  obtain ⟨hs, hk, ht, -⟩ := hnormal
  rw [GraphNodeIdentity.toCanonicalList_inj hs, Stripped.ext hk,
    GraphNodeIdentity.toCanonicalList_inj ht]

namespace GraphEdge

def create (source target : GraphNodeIdentity) (kind : String)
    (attributes : Option (List (String × Json))) (provenance : List ProvenanceRecord) :
    Except String GraphEdge := do
  let kind ← requireNonEmptyStr kind "kind"
  return ⟨source, target, kind, canonicalizeAttributesObject attributes,
    mergeProvenance provenance, mergeProvenance_idem provenance⟩

def logicalIdentity (e : GraphEdge) : EdgeIdentity := (e.source, e.kind, e.target)

def logicalSortKey (e : GraphEdge) : String := EdgeIdentity.sortKey e.logicalIdentity

def toDict (e : GraphEdge) : Json :=
  .obj [("attributes", .obj e.attributes.items), ("kind", .str e.kind.val),
    ("provenance", .arr (e.provenance.map ProvenanceRecord.toDict)),
    ("source", e.source.toDict), ("target", e.target.toDict)]

theorem ext {a b : GraphEdge} (hi : a.logicalIdentity = b.logicalIdentity)
    (hat : a.attributes = b.attributes) (hprov : a.provenance = b.provenance) : a = b := by
  obtain ⟨s, t, k, at', p, hm⟩ := a
  simp only [logicalIdentity, Prod.mk.injEq] at hi
  obtain ⟨rfl, rfl, rfl⟩ := hi
  cases hat
  cases hprov
  rfl

/-- The edge with the given provenance in place of its own. -/
def withProvenance (e : GraphEdge) (records : List ProvenanceRecord) : GraphEdge :=
  { e with
    provenance := mergeProvenance records
    provenance_merged := mergeProvenance_idem records }

end GraphEdge

/-- Why a family of parts is refused. -/
inductive GraphError where
  | conflictingNode (identity : GraphNodeIdentity)
  | missingAncestor (ancestor : GraphNodeIdentity)
  | missingSource (source : GraphNodeIdentity)
  | missingTarget (target : GraphNodeIdentity)
  | conflictingEdge (identity : EdgeIdentity)

/-- The texts of the refusals; which characters a `repr` prints is a table of the Unicode version. -/
def GraphError.message (isPrintable : Char → Bool) : GraphError → String
  | .conflictingNode i =>
    "conflicting GraphNode payload for identity " ++ i.toCanonicalList.pyRepr isPrintable
  | .missingAncestor a =>
    "parent identity not present in graph: " ++ a.toCanonicalList.pyRepr isPrintable
  | .missingSource s => "edge source not present in graph: " ++ s.toCanonicalList.pyRepr isPrintable
  | .missingTarget t => "edge target not present in graph: " ++ t.toCanonicalList.pyRepr isPrintable
  | .conflictingEdge i => "conflicting GraphEdge attributes for logical edge " ++
    (Json.arr [i.1.toCanonicalList, .str i.2.1.val, i.2.2.toCanonicalList]).pyRepr isPrintable

/-- How nodes of one identity are merged. -/
def nodeMerging : Merging GraphNode GraphNodeIdentity (Stripped × Option String × CanonicalObject)
    ProvenanceRecord where
  key := GraphNode.identity
  payload := GraphNode.materialPayload
  tags := GraphNode.provenance
  retag := GraphNode.withProvenance
  key_retag _ _ := rfl
  payload_retag _ _ := rfl
  mem_tags_retag _ _ _ _ := mem_mergeProvenance
  retag_congr _ _ _ _ hk hp _ _ ht := GraphNode.ext hk hp (mergeProvenance_congr ht)
  retag_self n := GraphNode.ext rfl rfl n.provenance_merged

/-- How edges of one logical identity are merged. -/
def edgeMerging : Merging GraphEdge EdgeIdentity CanonicalObject ProvenanceRecord where
  key := GraphEdge.logicalIdentity
  payload := GraphEdge.attributes
  tags := GraphEdge.provenance
  retag := GraphEdge.withProvenance
  key_retag _ _ := rfl
  payload_retag _ _ := rfl
  mem_tags_retag _ _ _ _ := mem_mergeProvenance
  retag_congr _ _ _ _ hk hp _ _ ht := GraphEdge.ext hk hp (mergeProvenance_congr ht)
  retag_self e := GraphEdge.ext rfl rfl e.provenance_merged

def mergeNodes (nodes : List GraphNode) : Except GraphError (List GraphNode) :=
  nodeMerging.mergeAll .conflictingNode (fun _ => .ok ()) nodes

/-- Every ancestor of the node is one of the merged nodes. -/
def requireAncestors (merged : List GraphNode) (n : GraphNode) : Except GraphError Unit :=
  match n.identity.ancestors.find? (fun a => a ∉ merged.map GraphNode.identity) with
  | some a => .error (.missingAncestor a)
  | none => .ok ()

/-- Both ends of the edge are among the merged nodes. -/
def requireEndpoints (merged : List GraphNode) (i : EdgeIdentity) : Except GraphError Unit :=
  if i.1 ∉ merged.map GraphNode.identity then .error (.missingSource i.1)
  else if i.2.2 ∉ merged.map GraphNode.identity then .error (.missingTarget i.2.2)
  else .ok ()

def mergeEdges (merged : List GraphNode) (edges : List GraphEdge) :
    Except GraphError (List GraphEdge) :=
  edgeMerging.mergeAll .conflictingEdge (requireEndpoints merged) edges

/-- `_normalize_governance_graph` -/
def normalizeGovernanceGraph (nodes : List GraphNode) (edges : List GraphEdge) :
    Except GraphError (List GraphNode × List GraphEdge) := do
  let mergedNodes ← mergeNodes nodes
  let _ ← mergedNodes.mapM (requireAncestors mergedNodes)
  let mergedEdges ← mergeEdges mergedNodes edges
  return (sortBy (fun n => n.identity.canonicalBytes) mergedNodes,
    sortBy GraphEdge.logicalSortKey mergedEdges)

end CollibraGovernance.Domain
