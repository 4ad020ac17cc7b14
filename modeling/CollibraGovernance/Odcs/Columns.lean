import CollibraGovernance.Odcs.Mapper
import CollibraGovernance.Library.LabelledTree

/-! How many columns a contract's property definitions become. -/
namespace CollibraGovernance.Odcs
open Library Identity Domain

/-- The property definitions under a place of the document, each labelled by its logical identity,
with those attached to its column as children. -/
abbrev Definitions := List (LabelledTree (Option Stripped))

mutual
/-- The definitions of a `properties` list. -/
def propertyDefinitions : Json → Definitions
  | .arr items => eachDefinition items
  | _ => []

def eachDefinition : List Json → Definitions
  | [] => []
  | j :: js => definition j ++ eachDefinition js

def definition : Json → Definitions
  | .obj members => [.node (logicalIdentity members)
      (nestedDefinitions members ++ itemsDefinitions members)]
  | _ => []

def nestedDefinitions : List (String × Json) → Definitions
  | [] => []
  | (k, v) :: rest => if k = "properties" then propertyDefinitions v else nestedDefinitions rest

def itemsDefinitions : List (String × Json) → Definitions
  | [] => []
  | (k, v) :: rest => if k = "items" then levelDefinitions v else itemsDefinitions rest

/-- The definitions at every level of a chain of `items`. -/
def levelDefinitions : Json → Definitions
  | .obj members => nestedDefinitions members ++ itemsDefinitions members
  | _ => []
end

/-- The named property definitions of a schema object, at every nesting position. -/
def definitionCount (schemaObj : List (String × Json)) : Nat :=
  LabelledTree.forestSize (nestedDefinitions schemaObj)

/-- The definitions attached to one parent have distinct logical identities, at every depth: those of
a property's own `properties` together with those of every level of its `items`. -/
def definitionsApart (schemaObj : List (String × Json)) : Bool :=
  LabelledTree.forestApart (nestedDefinitions schemaObj)

/-- The identity that a path of logical identities leads to, when all of them are there. -/
def columnIdentity (ns : Stripped) : GraphNodeIdentity → List (Option Stripped) → Option GraphNodeIdentity
  | parent, [] => some parent
  | _, none :: _ => none
  | parent, some logicalId :: path => columnIdentity ns (.child ns kindColumn logicalId parent) path

/-- Where a list of nodes holds a column for each path below the parent, in order. -/
def ColumnsOf (c : Contract) (parent : GraphNodeIdentity) (nodes : List GraphNode)
    (definitions : Definitions) : Prop :=
  nodes.map (fun n => some n.identity) =
    (LabelledTree.forestPaths definitions).map (columnIdentity c.nameSpace parent)

lemma ColumnsOf.append {c : Contract} {parent : GraphNodeIdentity} {ns ms : List GraphNode}
    {ds es : Definitions} (h : ColumnsOf c parent ns ds) (h' : ColumnsOf c parent ms es) :
    ColumnsOf c parent (ns ++ ms) (ds ++ es) := by
  unfold ColumnsOf at h h' ⊢
  rw [List.map_append, LabelledTree.forestPaths_append, List.map_append, h, h']

lemma columnsOf_nil (c : Contract) (parent : GraphNodeIdentity) : ColumnsOf c parent [] [] := rfl

theorem mapColumn_ok {c : Contract} {parent : GraphNodeIdentity} {path : String}
    {prop : List (String × Json)} {node : GraphNode} (h : mapColumn c parent path prop = .ok node) :
    ∃ logicalId name, logicalIdentity prop = some logicalId ∧
      strippedText (Json.lookup prop "name") = some name ∧
      node = entryNode c (.child c.nameSpace kindColumn logicalId parent) name prop
        (columnAttributes prop) := by
  obtain ⟨name, hname, h⟩ := bind_eq_ok.mp h
  unfold requireMappedStr at hname
  split at hname
  · cases hname
  · rename_i text htext
    cases hname
    split at h
    · cases h
    · rename_i logicalId hlogical
      obtain rfl := pure_eq_ok.mp h
      exact ⟨logicalId, name, hlogical, htext, rfl⟩

/-- The column of a definition, over the columns of what is attached to it. -/
lemma columnsOf_node {c : Contract} {parent : GraphNodeIdentity} {logicalId : Stripped}
    {node : GraphNode} {nodes : List GraphNode} {ds : Definitions}
    (hnode : node.identity = .child c.nameSpace kindColumn logicalId parent)
    (h : ColumnsOf c node.identity nodes ds) :
    ColumnsOf c parent (node :: nodes) [.node (some logicalId) ds] := by
  unfold ColumnsOf at h ⊢
  rw [List.map_cons, h, LabelledTree.forestPaths_singleton, LabelledTree.paths, List.map_cons,
    List.map_map, hnode]
  rfl

/-- The columns of the definitions at the member `properties`, given those of its value. -/
lemma nested_columnsOf {c : Contract} {parent : GraphNodeIdentity} {path : String}
    {members : List (String × Json)} {parts : MappedParts}
    (hvalue : ∀ m ∈ members, ∀ path parts, mapProperties c parent path m.2 = .ok parts →
      ColumnsOf c parent parts.nodes (propertyDefinitions m.2))
    (h : mapPropertiesMember c parent path members = .ok parts) :
    ColumnsOf c parent parts.nodes (nestedDefinitions members) := by
  induction members with
  | nil =>
    cases h
    exact columnsOf_nil c parent
  | cons m members ih =>
    obtain ⟨k, v⟩ := m
    simp only [mapPropertiesMember, nestedDefinitions] at h ⊢
    split at h
    · rename_i hk
      rw [if_pos hk]
      exact hvalue (k, v) (List.mem_cons_self ..) _ _ h
    · rename_i hk
      rw [if_neg hk]
      exact ih (fun m hm => hvalue m (List.mem_cons_of_mem _ hm)) h

lemma items_columnsOf {c : Contract} {parent : GraphNodeIdentity} {path : String}
    {members : List (String × Json)} {parts : MappedParts}
    (hvalue : ∀ m ∈ members, ∀ path parts, mapItemsProperties c parent path m.2 = .ok parts →
      ColumnsOf c parent parts.nodes (levelDefinitions m.2))
    (h : mapItemsMember c parent path members = .ok parts) :
    ColumnsOf c parent parts.nodes (itemsDefinitions members) := by
  induction members with
  | nil =>
    cases h
    exact columnsOf_nil c parent
  | cons m members ih =>
    obtain ⟨k, v⟩ := m
    simp only [mapItemsMember, itemsDefinitions] at h ⊢
    split at h
    · rename_i hk
      rw [if_pos hk]
      exact hvalue (k, v) (List.mem_cons_self ..) _ _ h
    · rename_i hk
      rw [if_neg hk]
      exact ih (fun m hm => hvalue m (List.mem_cons_of_mem _ hm)) h

/-- What the walk makes of a document as a list of properties, one property, and a level of items. -/
structure WalkColumns (c : Contract) (j : Json) : Prop where
  properties : ∀ parent path parts, mapProperties c parent path j = .ok parts →
    ColumnsOf c parent parts.nodes (propertyDefinitions j)
  property : ∀ parent path parts, mapProperty c parent path j = .ok parts →
    ColumnsOf c parent parts.nodes (definition j)
  items : ∀ parent path parts, mapItemsProperties c parent path j = .ok parts →
    ColumnsOf c parent parts.nodes (levelDefinitions j)

lemma walkColumns_leaf {c : Contract} {j : Json} (hp : ∀ parent path, mapProperties c parent path j = .ok .empty)
    (hd : propertyDefinitions j = []) (hp' : ∀ parent path, mapProperty c parent path j = .ok .empty)
    (hd' : definition j = []) (hi : ∀ parent path, mapItemsProperties c parent path j = .ok .empty)
    (hl : levelDefinitions j = []) : WalkColumns c j where
  properties parent path parts h := by
    cases (hp parent path).symm.trans h
    rw [hd]
    exact columnsOf_nil c parent
  property parent path parts h := by
    cases (hp' parent path).symm.trans h
    rw [hd']
    exact columnsOf_nil c parent
  items parent path parts h := by
    cases (hi parent path).symm.trans h
    rw [hl]
    exact columnsOf_nil c parent

lemma each_columnsOf {c : Contract} {items : List Json} (hitems : ∀ j ∈ items, WalkColumns c j)
    {parent : GraphNodeIdentity} {path : String} {index : Nat} {parts : MappedParts}
    (h : mapEachProperty c parent path index items = .ok parts) :
    ColumnsOf c parent parts.nodes (eachDefinition items) := by
  induction items generalizing index parts with
  | nil =>
    cases h
    exact columnsOf_nil c parent
  | cons j js ih =>
    obtain ⟨first, hfirst, h⟩ := bind_eq_ok.mp h
    obtain ⟨rest, hrest, h⟩ := bind_eq_ok.mp h
    obtain rfl := pure_eq_ok.mp h
    exact ((hitems j (List.mem_cons_self ..)).property parent _ first hfirst).append
      (ih (fun j hj => hitems j (List.mem_cons_of_mem _ hj)) hrest)

/-- The walk makes one column for each definition. -/
theorem walkColumns (c : Contract) (j : Json) : WalkColumns c j := by
  induction j using Json.induct with
  | null => exact walkColumns_leaf (fun _ _ => rfl) rfl (fun _ _ => rfl) rfl (fun _ _ => rfl) rfl
  | bool b => exact walkColumns_leaf (fun _ _ => rfl) rfl (fun _ _ => rfl) rfl (fun _ _ => rfl) rfl
  | int i => exact walkColumns_leaf (fun _ _ => rfl) rfl (fun _ _ => rfl) rfl (fun _ _ => rfl) rfl
  | float f => exact walkColumns_leaf (fun _ _ => rfl) rfl (fun _ _ => rfl) rfl (fun _ _ => rfl) rfl
  | str s => exact walkColumns_leaf (fun _ _ => rfl) rfl (fun _ _ => rfl) rfl (fun _ _ => rfl) rfl
  | arr items ih =>
    refine ⟨fun parent path parts h => each_columnsOf ih h, fun parent path parts h => ?_,
      fun parent path parts h => ?_⟩
    · cases h
      exact columnsOf_nil c parent
    · cases h
      exact columnsOf_nil c parent
  | obj members ih =>
    refine ⟨fun parent path parts h => ?_, fun parent path parts h => ?_, fun parent path parts h => ?_⟩
    · cases h
      exact columnsOf_nil c parent
    · obtain ⟨node, hnode, h⟩ := bind_eq_ok.mp h
      obtain ⟨nested, hnested, h⟩ := bind_eq_ok.mp h
      obtain ⟨items, hitems, h⟩ := bind_eq_ok.mp h
      obtain rfl := pure_eq_ok.mp h
      obtain ⟨logicalId, name, hlogical, _, rfl⟩ := mapColumn_ok hnode
      rw [definition, hlogical]
      exact columnsOf_node rfl
        ((nested_columnsOf (fun m hm path parts h => (ih m hm).properties _ path parts h) hnested).append
          (items_columnsOf (fun m hm path parts h => (ih m hm).items _ path parts h) hitems))
    · obtain ⟨here, hhere, h⟩ := bind_eq_ok.mp h
      obtain ⟨deeper, hdeeper, h⟩ := bind_eq_ok.mp h
      obtain rfl := pure_eq_ok.mp h
      rw [levelDefinitions]
      exact (nested_columnsOf (fun m hm path parts h => (ih m hm).properties _ path parts h) hhere).append
        (items_columnsOf (fun m hm path parts h => (ih m hm).items _ path parts h) hdeeper)

/-! ### Identities of columns -/

/-- The identity at the top of the chain of parents. -/
def rootOf : GraphNodeIdentity → GraphNodeIdentity
  | .root ns k l h => .root ns k l h
  | .child _ _ _ p => rootOf p

section Identity
variable {ns : Stripped} {p q i : GraphNodeIdentity} {xs ys : List (Option Stripped)}

lemma columnIdentity_depth (h : columnIdentity ns p xs = some i) : i.depth = p.depth + xs.length := by
  induction xs generalizing p with
  | nil =>
    cases h
    rfl
  | cons x xs ih =>
    cases x with
    | none => cases h
    | some l =>
      have := ih h
      rw [GraphNodeIdentity.depth] at this
      rw [this, List.length_cons]
      omega

lemma columnIdentity_root (h : columnIdentity ns p xs = some i) : rootOf i = rootOf p := by
  induction xs generalizing p with
  | nil =>
    cases h
    rfl
  | cons x xs ih =>
    cases x with
    | none => cases h
    | some l =>
      have hchild := ih h
      exact hchild

lemma columnIdentity_kind (h : columnIdentity ns p xs = some i) (hxs : xs ≠ []) :
    i.kind = kindColumn := by
  induction xs generalizing p with
  | nil => exact absurd rfl hxs
  | cons x xs ih =>
    cases x with
    | none => cases h
    | some l =>
      cases xs with
      | nil =>
        cases h
        rfl
      | cons y ys => exact ih h (List.cons_ne_nil _ _)

/-- Paths of one length lead to one identity only from one parent and along one path. -/
lemma columnIdentity_inj_of_length (h : columnIdentity ns p xs = some i)
    (h' : columnIdentity ns q ys = some i) (hlength : xs.length = ys.length) : p = q ∧ xs = ys := by
  induction xs generalizing p q ys with
  | nil =>
    cases ys with
    | nil => exact ⟨Option.some.inj (h.trans h'.symm), rfl⟩
    | cons y ys => cases hlength
  | cons x xs ih =>
    cases ys with
    | nil => cases hlength
    | cons y ys =>
      cases x with
      | none => cases h
      | some l =>
        cases y with
        | none => cases h'
        | some m =>
          have hx : columnIdentity ns (.child ns kindColumn l p) xs = some i := h
          have hy : columnIdentity ns (.child ns kindColumn m q) ys = some i := h'
          obtain ⟨hchild, hrest⟩ := ih hx hy (by simpa using hlength)
          cases hchild
          exact ⟨rfl, by rw [hrest]⟩

/-- Below one parent, different paths lead to different identities. -/
theorem columnIdentity_inj (h : columnIdentity ns p xs = some i) (h' : columnIdentity ns p ys = some i) :
    xs = ys := by
  have hx := columnIdentity_depth h
  have hy := columnIdentity_depth h'
  exact (columnIdentity_inj_of_length h h' (by omega)).2

end Identity

lemma ne_nil_of_mem_forestPaths {ds : Definitions} {path : List (Option Stripped)}
    (h : path ∈ LabelledTree.forestPaths ds) : path ≠ [] := by
  obtain ⟨t, _, ht⟩ := LabelledTree.exists_of_mem_forestPaths h
  obtain ⟨q, rfl⟩ := LabelledTree.exists_of_mem_paths ht
  exact List.cons_ne_nil _ _

/-- Distinct columns are those of definitions that are told apart. -/
theorem ColumnsOf.nodup_iff {c : Contract} {parent : GraphNodeIdentity} {nodes : List GraphNode}
    {ds : Definitions} (h : ColumnsOf c parent nodes ds) :
    (nodes.map GraphNode.identity).Nodup ↔ LabelledTree.forestApart ds = true := by
  have hsome : (nodes.map GraphNode.identity).Nodup ↔ (nodes.map fun n => some n.identity).Nodup := by
    rw [← List.nodup_map_iff (Option.some_injective GraphNodeIdentity), List.map_map]
    rfl
  rw [hsome, h, ← LabelledTree.forestPaths_nodup_iff]
  refine ⟨List.Nodup.of_map _, fun hpaths => List.Nodup.map_on (fun xs hxs ys _ heq => ?_) hpaths⟩
  have hmem : columnIdentity c.nameSpace parent xs ∈ nodes.map fun n => some n.identity := by
    rw [h]
    exact List.mem_map_of_mem hxs
  obtain ⟨n, _, hn⟩ := List.mem_map.mp hmem
  exact columnIdentity_inj hn.symm (heq ▸ hn.symm)

theorem ColumnsOf.length {c : Contract} {parent : GraphNodeIdentity} {nodes : List GraphNode}
    {ds : Definitions} (h : ColumnsOf c parent nodes ds) :
    nodes.length = LabelledTree.forestSize ds := by
  have hlength := congrArg List.length h
  rwa [List.length_map, List.length_map, LabelledTree.length_forestPaths] at hlength

theorem ColumnsOf.mem {c : Contract} {parent : GraphNodeIdentity} {nodes : List GraphNode}
    {ds : Definitions} (h : ColumnsOf c parent nodes ds) {n : GraphNode} (hn : n ∈ nodes) :
    n.identity.kind = kindColumn ∧ rootOf n.identity = rootOf parent := by
  have hmem : some n.identity ∈ (LabelledTree.forestPaths ds).map (columnIdentity c.nameSpace parent) := by
    rw [← h]
    exact List.mem_map_of_mem (f := fun n : GraphNode => some n.identity) hn
  obtain ⟨xs, hxs, heq⟩ := List.mem_map.mp hmem
  exact ⟨columnIdentity_kind heq (ne_nil_of_mem_forestPaths hxs), columnIdentity_root heq⟩

/-! ### The columns of one dataset in the graph -/

def isColumnOf (dataset i : GraphNodeIdentity) : Bool := i.kind = kindColumn ∧ rootOf i = dataset

/-- The column nodes of a graph that belong to a dataset. -/
def columnCount (graph : GovernanceGraph) (dataset : GraphNodeIdentity) : Nat :=
  (graph.nodes.filter fun n => isColumnOf dataset n.identity).length

/-- The graph holds each identity of its parts once. -/
theorem columnCount_eq {nodes : List GraphNode} {edges : List GraphEdge} {graph : GovernanceGraph}
    (h : GovernanceGraph.fromParts nodes edges = .ok graph) (dataset : GraphNodeIdentity) :
    columnCount graph dataset =
      ((nodes.map GraphNode.identity).filter (isColumnOf dataset)).dedup.length := by
  have hholds := GovernanceGraph.holds_of_fromParts h
  have hmap : columnCount graph dataset =
      ((graph.nodes.map GraphNode.identity).filter (isColumnOf dataset)).length := by
    rw [List.filter_map, List.length_map]
    rfl
  rw [hmap]
  apply List.Perm.length_eq
  rw [List.perm_ext_iff_of_nodup (hholds.nodes_once.filter _) (List.nodup_dedup _)]
  intro i
  simp only [List.mem_dedup, List.mem_filter, hholds.node_identities]

lemma length_dedup_eq_iff {α : Type*} [DecidableEq α] {xs : List α} :
    xs.dedup.length = xs.length ↔ xs.Nodup := by
  constructor
  · intro h
    rw [← (List.dedup_sublist xs).eq_of_length h]
    exact List.nodup_dedup xs
  · intro h
    rw [h.dedup]

theorem assertUniqueSiblings_ok {seen : List Stripped} {path : String} {index : Nat}
    {entries : List (List (String × Json))}
    (h : assertUniqueSiblings seen path index entries = .ok ()) :
    (entries.filterMap logicalIdentity).Nodup ∧ ∀ l ∈ entries.filterMap logicalIdentity, l ∉ seen := by
  induction entries generalizing seen index with
  | nil => exact ⟨List.nodup_nil, fun l hl => absurd hl List.not_mem_nil⟩
  | cons entry entries ih =>
    rw [assertUniqueSiblings] at h
    split at h
    · rename_i hnone
      rw [List.filterMap_cons_none hnone]
      exact ih h
    · rename_i l hsome
      split at h
      · cases h
      · rename_i hnew
        obtain ⟨hnodup, hfresh⟩ := ih h
        rw [List.filterMap_cons_some hsome]
        refine ⟨List.nodup_cons.mpr ⟨fun hl => hfresh l hl (List.mem_cons_self ..), hnodup⟩, ?_⟩
        intro m hm
        rcases List.mem_cons.mp hm with rfl | hm
        · exact hnew
        · exact fun hseen => hfresh m hm (List.mem_cons_of_mem _ hseen)

/-- The logical identity of a schema object. -/
def datasetId : Json → Option Stripped
  | .obj schemaObj => logicalIdentity schemaObj
  | _ => none

lemma filterMap_mappings (items : List Json) :
    (mappings items).filterMap logicalIdentity = items.filterMap datasetId := by
  rw [mappings, List.filterMap_filterMap]
  congr 1
  funext j
  cases j <;> rfl

theorem dataset_kind_ne : kindDataset ≠ kindColumn := by decide
theorem contract_kind_ne : kindContract ≠ kindColumn := by decide

def datasetIdentity (ns logicalId : Stripped) : GraphNodeIdentity :=
  .root ns kindDataset logicalId dataset_ne_column

/-- A schema object becomes its dataset with its columns. -/
theorem mapSchemaObject_ok {c : Contract} {contract : GraphNodeIdentity} {path : String}
    {schemaObj : List (String × Json)} {parts : MappedParts}
    (h : mapSchemaObject c contract path (.obj schemaObj) = .ok parts) :
    ∃ logicalId node columns, logicalIdentity schemaObj = some logicalId ∧
      parts.nodes = node :: columns ∧ node.identity = datasetIdentity c.nameSpace logicalId ∧
      ColumnsOf c node.identity columns (nestedDefinitions schemaObj) := by
  obtain ⟨name, _, h⟩ := bind_eq_ok.mp h
  split at h
  · cases h
  · rename_i logicalId hlogical
    obtain ⟨columns, hcolumns, h⟩ := bind_eq_ok.mp h
    obtain rfl := pure_eq_ok.mp h
    exact ⟨logicalId, _, columns.nodes, hlogical, rfl, rfl,
      nested_columnsOf (fun m _ path parts h => (walkColumns c m.2).properties _ path parts h) hcolumns⟩

/-- The columns of a dataset come from its own schema object. -/
theorem filter_mapSchemaObject {c : Contract} {contract : GraphNodeIdentity} {path : String} {j : Json}
    {parts : MappedParts} (h : mapSchemaObject c contract path j = .ok parts) {logicalId : Stripped}
    (hne : datasetId j ≠ some logicalId) :
    (parts.nodes.map GraphNode.identity).filter
      (isColumnOf (datasetIdentity c.nameSpace logicalId)) = [] := by
  rw [List.filter_eq_nil_iff]
  intro i hi
  obtain ⟨n, hn, rfl⟩ := List.mem_map.mp hi
  cases j with
  | obj schemaObj =>
    obtain ⟨own, node, columns, hown, hnodes, hnode, hcolumns⟩ := mapSchemaObject_ok h
    rw [hnodes] at hn
    rcases List.mem_cons.mp hn with rfl | hn
    · rw [hnode]
      have hkind : (datasetIdentity c.nameSpace own).kind ≠ kindColumn := dataset_kind_ne
      simp only [isColumnOf, hkind, false_and, decide_false, Bool.false_eq_true, not_false_eq_true]
    · obtain ⟨_, hroot⟩ := hcolumns.mem hn
      rw [hnode] at hroot
      simp only [isColumnOf, hroot, datasetIdentity, rootOf, decide_eq_true_eq, not_and]
      intro _ heq
      cases heq
      exact hne hown
  | _ =>
    cases h
    cases hn

theorem requireNamespace_ok {nameSpace : String} {ns : Stripped}
    (h : requireNamespace nameSpace = .ok ns) : strippedText (some (.str nameSpace)) = some ns := by
  unfold requireNamespace at h
  split at h
  · cases h
  · rename_i text htext
    cases h
    exact htext

/-- What an accepted contract went through. -/
theorem mapOdcsDocument_ok {schemaErrors : Json → List OdcsDiagnostic} {casefold : String → String}
    {document : Json} {nameSpace : String} {result : GovernanceMappingResult}
    (h : mapOdcsDocumentWithObservations schemaErrors casefold document nameSpace = .ok result) :
    ∃ ns members parts, strippedText (some (.str nameSpace)) = some ns ∧
      validateOdcsDocument schemaErrors document = .ok members ∧
      assertSiblingIdentityUniqueness members = .ok () ∧
      mapContract casefold members ns = .ok parts ∧ parts.result = .ok result := by
  obtain ⟨ns, hns, h⟩ := bind_eq_ok.mp h
  obtain ⟨members, hmembers, h⟩ := bind_eq_ok.mp h
  obtain ⟨_, hsiblings, h⟩ := bind_eq_ok.mp h
  obtain ⟨parts, hparts, h⟩ := bind_eq_ok.mp h
  exact ⟨ns, members, parts, requireNamespace_ok hns, hmembers, hsiblings, hparts,
    mapError_eq_ok.mp h⟩

theorem validateOdcsDocument_ok {schemaErrors : Json → List OdcsDiagnostic} {document : Json}
    {members : List (String × Json)} (h : validateOdcsDocument schemaErrors document = .ok members) :
    document = .obj members := by
  unfold validateOdcsDocument at h
  split at h
  · cases h
  · split at h
    · split at h
      · cases h
      · split at h
        · cases h
        · split at h
          · cases h
          · cases h
            rfl
    · cases h

theorem datasetIds_nodup {members : List (String × Json)}
    (h : assertSiblingIdentityUniqueness members = .ok ()) :
    ((schemaEntries members).filterMap datasetId).Nodup := by
  unfold assertSiblingIdentityUniqueness at h
  unfold schemaEntries
  split at h
  · rename_i entries hentries
    obtain ⟨_, hunique, _⟩ := bind_eq_ok.mp h
    rw [← filterMap_mappings]
    exact (assertUniqueSiblings_ok hunique).1
  · exact List.nodup_nil

/-- The contract's own node, and the parts of each schema object. -/
theorem mapContract_ok {casefold : String → String} {members : List (String × Json)} {ns : Stripped}
    {parts : MappedParts} (h : mapContract casefold members ns = .ok parts) :
    ∃ c contract node datasets, c.nameSpace = ns ∧ node.identity.kind = kindContract ∧
      List.Forall₂ (fun e p => mapSchemaObject c contract ("/schema/" ++ toString e.2) e.1 = .ok p)
        (schemaEntries members).zipIdx datasets ∧
      parts.nodes = node :: datasets.flatMap MappedParts.nodes := by
  obtain ⟨contractId, _, h⟩ := bind_eq_ok.mp h
  obtain ⟨contractVersion, _, h⟩ := bind_eq_ok.mp h
  obtain ⟨attributes, _, h⟩ := bind_eq_ok.mp h
  obtain ⟨datasets, hdatasets, h⟩ := bind_eq_ok.mp h
  obtain rfl := pure_eq_ok.mp h
  exact ⟨⟨ns, odcsProvenance contractId contractVersion⟩, _, _, datasets, rfl, rfl,
    mapM_eq_ok.mp hdatasets, rfl⟩

lemma filter_nodes_nil {c : Contract} {contract : GraphNodeIdentity} {logicalId : Stripped}
    {entries : List (Json × Nat)} {datasets : List MappedParts}
    (hall : List.Forall₂ (fun e p => mapSchemaObject c contract ("/schema/" ++ toString e.2) e.1 = .ok p)
      entries datasets)
    (hne : ∀ e ∈ entries, datasetId e.1 ≠ some logicalId) :
    ((datasets.flatMap MappedParts.nodes).map GraphNode.identity).filter
      (isColumnOf (datasetIdentity c.nameSpace logicalId)) = [] := by
  induction hall with
  | nil => rfl
  | cons hep _ ih =>
    rw [List.flatMap_cons, List.map_append, List.filter_append,
      filter_mapSchemaObject hep (hne _ (List.mem_cons_self ..)),
      ih fun e he => hne e (List.mem_cons_of_mem _ he), List.append_nil]

lemma forall₂_append_left {α β : Type*} {R : α → β → Prop} {xs ys : List α} {zs : List β}
    (h : List.Forall₂ R (xs ++ ys) zs) :
    ∃ us vs, List.Forall₂ R xs us ∧ List.Forall₂ R ys vs ∧ zs = us ++ vs := by
  induction xs generalizing zs with
  | nil => exact ⟨[], zs, .nil, h, rfl⟩
  | cons x xs ih =>
    obtain ⟨z, zs, hx, hrest, rfl⟩ := List.forall₂_cons_left_iff.mp h
    obtain ⟨us, vs, hus, hvs, rfl⟩ := ih hrest
    exact ⟨z :: us, vs, .cons hx hus, hvs, rfl⟩

/-- The columns of a dataset among all parts are those of its schema object. -/
theorem columns_of_schemaObject {casefold : String → String} {members : List (String × Json)}
    {ns : Stripped} {parts : MappedParts} (h : mapContract casefold members ns = .ok parts)
    (hunique : ((schemaEntries members).filterMap datasetId).Nodup)
    {schemaObj : List (String × Json)} (hmem : Json.obj schemaObj ∈ schemaEntries members)
    {logicalId : Stripped} (hlogical : logicalIdentity schemaObj = some logicalId) :
    ∃ c columns, c.nameSpace = ns ∧ ColumnsOf c (datasetIdentity ns logicalId) columns
        (nestedDefinitions schemaObj) ∧
      (parts.nodes.map GraphNode.identity).filter (isColumnOf (datasetIdentity ns logicalId)) =
        columns.map GraphNode.identity := by
  obtain ⟨c, contract, node, datasets, rfl, hkind, hall, hnodes⟩ := mapContract_ok h
  obtain ⟨n, hn⟩ := List.mem_iff_getElem?.mp hmem
  have hzip : (Json.obj schemaObj, n) ∈ (schemaEntries members).zipIdx :=
    List.mem_zipIdx_iff_getElem?.mpr hn
  obtain ⟨before, after, hsplit⟩ := List.append_of_mem hzip
  have hfst := congrArg (List.map Prod.fst) hsplit
  rw [List.zipIdx_map_fst, List.map_append, List.map_cons] at hfst
  have hlid : datasetId (Json.obj schemaObj) = some logicalId := hlogical
  rw [hfst, List.filterMap_append, List.filterMap_cons_some hlid] at hunique
  obtain ⟨_, hafter, hdisjoint⟩ := List.nodup_append.mp hunique
  have hbeforeNe : ∀ e ∈ before, datasetId e.1 ≠ some logicalId := fun e he heq =>
    hdisjoint logicalId (List.mem_filterMap.mpr ⟨e.1, List.mem_map_of_mem he, heq⟩) logicalId
      (List.mem_cons_self ..) rfl
  have hafterNe : ∀ e ∈ after, datasetId e.1 ≠ some logicalId := fun e he heq =>
    (List.nodup_cons.mp hafter).1 (List.mem_filterMap.mpr ⟨e.1, List.mem_map_of_mem he, heq⟩)
  rw [hsplit] at hall
  obtain ⟨ps, rest, hps, hrest, rfl⟩ := forall₂_append_left hall
  obtain ⟨p, qs, hp, hqs, rfl⟩ := List.forall₂_cons_left_iff.mp hrest
  obtain ⟨own, dataset, columns, hown, hpnodes, hdataset, hcolumns⟩ := mapSchemaObject_ok hp
  obtain rfl := Option.some.inj (hown.symm.trans hlogical)
  rw [hdataset] at hcolumns
  refine ⟨c, columns, rfl, hcolumns, ?_⟩
  have hnode : isColumnOf (datasetIdentity c.nameSpace own) node.identity = false := by
    simp [isColumnOf, hkind, contract_kind_ne]
  have hdatasetNode : isColumnOf (datasetIdentity c.nameSpace own) dataset.identity = false := by
    have hne : (datasetIdentity c.nameSpace own).kind ≠ kindColumn := dataset_kind_ne
    simp [isColumnOf, hdataset, hne]
  have hcolumnsAll : (columns.map GraphNode.identity).filter
      (isColumnOf (datasetIdentity c.nameSpace own)) = columns.map GraphNode.identity := by
    rw [List.filter_eq_self]
    intro i hi
    obtain ⟨m, hm, rfl⟩ := List.mem_map.mp hi
    obtain ⟨hmkind, hmroot⟩ := hcolumns.mem hm
    simp only [isColumnOf, hmkind, hmroot, datasetIdentity, rootOf, and_self, decide_true]
  rw [hnodes, List.map_cons, List.filter_cons_of_neg (by rw [hnode]; exact Bool.false_ne_true),
    List.flatMap_append, List.flatMap_cons, List.map_append, List.map_append, List.filter_append,
    List.filter_append, filter_nodes_nil hps hbeforeNe, filter_nodes_nil hqs hafterNe, hpnodes,
    List.map_cons, List.filter_cons_of_neg (by rw [hdatasetNode]; exact Bool.false_ne_true),
    hcolumnsAll, List.nil_append, List.append_nil]

/-- A schema object of an accepted contract has one column for each of its property definitions
exactly when the definitions attached to each column are told apart by their logical identities. -/
theorem columnCount_eq_definitionCount_iff {schemaErrors : Json → List OdcsDiagnostic}
    {casefold : String → String} {document : List (String × Json)} {nameSpace : String}
    {result : GovernanceMappingResult}
    (h : mapOdcsDocumentWithObservations schemaErrors casefold (.obj document) nameSpace = .ok result)
    {ns : Stripped} (hns : strippedText (some (.str nameSpace)) = some ns)
    {schemaObj : List (String × Json)} (hmem : Json.obj schemaObj ∈ schemaEntries document)
    {logicalId : Stripped} (hlogical : logicalIdentity schemaObj = some logicalId) :
    columnCount result.graph (datasetIdentity ns logicalId) = definitionCount schemaObj ↔
      definitionsApart schemaObj = true := by
  obtain ⟨ns', members, parts, hns', hvalid, hsiblings, hparts, hresult⟩ := mapOdcsDocument_ok h
  obtain rfl := Option.some.inj (hns'.symm.trans hns)
  cases validateOdcsDocument_ok hvalid
  obtain ⟨c, columns, rfl, hcolumns, hfilter⟩ :=
    columns_of_schemaObject hparts (datasetIds_nodup hsiblings) hmem hlogical
  rw [columnCount_eq (MappedParts.result_eq_ok.mp hresult).1, hfilter, definitionCount,
    ← hcolumns.length, ← List.length_map (f := GraphNode.identity), length_dedup_eq_iff,
    hcolumns.nodup_iff]
  rfl

/-! ### A property repeated at two levels of `items` -/

theorem sample_nonblank : isBlank "n" = false := by decide
theorem orders_nonblank : isBlank "orders" = false := by decide

def sampleNamespace : Stripped := .of "n" sample_nonblank
def ordersId : Stripped := .of "orders" orders_nonblank

def skuProperty : Json := .obj [("name", .str "sku"), ("logicalType", .str "string")]

def innerItems : Json := .obj [("logicalType", .str "object"), ("properties", .arr [skuProperty])]

/-- A property that holds arrays of objects, with the given properties at the outer level. Where no logical type is
stated, the schema allows `properties` beside `items`. -/
def batchesProperty (outer : List Json) : List (String × Json) :=
  [("name", .str "batches"),
   ("items", .obj [("properties", .arr outer), ("items", innerItems)])]

def ordersObject (outer : List Json) : List (String × Json) :=
  [("name", .str "orders"), ("properties", .arr [.obj (batchesProperty outer)])]

def contractHead : List (String × Json) :=
  [("apiVersion", .str "v3.1.0"), ("kind", .str "DataContract"), ("id", .str "c"), ("version", .str "1"),
   ("status", .str "active")]

def ordersContract (outer : List Json) : List (String × Json) :=
  contractHead ++ [("schema", .arr [.obj (ordersObject outer)])]

/-- What the pinned schema requires of a contract as a whole. -/
def requiredErrors : Json → List OdcsDiagnostic
  | .obj members =>
    (["version", "apiVersion", "kind", "id", "status"].filter fun key => key ∉ members.map Prod.fst).map fun key =>
      ⟨"odcs_schema_error", "", "'" ++ key ++ "' is a required property"⟩
  | _ => [⟨"odcs_schema_error", "", "is not of type 'object'"⟩]

/-- The count of the columns that the mapper makes for the orders. -/
def ordersColumns (outer : List Json) : Option Nat :=
  (mapOdcsDocumentWithObservations requiredErrors id (.obj (ordersContract outer)) "n").toOption.map
    fun result => columnCount result.graph (datasetIdentity sampleNamespace ordersId)

theorem orders_accepted : ∃ result, mapOdcsDocumentWithObservations requiredErrors id
    (.obj (ordersContract [])) "n" = .ok result := exists_ok (by decide)

theorem orders_columns_kept : ∃ result, mapOdcsDocumentWithObservations requiredErrors id
    (.obj (ordersContract [])) "n" = .ok result ∧
    columnCount result.graph (datasetIdentity sampleNamespace ordersId) =
      definitionCount (ordersObject []) := by
  obtain ⟨result, h⟩ := orders_accepted
  exact ⟨result, h, (columnCount_eq_definitionCount_iff h rfl (by decide) rfl).mpr (by decide)⟩

/-- Of three definitions, the two at different levels of `items` become one column. -/
theorem levels_merged : ∃ result, mapOdcsDocumentWithObservations requiredErrors id
    (.obj (ordersContract [skuProperty])) "n" = .ok result ∧
    columnCount result.graph (datasetIdentity sampleNamespace ordersId) = 2 ∧
    definitionCount (ordersObject [skuProperty]) = 3 := by
  have hcolumns : ordersColumns [skuProperty] = some 2 := by decide
  obtain ⟨result, hresult, hcount⟩ := toOption_map_eq_some.mp hcolumns
  exact ⟨result, hresult, hcount, by decide⟩

end CollibraGovernance.Odcs
