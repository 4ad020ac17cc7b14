import CollibraGovernance.Dbt.Validate

/-! Mapping of a validated dbt manifest into a governance graph with observations. -/
namespace CollibraGovernance.Dbt
open Library Identity Domain
open Odcs (strippedText textOf mappings)

/-- `_mapping_error` -/
def mappingError (path message : String) : DbtError := .mapping [⟨codeMapping, path, message⟩]

def requireNamespace (nameSpace : String) : Checked Stripped :=
  match strippedText (some (.str nameSpace)) with
  | none => .error (mappingError "" "namespace is required")
  | some ns => .ok ns

def requireDefaultDatabase (defaultDatabase : Option String) : Checked (Option Stripped) :=
  match defaultDatabase with
  | none => .ok none
  | some text =>
    match strippedText (some (.str text)) with
    | none => .error (mappingError "" "default_database must be a non-empty string when provided")
    | some database => .ok (some database)

/-! ### Normalized members -/

/-- `_normalize_description` -/
def normalizeDescription : Option Json → Option String
  | some (.str text) => if isBlank text = true then none else some text
  | _ => none

/-- `_normalize_tags` -/
def normalizeTags : Option Json → List String
  | some (.arr items) => sortedDistinct id (items.filterMap textOf)
  | _ => []

/-- `_normalize_constraints`: one of equally written objects, in the order of their texts. -/
def normalizeConstraints : Json → List Json
  | .arr items => sortBy Json.canonicalJson
      (Dict.index Json.canonicalJson id ((mappings items).map Json.obj)).values
  | _ => []

/-- The member of an object, under a name, where the object is an object and the member is there. -/
def member (value : Json) (key : String) : Option Json :=
  match value with
  | .obj members => Json.lookup members key
  | _ => none

def isEphemeral (model : Members) : Bool :=
  (Json.lookup model "config").bind (member · "materialized") = some (.str "ephemeral")

/-! ### Attributes -/

def tagAttributes (resource : Members) : Members :=
  match normalizeTags (Json.lookup resource "tags") with
  | [] => []
  | tags => [("tags", .arr (tags.map .str))]

def metaAttributes (resource : Members) : Members :=
  match Json.lookup resource "meta" with
  | some (.obj (m :: ms)) => [("meta", .obj (m :: ms))]
  | _ => []

/-- `_common_resource_attrs` -/
def commonResourceAttrs (resource : Members) (resourceType : String) : Members :=
  [("dbt_resource_type", .str resourceType), ("dbt_name", Json.get resource "name"),
    ("package_name", Json.get resource "package_name")] ++
  (match Json.lookup resource "fqn" with
    | some (.arr fqn) => [("fqn", .arr fqn)]
    | _ => []) ++
  tagAttributes resource ++ metaAttributes resource

def modelAttributes (model : Members) : Members :=
  commonResourceAttrs model resourceTypeModel ++
  match (Json.lookup model "config").bind (member · "materialized") with
  | some (.str materialized) => if materialized = "" then [] else [("materialized", .str materialized)]
  | _ => []

def sourceAttributes (source : Members) : Members :=
  commonResourceAttrs source resourceTypeSource ++ [("source_name", Json.get source "source_name")] ++
  match Json.lookup source "loader" with
  | some (.str loader) => if isBlank loader = true then [] else [("loader", .str loader)]
  | _ => []

/-- A member that is copied unless it is null. -/
def givenMember (column : Members) (key : String) : Members :=
  match Json.lookup column key with
  | none => []
  | some .null => []
  | some value => [(key, value)]

def columnAttributes (column : Members) : Members :=
  givenMember column "data_type" ++ tagAttributes column ++ metaAttributes column ++ givenMember column "quote" ++
  match (Json.lookup column "constraints").map normalizeConstraints with
  | none => []
  | some [] => []
  | some constraints => [("constraints", .arr constraints)]

/-! ### Resources -/

/-- What all resources of a manifest share. -/
structure Context where
  nameSpace : Stripped
  defaultDatabase : Option Stripped
  dbtVersion : Stripped

theorem dbt_nonblank : isBlank "dbt" = false := by decide

/-- `_dbt_provenance` -/
def dbtProvenance (uniqueId dbtVersion : Stripped) : ProvenanceRecord :=
  ⟨.of "dbt" dbt_nonblank, uniqueId, some dbtVersion, .declared⟩

/-- Where a resource stands in the graph: an ephemeral model for itself, any other resource in its database. -/
inductive Placement where
  | transformation (logicalId : Stripped)
  | relation (database schema table : Stripped)
  deriving DecidableEq

def databaseIdentity (ns database : Stripped) : GraphNodeIdentity :=
  .root ns kindDataSource database dataSource_ne_column

def schemaIdentity (ns database schema : Stripped) : GraphNodeIdentity :=
  .child ns kindDataset schema (databaseIdentity ns database)

def Placement.identity (ns : Stripped) : Placement → GraphNodeIdentity
  | transformation logicalId => .root ns kindTransformation logicalId transformation_ne_column
  | relation database schema table => .child ns kindTable table (schemaIdentity ns database schema)

structure Column where
  name : Stripped
  description : Option String
  attributes : CanonicalObject

/-- A model or a source, as it is mapped. -/
structure Resource where
  uniqueId : String
  record : ProvenanceRecord
  placement : Placement
  name : Stripped
  description : Option String
  attributes : CanonicalObject
  columns : List Column

namespace Resource

def identity (ns : Stripped) (r : Resource) : GraphNodeIdentity := r.placement.identity ns

def node (ns : Stripped) (r : Resource) : GraphNode :=
  ⟨r.identity ns, r.name, r.description, r.attributes, mergeProvenance [r.record], mergeProvenance_idem [r.record]⟩

def columnIdentity (ns : Stripped) (r : Resource) (column : Column) : GraphNodeIdentity :=
  .child ns kindColumn column.name (r.identity ns)

def columnNode (ns : Stripped) (r : Resource) (column : Column) : GraphNode :=
  ⟨r.columnIdentity ns column, column.name, column.description, column.attributes, mergeProvenance [r.record],
    mergeProvenance_idem [r.record]⟩

/-- The column with its observations and the edge that leads to it. -/
def columnParts (ns : Stripped) (r : Resource) (column : Column) : MappedParts :=
  .observed (r.columnNode ns column) r.record [mappedEdge (r.identity ns) (r.columnIdentity ns column) kindContains []]

end Resource

/-- A text that the validator has required. -/
def requiredText (members : Members) (key : String) : Checked Stripped :=
  match strippedText (Json.lookup members key) with
  | some text => .ok text
  | none => .error (.uncaught key)

/-- `_map_columns`, up to the collecting of parts. -/
def readColumn (column : Members) : Checked Column := do
  let name ← requiredText column "name"
  return ⟨name, normalizeDescription (Json.lookup column "description"),
    canonicalizeAttributesObject (some (columnAttributes column))⟩

def readColumns : Option Json → Checked (List Column)
  | some (.obj columns) => (mappings (columns.map Prod.snd)).mapM readColumn
  | _ => .ok []

/-- `_effective_database` -/
def effectiveDatabase (c : Context) (path : String) (resource : Members) : Checked Stripped :=
  match strippedText (Json.lookup resource "database"), c.defaultDatabase with
  | some database, _ => .ok database
  | none, some database => .ok database
  | none, none => .error (mappingError (pointer path "database")
      "database is required for relation-backed resources when default_database is not set")

/-- `_transformation_logical_id` -/
def transformationLogicalId (model : Members) : String :=
  (Json.arr [Json.get model "package_name", Json.get model "fqn"]).canonicalJson

/-- A resource with a place, once its name is known. -/
def placedResource (c : Context) (resource : Members) (placement : Placement) (name : Stripped) (attributes : Members) :
    Checked Resource := do
  let uniqueId ← requiredText resource "unique_id"
  let columns ← readColumns (Json.lookup resource "columns")
  return ⟨((Json.lookup resource "unique_id").bind textOf).getD "", dbtProvenance uniqueId c.dbtVersion, placement, name,
    normalizeDescription (Json.lookup resource "description"), canonicalizeAttributesObject (some attributes), columns⟩

/-- A resource with a table of its own, named by one of its members. -/
def relationResource (c : Context) (path tableKey : String) (resource attributes : Members) : Checked Resource := do
  let database ← effectiveDatabase c path resource
  let schema ← requiredText resource "schema"
  let table ← requiredText resource tableKey
  placedResource c resource (.relation database schema table) table attributes

/-- `_map_model`, up to the collecting of parts. -/
def modelResource (c : Context) (path : String) (model : Members) : Checked Resource :=
  if isEphemeral model then do
    let logicalId ← (requireNonEmptyStr (transformationLogicalId model) "logical_id").mapError DbtError.uncaught
    let name ← requiredText model "name"
    placedResource c model (.transformation logicalId) name (modelAttributes model)
  else relationResource c path "alias" model (modelAttributes model)

/-- `_map_source`, up to the collecting of parts. -/
def sourceResource (c : Context) (path : String) (source : Members) : Checked Resource :=
  relationResource c path "identifier" source (sourceAttributes source)

/-! ### The collecting of parts -/

/-- A resource that edges can lead to, with the provenance of its own edges. -/
structure Registered where
  identity : GraphNodeIdentity
  record : ProvenanceRecord

structure MapState where
  parts : MappedParts
  seenContainers : List GraphNodeIdentity
  registry : Dict String Registered

namespace MapState

def empty : MapState := ⟨.empty, [], .empty⟩

def containerNode (identity : GraphNodeIdentity) (name : Stripped) : GraphNode := mappedNode identity name none [] []

/-- A container is listed once. -/
def addContainer (st : MapState) (identity : GraphNodeIdentity) (name : Stripped) (edges : List GraphEdge) : MapState :=
  if identity ∈ st.seenContainers then st
  else { st with
    parts := st.parts ++ ⟨[containerNode identity name], edges, []⟩
    seenContainers := identity :: st.seenContainers }

/-- `_ensure_containers` -/
def ensureContainers (ns database schema : Stripped) (st : MapState) : MapState :=
  (st.addContainer (databaseIdentity ns database) database []).addContainer (schemaIdentity ns database schema) schema
    [mappedEdge (databaseIdentity ns database) (schemaIdentity ns database schema) kindContains []]

/-- The parts of a resource go behind those before, and the resource is registered. -/
def addResource (ns : Stripped) (st : MapState) (r : Resource) : MapState :=
  let st := match r.placement with
    | .transformation _ => st
    | .relation database schema _ => st.ensureContainers ns database schema
  let containing := (r.identity ns).parent.toList.map fun parent => mappedEdge parent (r.identity ns) kindContains []
  { st with
    parts := st.parts ++ .observed (r.node ns) r.record containing ++ .join (r.columns.map (r.columnParts ns))
    registry := st.registry.set r.uniqueId ⟨r.identity ns, r.record⟩ }

end MapState

/-- One entry of a collection; only resources of its type are mapped. -/
def mapEntry (c : Context) (collectionPath resourceType : String) (read : String → Members → Checked Resource)
    (st : MapState) (entry : String × Json) : Checked MapState :=
  match entry.2 with
  | .obj resource =>
    if Json.lookup resource "resource_type" = some (.str resourceType) then do
      let r ← read (pointer collectionPath entry.1) resource
      return st.addResource c.nameSpace r
    else .ok st
  | _ => .ok st

def mapCollection (c : Context) (collectionPath resourceType : String) (read : String → Members → Checked Resource)
    (st : MapState) (collection : Members) : Checked MapState :=
  (sortedMappingItems collection).foldlM (mapEntry c collectionPath resourceType read) st

/-! ### Dependencies -/

/-- The references of a list, each once and in order. -/
def parentRefs : Option Json → List String
  | some (.arr refs) => sortedDistinct id ((refs.filterMap textOf).filter (· ≠ ""))
  | _ => []

/-- `_unique_id_prefix` -/
def uniqueIdPrefix (uniqueId : String) : String := String.ofList (uniqueId.toList.takeWhile (· ≠ '.'))

/-- Whether a reference has to be resolved. -/
def mustResolve (uniqueId : String) : Bool :=
  uniqueIdPrefix uniqueId = resourceTypeModel || uniqueIdPrefix uniqueId = resourceTypeSource

/-- The edge to one parent; disabled and unsupported parents are passed over. -/
def mapDependency (registry : Dict String Registered) (disabled : List String) (childId : String) (child : Registered)
    (parentId : String) : Checked (List GraphEdge) :=
  match registry.get? parentId with
  | some parent => .ok [mappedEdge child.identity parent.identity kindDependsOn [child.record]]
  | none =>
    if parentId ∈ disabled then .ok []
    else if mustResolve parentId then
      .error (mappingError (pointer "/parent_map" childId) "parent_map references unresolved model or source unique_id")
    else .ok []

/-- `_map_dependencies` -/
def mapDependencies (parentMap : Members) (registry : Dict String Registered) (disabled : List String) :
    Checked (List GraphEdge) := do
  let edges ← (sortBy Prod.fst registry.entries).mapM fun child => do
    let edges ← (parentRefs (Json.lookup parentMap child.1)).mapM (mapDependency registry disabled child.1 child.2)
    return edges.flatten
  return edges.flatten

/-! ### The manifest -/

def membersOf : Json → Members
  | .obj members => members
  | _ => []

/-- The resources that are disabled. -/
def disabledIds (disabled : Members) : List String :=
  disabled.filterMap fun entry => match entry.2 with
    | .arr (_ :: _) => some entry.1
    | _ => none

/-- The state after all resources of a manifest, models first. -/
def mapResources (c : Context) (document : Members) : Checked MapState := do
  let st ← mapCollection c "/nodes" resourceTypeModel (modelResource c) .empty (membersOf (Json.get document "nodes"))
  mapCollection c "/sources" resourceTypeSource (sourceResource c) st (membersOf (Json.get document "sources"))

/-- `_map_dbt_result` -/
def mapDbtResult (document : Members) (ns : Stripped) (defaultDatabase : Option Stripped) :
    Checked GovernanceMappingResult := do
  let dbtVersion ← requiredText (membersOf (Json.get document "metadata")) "dbt_version"
  let st ← mapResources ⟨ns, defaultDatabase, dbtVersion⟩ document
  let dependencies ← mapDependencies (membersOf (Json.get document "parent_map")) st.registry
    (disabledIds (membersOf (Json.get document "disabled")))
  (st.parts ++ ⟨[], dependencies, []⟩).result.mapError fun _ =>
    mappingError "" "failed to construct governance graph from dbt Manifest"

/-- `map_dbt_manifest_with_observations` -/
def mapDbtManifestWithObservations (document : Json) (nameSpace : String) (defaultDatabase : Option String) :
    Checked GovernanceMappingResult := do
  let ns ← requireNamespace nameSpace
  let database ← requireDefaultDatabase defaultDatabase
  let validated ← validateDbtManifest document
  mapDbtResult validated ns database

/-- `map_dbt_manifest` -/
def mapDbtManifest (document : Json) (nameSpace : String) (defaultDatabase : Option String) :
    Checked GovernanceGraph :=
  (mapDbtManifestWithObservations document nameSpace defaultDatabase).map GovernanceMappingResult.graph

end CollibraGovernance.Dbt
