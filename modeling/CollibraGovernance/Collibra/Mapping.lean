import CollibraGovernance.Collibra.Models
import CollibraGovernance.Domain.Models

/-! Deterministic mapping from vendor-neutral metadata to the Collibra desired state. -/
namespace CollibraGovernance.Collibra
open Library Domain

structure AssetTypeRefs where
  database : String
  schema : String
  table : String
  column : String
  deriving DecidableEq

structure RelationTypeRefs where
  databaseSchema : String
  schemaTable : String
  tableColumn : String
  tableFk : String
  deriving DecidableEq

structure AttributeTypeRefs where
  localId : String
  description : String
  owner : String
  dataType : String
  nullable : String
  ordinalPosition : String
  deriving DecidableEq

def AssetTypeRefs.values (r : AssetTypeRefs) : List String :=
  [r.database, r.schema, r.table, r.column]

def RelationTypeRefs.values (r : RelationTypeRefs) : List String :=
  [r.databaseSchema, r.schemaTable, r.tableColumn, r.tableFk]

def AttributeTypeRefs.values (r : AttributeTypeRefs) : List String :=
  [r.localId, r.description, r.owner, r.dataType, r.nullable, r.ordinalPosition]

/-- Tenant-specific type and domain references. Only blank references are refused: two attribute
keys may share one reference. -/
structure CollibraMappingConfig where
  domainRef : String
  assetTypeRefs : AssetTypeRefs
  relationTypeRefs : RelationTypeRefs
  attributeTypeRefs : AttributeTypeRefs
  domainRef_nonblank : isBlank domainRef = false
  assetTypeRefs_nonblank : ∀ r ∈ assetTypeRefs.values, isBlank r = false
  relationTypeRefs_nonblank : ∀ r ∈ relationTypeRefs.values, isBlank r = false
  attributeTypeRefs_nonblank : ∀ r ∈ attributeTypeRefs.values, isBlank r = false

/-- References clearly identified as local mock symbols. -/
def mockMappingConfig : CollibraMappingConfig where
  domainRef := "mock:domain:governance"
  assetTypeRefs := ⟨"mock:asset-type:database", "mock:asset-type:schema", "mock:asset-type:table",
    "mock:asset-type:column"⟩
  relationTypeRefs := ⟨"mock:relation-type:database-schema", "mock:relation-type:schema-table",
    "mock:relation-type:table-column", "mock:relation-type:table-fk"⟩
  attributeTypeRefs := ⟨"mock:attribute-type:local-id", "mock:attribute-type:description",
    "mock:attribute-type:owner", "mock:attribute-type:data-type", "mock:attribute-type:nullable",
    "mock:attribute-type:ordinal-position"⟩
  domainRef_nonblank := by decide
  assetTypeRefs_nonblank := by decide
  relationTypeRefs_nonblank := by decide
  attributeTypeRefs_nonblank := by decide

/-- Normalized mapping content for content identity. -/
def CollibraMappingConfig.toIdentityDict (c : CollibraMappingConfig) : Json :=
  .obj [
    ("attribute_type_refs", .obj [("data_type", .str c.attributeTypeRefs.dataType),
      ("description", .str c.attributeTypeRefs.description),
      ("local_id", .str c.attributeTypeRefs.localId),
      ("nullable", .str c.attributeTypeRefs.nullable),
      ("ordinal_position", .str c.attributeTypeRefs.ordinalPosition),
      ("owner", .str c.attributeTypeRefs.owner)]),
    ("asset_type_refs", .obj [("column", .str c.assetTypeRefs.column),
      ("database", .str c.assetTypeRefs.database), ("schema", .str c.assetTypeRefs.schema),
      ("table", .str c.assetTypeRefs.table)]),
    ("domain_ref", .str c.domainRef),
    ("relation_type_refs", .obj [("database_schema", .str c.relationTypeRefs.databaseSchema),
      ("schema_table", .str c.relationTypeRefs.schemaTable),
      ("table_column", .str c.relationTypeRefs.tableColumn),
      ("table_fk", .str c.relationTypeRefs.tableFk)])]

/-- The accumulators that the mapping functions append to. -/
structure MappingState where
  assets : List CollibraAssetSpec
  relationships : List CollibraRelationshipSpec
  assetIds : List String

def MappingState.initial : MappingState := ⟨[], [], []⟩

/-- `_add_asset` -/
def addAsset (st : MappingState) (asset : CollibraAssetSpec) : Except String MappingState :=
  if asset.localId ∈ st.assetIds then .error ("duplicate local asset ID: " ++ asset.localId)
  else .ok { st with
    assets := st.assets ++ [asset], assetIds := st.assetIds ++ [asset.localId] }

/-- `relationships.append` -/
def addRelationship (st : MappingState) (rel : CollibraRelationshipSpec) : MappingState :=
  { st with relationships := st.relationships ++ [rel] }

/-- The description attribute, when the description is a non-blank string. -/
def descriptionAttribute (config : CollibraMappingConfig) :
    Json → Except String (List CollibraAttributeSpec)
  | .null => .ok []
  | .str s =>
    if isBlank s then .ok []
    else do return [← CollibraAttributeSpec.create config.attributeTypeRefs.description s]
  | _ => .error "AttributeError: strip"

def ownerAttribute (config : CollibraMappingConfig) :
    Option Ownership → Except String (List CollibraAttributeSpec)
  | none => .ok []
  | some ownership => do
    return [← CollibraAttributeSpec.create config.attributeTypeRefs.owner ownership.ownerName]

/-- `_common_attributes` -/
def commonAttributes (config : CollibraMappingConfig) (localId : String) (description : Json)
    (ownership : Option Ownership) : Except String (List CollibraAttributeSpec) := do
  let identity ← CollibraAttributeSpec.create config.attributeTypeRefs.localId localId
  let described ← descriptionAttribute config description
  let owned ← ownerAttribute config ownership
  return identity :: (described ++ owned)

/-- The attributes only a column has. -/
def columnAttributes (config : CollibraMappingConfig) (column : Column) :
    Except String (List CollibraAttributeSpec) := do
  let dataType ← CollibraAttributeSpec.create config.attributeTypeRefs.dataType column.dataType
  let nullable ← CollibraAttributeSpec.create config.attributeTypeRefs.nullable
    (if column.nullable then "true" else "false")
  let ordinal ← CollibraAttributeSpec.create config.attributeTypeRefs.ordinalPosition
    (toString column.ordinalPosition)
  return [dataType, nullable, ordinal]

/-- The link from a container to one of its parts. -/
def containmentLink (parent child relationTypeRef : String) :
    Except String CollibraRelationshipSpec :=
  CollibraRelationshipSpec.create ("rel:contains:" ++ parent ++ "->" ++ child) parent child
    relationTypeRef

/-- `_map_column` -/
def mapColumn (config : CollibraMappingConfig) (databaseName schemaName : String) (table : Table)
    (st : MappingState) (column : Column) : Except String MappingState := do
  let common ← commonAttributes config column.id column.description none
  let own ← columnAttributes config column
  let asset ← CollibraAssetSpec.create column.id
    (databaseName ++ "." ++ schemaName ++ "." ++ table.name ++ "." ++ column.name)
    config.assetTypeRefs.column config.domainRef (some column.name) (common ++ own)
  let st ← addAsset st asset
  let rel ← containmentLink table.id column.id config.relationTypeRefs.tableColumn
  return addRelationship st rel

/-- One table of `_map_database`, then its columns. -/
def mapTable (config : CollibraMappingConfig) (databaseName : String) (schema : Schema)
    (st : MappingState) (table : Table) : Except String MappingState := do
  let attributes ← commonAttributes config table.id table.description table.ownership
  let asset ← CollibraAssetSpec.create table.id
    (databaseName ++ "." ++ schema.name ++ "." ++ table.name)
    config.assetTypeRefs.table config.domainRef (some table.name) attributes
  let st ← addAsset st asset
  let rel ← containmentLink schema.id table.id config.relationTypeRefs.schemaTable
  table.columns.foldlM (mapColumn config databaseName schema.name table) (addRelationship st rel)

/-- One schema of `_map_database`, then its tables. -/
def mapSchema (config : CollibraMappingConfig) (database : Database) (st : MappingState)
    (schema : Schema) : Except String MappingState := do
  let attributes ← commonAttributes config schema.id schema.description schema.ownership
  let asset ← CollibraAssetSpec.create schema.id (database.name ++ "." ++ schema.name)
    config.assetTypeRefs.schema config.domainRef (some schema.name) attributes
  let st ← addAsset st asset
  let rel ← containmentLink database.id schema.id config.relationTypeRefs.databaseSchema
  schema.tables.foldlM (mapTable config database.name schema) (addRelationship st rel)

/-- `_map_database` -/
def mapDatabase (config : CollibraMappingConfig) (st : MappingState) (database : Database) :
    Except String MappingState := do
  let attributes ← commonAttributes config database.id database.description database.ownership
  let asset ← CollibraAssetSpec.create database.id database.name config.assetTypeRefs.database
    config.domainRef (some database.name) attributes
  let st ← addAsset st asset
  database.schemas.foldlM (mapSchema config database) st

/-- One model relationship: both ends must be mapped assets. -/
def mapRelationship (config : CollibraMappingConfig) (st : MappingState)
    (relationship : Relationship) : Except String MappingState := do
  if relationship.fromTableId ∉ st.assetIds then
    .error ("relationship source asset missing: " ++ relationship.fromTableId)
  else if relationship.toTableId ∉ st.assetIds then
    .error ("relationship target asset missing: " ++ relationship.toTableId)
  else
    let rel ← CollibraRelationshipSpec.create relationship.id relationship.fromTableId
      relationship.toTableId config.relationTypeRefs.tableFk
    return addRelationship st rel

/-- `_assert_unique_relationship_keys` -/
def assertUniqueRelationshipKeys (seen : List String) :
    List CollibraRelationshipSpec → Except String Unit
  | [] => .ok ()
  | rel :: rest =>
    if rel.localKey ∈ seen then .error ("duplicate relationship key: " ++ rel.localKey)
    else assertUniqueRelationshipKeys (rel.localKey :: seen) rest

/-- Map governance metadata into an inspectable Collibra desired state. -/
def mapToDesiredState (model : GovernanceModel) (config : CollibraMappingConfig) :
    Except String CollibraDesiredState := do
  let st ← model.databases.foldlM (mapDatabase config) MappingState.initial
  let st ← model.relationships.foldlM (mapRelationship config) st
  assertUniqueRelationshipKeys [] st.relationships
  return CollibraDesiredState.create st.assets st.relationships

end CollibraGovernance.Collibra
