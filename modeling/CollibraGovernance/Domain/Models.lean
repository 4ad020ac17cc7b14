import CollibraGovernance.Library.Json
import CollibraGovernance.Library.Text

/-! Vendor-neutral governance metadata: data sources, databases, schemas, tables and columns.
A description is whatever JSON value a snapshot carried; a scanner only writes strings. -/
namespace CollibraGovernance.Domain
open Library

/-- Ownership metadata for a governed object. -/
structure Ownership where
  ownerName : String
  ownerType : String
  ownerName_nonblank : isBlank ownerName = false
  ownerType_nonblank : isBlank ownerType = false

namespace Ownership

def create (ownerName ownerType : String) : Except String Ownership := do
  let name ← requireNonEmpty ownerName "owner_name"
  let type ← requireNonEmpty ownerType "owner_type"
  return ⟨name.1, type.1, name.2, type.2⟩

def toDict (o : Ownership) : Json :=
  .obj [("owner_name", .str o.ownerName), ("owner_type", .str o.ownerType)]

end Ownership

def ownershipToDict : Option Ownership → Json
  | none => .null
  | some o => o.toDict

structure Column where
  id : String
  name : String
  dataType : String
  ordinalPosition : Int
  nullable : Bool
  description : Json
  technicalAttributes : List (String × Json)
  id_nonblank : isBlank id = false
  name_nonblank : isBlank name = false
  dataType_nonblank : isBlank dataType = false
  ordinalPosition_pos : 1 ≤ ordinalPosition

namespace Column

def create (id name dataType : String) (ordinalPosition : Int) (nullable : Bool)
    (description : Json) (technicalAttributes : List (String × Json)) : Except String Column := do
  let id ← requireNonEmpty id "id"
  let name ← requireNonEmpty name "name"
  let dataType ← requireNonEmpty dataType "data_type"
  if h : 1 ≤ ordinalPosition then
    return ⟨id.1, name.1, dataType.1, ordinalPosition, nullable, description, technicalAttributes,
      id.2, name.2, dataType.2, h⟩
  else .error "ordinal_position must be >= 1"

def toDict (c : Column) : Json :=
  .obj [("id", .str c.id), ("name", .str c.name), ("data_type", .str c.dataType),
    ("ordinal_position", .int c.ordinalPosition), ("nullable", .bool c.nullable),
    ("description", c.description),
    ("technical_attributes", .obj (sortBy Prod.fst c.technicalAttributes))]

/-- Columns are listed by position, then by id. -/
def sortKey (c : Column) : Int ×ₗ String := toLex (c.ordinalPosition, c.id)

end Column

structure PrimaryKey where
  id : String
  name : String
  tableId : String
  columnIds : List String
  id_nonblank : isBlank id = false
  name_nonblank : isBlank name = false
  tableId_nonblank : isBlank tableId = false
  columnIds_nonempty : columnIds ≠ []
  columnIds_nonblank : ∀ c ∈ columnIds, isBlank c = false

namespace PrimaryKey

def create (id name tableId : String) (columnIds : List String) : Except String PrimaryKey := do
  let id ← requireNonEmpty id "id"
  let name ← requireNonEmpty name "name"
  let tableId ← requireNonEmpty tableId "table_id"
  if hne : columnIds ≠ [] then
    if h : ∀ c ∈ columnIds, isBlank c = false then
      return ⟨id.1, name.1, tableId.1, columnIds, id.2, name.2, tableId.2, hne, h⟩
    else .error "column_id is required"
  else .error "column_ids must not be empty"

def toDict (k : PrimaryKey) : Json :=
  .obj [("id", .str k.id), ("name", .str k.name), ("table_id", .str k.tableId),
    ("column_ids", .arr (k.columnIds.map .str))]

end PrimaryKey

def primaryKeyToDict : Option PrimaryKey → Json
  | none => .null
  | some k => k.toDict

structure ForeignKey where
  id : String
  name : String
  tableId : String
  columnIds : List String
  referencedTableId : String
  referencedColumnIds : List String
  id_nonblank : isBlank id = false
  name_nonblank : isBlank name = false
  tableId_nonblank : isBlank tableId = false
  referencedTableId_nonblank : isBlank referencedTableId = false
  columnIds_nonempty : columnIds ≠ []
  referencedColumnIds_nonempty : referencedColumnIds ≠ []
  length_eq : columnIds.length = referencedColumnIds.length

namespace ForeignKey

def create (id name tableId : String) (columnIds : List String) (referencedTableId : String)
    (referencedColumnIds : List String) : Except String ForeignKey := do
  let id ← requireNonEmpty id "id"
  let name ← requireNonEmpty name "name"
  let tableId ← requireNonEmpty tableId "table_id"
  let referencedTableId ← requireNonEmpty referencedTableId "referenced_table_id"
  if hc : columnIds ≠ [] then
    if hr : referencedColumnIds ≠ [] then
      if hl : columnIds.length = referencedColumnIds.length then
        return ⟨id.1, name.1, tableId.1, columnIds, referencedTableId.1, referencedColumnIds,
          id.2, name.2, tableId.2, referencedTableId.2, hc, hr, hl⟩
      else .error "column_ids and referenced_column_ids must have equal length"
    else .error "referenced_column_ids must not be empty"
  else .error "column_ids must not be empty"

def toDict (k : ForeignKey) : Json :=
  .obj [("id", .str k.id), ("name", .str k.name), ("table_id", .str k.tableId),
    ("column_ids", .arr (k.columnIds.map .str)),
    ("referenced_table_id", .str k.referencedTableId),
    ("referenced_column_ids", .arr (k.referencedColumnIds.map .str))]

end ForeignKey

structure Relationship where
  id : String
  name : String
  fromTableId : String
  toTableId : String
  foreignKeyId : Option String
  description : Json
  id_nonblank : isBlank id = false
  name_nonblank : isBlank name = false
  fromTableId_nonblank : isBlank fromTableId = false
  toTableId_nonblank : isBlank toTableId = false

namespace Relationship

def create (id name fromTableId toTableId : String) (foreignKeyId : Option String)
    (description : Json) : Except String Relationship := do
  let id ← requireNonEmpty id "id"
  let name ← requireNonEmpty name "name"
  let fromTableId ← requireNonEmpty fromTableId "from_table_id"
  let toTableId ← requireNonEmpty toTableId "to_table_id"
  return ⟨id.1, name.1, fromTableId.1, toTableId.1, foreignKeyId, description, id.2, name.2,
    fromTableId.2, toTableId.2⟩

def toDict (r : Relationship) : Json :=
  .obj [("id", .str r.id), ("name", .str r.name), ("from_table_id", .str r.fromTableId),
    ("to_table_id", .str r.toTableId),
    ("foreign_key_id", (r.foreignKeyId.map Json.str).getD .null), ("description", r.description)]

end Relationship

structure Table where
  id : String
  name : String
  schemaId : String
  columns : List Column
  primaryKey : Option PrimaryKey
  foreignKeys : List ForeignKey
  description : Json
  ownership : Option Ownership
  technicalAttributes : List (String × Json)
  id_nonblank : isBlank id = false
  name_nonblank : isBlank name = false
  schemaId_nonblank : isBlank schemaId = false
  columns_nonempty : columns ≠ []
  columns_sorted : SortedBy Column.sortKey columns
  foreignKeys_sorted : SortedBy ForeignKey.id foreignKeys

theorem sortBy_ne_nil {α κ : Type*} [LinearOrder κ] {key : α → κ} {xs : List α} (h : xs ≠ []) :
    sortBy key xs ≠ [] := by
  intro hs
  exact h (List.Perm.nil_eq ((hs ▸ sortBy_perm key xs))).symm

namespace Table

def create (id name schemaId : String) (columns : List Column) (primaryKey : Option PrimaryKey)
    (foreignKeys : List ForeignKey) (description : Json) (ownership : Option Ownership)
    (technicalAttributes : List (String × Json)) : Except String Table := do
  let id ← requireNonEmpty id "id"
  let name ← requireNonEmpty name "name"
  let schemaId ← requireNonEmpty schemaId "schema_id"
  if h : columns ≠ [] then
    return ⟨id.1, name.1, schemaId.1, sortBy Column.sortKey columns, primaryKey,
      sortBy ForeignKey.id foreignKeys, description, ownership, technicalAttributes, id.2, name.2,
      schemaId.2, sortBy_ne_nil h, sortBy_sorted _ _, sortBy_sorted _ _⟩
  else .error "columns must not be empty"

def toDict (t : Table) : Json :=
  .obj [("id", .str t.id), ("name", .str t.name), ("schema_id", .str t.schemaId),
    ("columns", .arr (t.columns.map Column.toDict)),
    ("primary_key", primaryKeyToDict t.primaryKey),
    ("foreign_keys", .arr (t.foreignKeys.map ForeignKey.toDict)),
    ("description", t.description), ("ownership", ownershipToDict t.ownership),
    ("technical_attributes", .obj (sortBy Prod.fst t.technicalAttributes))]

end Table

structure Schema where
  id : String
  name : String
  databaseId : String
  tables : List Table
  description : Json
  ownership : Option Ownership
  id_nonblank : isBlank id = false
  name_nonblank : isBlank name = false
  databaseId_nonblank : isBlank databaseId = false
  tables_sorted : SortedBy Table.id tables

namespace Schema

def create (id name databaseId : String) (tables : List Table) (description : Json)
    (ownership : Option Ownership) : Except String Schema := do
  let id ← requireNonEmpty id "id"
  let name ← requireNonEmpty name "name"
  let databaseId ← requireNonEmpty databaseId "database_id"
  return ⟨id.1, name.1, databaseId.1, sortBy Table.id tables, description, ownership, id.2, name.2,
    databaseId.2, sortBy_sorted _ _⟩

def toDict (s : Schema) : Json :=
  .obj [("id", .str s.id), ("name", .str s.name), ("database_id", .str s.databaseId),
    ("tables", .arr (s.tables.map Table.toDict)), ("description", s.description),
    ("ownership", ownershipToDict s.ownership)]

end Schema

structure Database where
  id : String
  name : String
  datasourceId : String
  schemas : List Schema
  description : Json
  ownership : Option Ownership
  id_nonblank : isBlank id = false
  name_nonblank : isBlank name = false
  datasourceId_nonblank : isBlank datasourceId = false
  schemas_sorted : SortedBy Schema.id schemas

namespace Database

def create (id name datasourceId : String) (schemas : List Schema) (description : Json)
    (ownership : Option Ownership) : Except String Database := do
  let id ← requireNonEmpty id "id"
  let name ← requireNonEmpty name "name"
  let datasourceId ← requireNonEmpty datasourceId "datasource_id"
  return ⟨id.1, name.1, datasourceId.1, sortBy Schema.id schemas, description, ownership, id.2,
    name.2, datasourceId.2, sortBy_sorted _ _⟩

def toDict (d : Database) : Json :=
  .obj [("id", .str d.id), ("name", .str d.name), ("datasource_id", .str d.datasourceId),
    ("schemas", .arr (d.schemas.map Schema.toDict)), ("description", d.description),
    ("ownership", ownershipToDict d.ownership)]

end Database

structure DataSource where
  id : String
  name : String
  systemType : String
  databases : List Database
  description : Json
  ownership : Option Ownership
  technicalAttributes : List (String × Json)
  id_nonblank : isBlank id = false
  name_nonblank : isBlank name = false
  systemType_nonblank : isBlank systemType = false
  databases_sorted : SortedBy Database.id databases

namespace DataSource

def create (id name systemType : String) (databases : List Database) (description : Json)
    (ownership : Option Ownership) (technicalAttributes : List (String × Json)) :
    Except String DataSource := do
  let id ← requireNonEmpty id "id"
  let name ← requireNonEmpty name "name"
  let systemType ← requireNonEmpty systemType "system_type"
  return ⟨id.1, name.1, systemType.1, sortBy Database.id databases, description, ownership,
    technicalAttributes, id.2, name.2, systemType.2, sortBy_sorted _ _⟩

def toDict (s : DataSource) : Json :=
  .obj [("id", .str s.id), ("name", .str s.name), ("system_type", .str s.systemType),
    ("databases", .arr (s.databases.map Database.toDict)), ("description", s.description),
    ("ownership", ownershipToDict s.ownership),
    ("technical_attributes", .obj (sortBy Prod.fst s.technicalAttributes))]

end DataSource

/-- Root container for a vendor-neutral metadata graph. -/
structure GovernanceModel where
  dataSources : List DataSource
  relationships : List Relationship
  dataSources_nonempty : dataSources ≠ []
  dataSources_sorted : SortedBy DataSource.id dataSources
  relationships_sorted : SortedBy Relationship.id relationships

namespace GovernanceModel

def create (dataSources : List DataSource) (relationships : List Relationship) :
    Except String GovernanceModel :=
  if h : dataSources ≠ [] then
    .ok ⟨sortBy DataSource.id dataSources, sortBy Relationship.id relationships, sortBy_ne_nil h,
      sortBy_sorted _ _, sortBy_sorted _ _⟩
  else .error "data_sources must not be empty"

def toDict (m : GovernanceModel) : Json :=
  .obj [("data_sources", .arr (m.dataSources.map DataSource.toDict)),
    ("relationships", .arr (m.relationships.map Relationship.toDict))]

def databases (m : GovernanceModel) : List Database := m.dataSources.flatMap DataSource.databases
def schemas (m : GovernanceModel) : List Schema := m.databases.flatMap Database.schemas
def tables (m : GovernanceModel) : List Table := m.schemas.flatMap Schema.tables

end GovernanceModel

end CollibraGovernance.Domain
