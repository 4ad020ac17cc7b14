import CollibraGovernance.Domain.PhysicalIds
import CollibraGovernance.Library.Merge

/-! Mapping bulk catalog rows of PostgreSQL into a governance model. -/
namespace CollibraGovernance.Scanner
open Library Domain

structure DatabaseRow where
  databaseName : String
  ownerName : Option String
  description : Option String
  transactionIsolation : String
  transactionReadOnly : String

structure SchemaRow where
  schemaName : String
  ownerName : Option String
  description : Option String

/-- The column part of a row; a table without columns has one row without it. -/
structure ColumnFields where
  columnName : String
  ordinalPosition : Int
  dataType : String
  nullable : Bool
  columnDescription : Option String

structure TableColumnRow where
  schemaName : String
  tableName : String
  tableOwner : Option String
  tableDescription : Option String
  column : Option ColumnFields

structure PrimaryKeyRow where
  schemaName : String
  tableName : String
  constraintName : String
  columnName : String
  keyOrdinal : Int

structure ForeignKeyRow where
  schemaName : String
  tableName : String
  constraintName : String
  columnName : String
  referencedSchemaName : String
  referencedTableName : String
  referencedColumnName : String
  keyOrdinal : Int

/-- Schema and table name. -/
abbrev TableKey := String × String

/-- Schema, table and constraint name. -/
abbrev ConstraintKey := String × String × String

def TableColumnRow.key (r : TableColumnRow) : TableKey := (r.schemaName, r.tableName)
def PrimaryKeyRow.key (r : PrimaryKeyRow) : ConstraintKey :=
  (r.schemaName, r.tableName, r.constraintName)
def ForeignKeyRow.key (r : ForeignKeyRow) : ConstraintKey :=
  (r.schemaName, r.tableName, r.constraintName)

def discoveryFailed : String := "PostgreSQL metadata discovery failed"

def isUserSchema (name : String) : Bool :=
  name ≠ "information_schema" && !"pg_".toList.isPrefixOf name.toList

/-- `value.lower()`; the letters compared with have no other lower-case source than the ASCII one. -/
def lower (value : String) : String := String.ofList (value.toList.map Char.toLower)

def textJson (text : Option String) : Json := text.elim .null .str

/-- `_ownership` -/
def ownership (ownerName : Option String) : Except String (Option Ownership) :=
  match ownerName with
  | none => .ok none
  | some owner => if isBlank owner then .ok none else return some (← Ownership.create owner "role")

/-- `schemas_meta`: the last row of each user schema. -/
def schemasMeta (schemaRows : List SchemaRow) : Dict String SchemaRow :=
  Dict.index SchemaRow.schemaName id (schemaRows.filter (fun r => isUserSchema r.schemaName))

/-- `tables_meta` and `columns_by_table`: the rows of each table of a user schema. -/
def tablesMeta (rows : List TableColumnRow) : Dict TableKey (Library.Group TableColumnRow) :=
  groupBy TableColumnRow.key (rows.filter (fun r => isUserSchema r.schemaName))

/-- The columns of a table, by position. -/
def columnRows (g : Library.Group TableColumnRow) : List ColumnFields :=
  sortBy ColumnFields.ordinalPosition (g.members.filterMap TableColumnRow.column)

/-- `column_ids` holds the column. -/
def hasColumn (tables : Dict TableKey (Library.Group TableColumnRow)) (key : TableKey)
    (columnName : String) : Bool :=
  match tables.get? key with
  | none => false
  | some g => (columnRows g).any (fun c => c.columnName = columnName)

def primaryKeyGroups (rows : List PrimaryKeyRow) : Dict ConstraintKey (Library.Group PrimaryKeyRow) :=
  groupBy PrimaryKeyRow.key (rows.filter (fun r => isUserSchema r.schemaName))

def foreignKeyGroups (rows : List ForeignKeyRow) : Dict ConstraintKey (Library.Group ForeignKeyRow) :=
  groupBy ForeignKeyRow.key
    (rows.filter (fun r => isUserSchema r.schemaName && isUserSchema r.referencedSchemaName))

/-- The foreign keys that are kept: both tables and all columns are known. -/
def keptForeignKey (tables : Dict TableKey (Library.Group TableColumnRow))
    (e : ConstraintKey × Library.Group ForeignKeyRow) : Bool :=
  let rows := sortBy ForeignKeyRow.keyOrdinal e.2.members
  let first := rows.head?.getD e.2.base
  let referenced : TableKey := (first.referencedSchemaName, first.referencedTableName)
  tables.contains (e.1.1, e.1.2.1) && tables.contains referenced &&
    rows.all (fun r => hasColumn tables (e.1.1, e.1.2.1) r.columnName) &&
    rows.all (fun r => hasColumn tables referenced r.referencedColumnName)

section Build
variable (sourceName databaseName : String) (tables : Dict TableKey (Library.Group TableColumnRow))

def buildColumn (key : TableKey) (c : ColumnFields) : Except String Column := do
  let id ← makeColumnId sourceName databaseName key.1 key.2 c.columnName
  Column.create id c.columnName c.dataType c.ordinalPosition c.nullable (textJson c.columnDescription) []

/-- `column_ids[...]` -/
def columnId (key : TableKey) (columnName : String) : Except String String :=
  if hasColumn tables key columnName then
    makeColumnId sourceName databaseName key.1 key.2 columnName
  else .error discoveryFailed

/-- One constraint; the primary key of a table that was met before is replaced. -/
def addPrimaryKey (primaryKeys : Dict TableKey PrimaryKey)
    (e : ConstraintKey × Library.Group PrimaryKeyRow) : Except String (Dict TableKey PrimaryKey) := do
  let key : TableKey := (e.1.1, e.1.2.1)
  if tables.contains key then
    let tableId ← makeTableId sourceName databaseName key.1 key.2
    let columnIds ← (sortBy PrimaryKeyRow.keyOrdinal e.2.members).mapM
      (fun r => columnId sourceName databaseName tables key r.columnName)
    let id ← makePrimaryKeyId tableId e.1.2.2
    let primaryKey ← PrimaryKey.create id e.1.2.2 tableId columnIds
    return primaryKeys.set key primaryKey
  else return primaryKeys

/-- A kept foreign key, with its table and its relationship. -/
def buildForeignKey (e : ConstraintKey × Library.Group ForeignKeyRow) :
    Except String (TableKey × ForeignKey × Relationship) := do
  let rows := sortBy ForeignKeyRow.keyOrdinal e.2.members
  let first := rows.head?.getD e.2.base
  let key : TableKey := (e.1.1, e.1.2.1)
  let referenced : TableKey := (first.referencedSchemaName, first.referencedTableName)
  let tableId ← makeTableId sourceName databaseName key.1 key.2
  let referencedTableId ← makeTableId sourceName databaseName referenced.1 referenced.2
  let sourceIds ← rows.mapM (fun r => columnId sourceName databaseName tables key r.columnName)
  let referencedIds ← rows.mapM
    (fun r => columnId sourceName databaseName tables referenced r.referencedColumnName)
  let id ← makeForeignKeyId tableId e.1.2.2
  let foreignKey ← ForeignKey.create id e.1.2.2 tableId sourceIds referencedTableId referencedIds
  let relationshipId ← makeRelationshipId foreignKey.id
  let relationship ← Relationship.create relationshipId foreignKey.name foreignKey.tableId
    foreignKey.referencedTableId (some foreignKey.id) .null
  return (key, foreignKey, relationship)

def buildTable (columns : List Column) (primaryKeys : Dict TableKey PrimaryKey)
    (foreignKeys : List (TableKey × ForeignKey × Relationship))
    (e : TableKey × Library.Group TableColumnRow) : Except String Table := do
  let id ← makeTableId sourceName databaseName e.1.1 e.1.2
  let schemaId ← makeSchemaId sourceName databaseName e.1.1
  Table.create id e.1.2 schemaId columns (primaryKeys.get? e.1)
    ((foreignKeys.filter (fun k => k.1 = e.1)).map (fun k => k.2.1))
    (textJson e.2.base.tableDescription) (← ownership e.2.base.tableOwner) []

def buildSchema (databaseId : String) (built : List (TableKey × Table)) (e : String × SchemaRow) :
    Except String Schema := do
  let id ← makeSchemaId sourceName databaseName e.1
  Schema.create id e.1 databaseId ((built.filter (fun t => t.1.1 = e.1)).map Prod.snd)
    (textJson e.2.description) (← ownership e.2.ownerName)

end Build

/-- Every id of the list is one of the known ones. -/
def requireKnown (known ids : List String) : Except String Unit :=
  if ids.all known.contains then .ok () else .error discoveryFailed

/-- `_validate_graph_integrity`: tables are looked up by id, the last one of an id counts. -/
def validateGraphIntegrity (model : GovernanceModel) : Except String Unit := do
  let tables := Dict.index Table.id id model.tables
  let columnsOf (tableId : String) : List String :=
    ((tables.get? tableId).elim [] Table.columns).map Column.id
  let foreignKeys := (model.tables.flatMap Table.foreignKeys).map ForeignKey.id
  let _ ← (tables.entries.map Prod.snd).mapM (fun t => do
    match t.primaryKey with
    | none => pure ()
    | some k => do
      requireKnown tables.keys [k.tableId]
      requireKnown (columnsOf k.tableId) k.columnIds
    let _ ← t.foreignKeys.mapM (fun k => do
      requireKnown tables.keys [k.tableId, k.referencedTableId]
      requireKnown (columnsOf k.tableId) k.columnIds
      requireKnown (columnsOf k.referencedTableId) k.referencedColumnIds)
    return ())
  let _ ← model.relationships.mapM (fun r => do
    requireKnown tables.keys [r.fromTableId, r.toTableId]
    match r.foreignKeyId with
    | none => .error discoveryFailed
    | some k => requireKnown foreignKeys [k])
  return ()

def buildGovernanceModel (sourceName : String) (databaseRow : DatabaseRow) (schemaRows : List SchemaRow)
    (tableColumnRows : List TableColumnRow) (primaryKeyRows : List PrimaryKeyRow)
    (foreignKeyRows : List ForeignKeyRow) : Except String GovernanceModel := do
  if lower databaseRow.transactionIsolation ≠ "repeatable read" ∨
      lower databaseRow.transactionReadOnly ≠ "on" then
    throw discoveryFailed
  let databaseName := databaseRow.databaseName
  let dataSourceId ← makeDatasourceId sourceName
  let databaseId ← makeDatabaseId sourceName databaseName
  let tables := tablesMeta tableColumnRows
  if tables.entries.any (fun e => (columnRows e.2).isEmpty) then
    throw "PostgreSQL metadata discovery found a table with no representable columns"
  let sortedTables := sortBy (fun e => toLex e.1) tables.entries
  let columns ← sortedTables.mapM (fun e =>
    (columnRows e.2).mapM (buildColumn sourceName databaseName e.1))
  let primaryKeys ← (primaryKeyGroups primaryKeyRows).entries.foldlM
    (addPrimaryKey sourceName databaseName tables) Dict.empty
  let foreignKeys ← ((foreignKeyGroups foreignKeyRows).entries.filter (keptForeignKey tables)).mapM
    (buildForeignKey sourceName databaseName tables)
  let built ← (sortedTables.zip columns).mapM (fun e => do
    let table ← buildTable sourceName databaseName e.2 primaryKeys foreignKeys e.1
    return (e.1.1, table))
  let schemas ← (sortBy Prod.fst (schemasMeta schemaRows).entries).mapM
    (buildSchema sourceName databaseName databaseId built)
  let database ← Database.create databaseId databaseName dataSourceId schemas
    (textJson databaseRow.description) (← ownership databaseRow.ownerName)
  let dataSource ← DataSource.create dataSourceId sourceName "postgresql" [database] .null none []
  let model ← GovernanceModel.create [dataSource] (foreignKeys.map (fun k => k.2.2))
  validateGraphIntegrity model
  return model

end CollibraGovernance.Scanner
