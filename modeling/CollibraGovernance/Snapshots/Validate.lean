import CollibraGovernance.Library.PyJson
import CollibraGovernance.Library.ReadEach
import CollibraGovernance.Snapshots.Models

/-! Strict parsing of a snapshot payload. -/
namespace CollibraGovernance.Snapshots
open Library Domain Identity

/-- `SnapshotCompatibilityError`, `SnapshotIntegrityError`, or an exception that is no `SnapshotError`. -/
inductive SnapshotFailure where
  | compatibility (message code path : String)
  | integrity (message code path : String)
  | uncaught (message : String)
  deriving DecidableEq

abbrev Loaded (α : Type) := Except SnapshotFailure α

/-- `_payload_error` -/
def payloadFailure (message path : String) : SnapshotFailure :=
  .compatibility message "invalid_snapshot_payload" path

def payloadError {α : Type} (message path : String) : Loaded α := .error (payloadFailure message path)

/-- What a constructor of the domain refuses is not caught. -/
def raised {α : Type} (x : Except String α) : Loaded α := x.mapError .uncaught

/-! Field validators. -/

def requireStr (value : Json) (path : String) : Loaded String :=
  match value with
  | .str text => .ok text
  | _ => payloadError "value must be a string" path

/-- `_require_non_empty_str` -/
def requireText (value : Json) (path : String) : Loaded String := do
  let text ← requireStr value path
  if text = "" then payloadError "string must be non-empty" path else .ok text

def requireInt (value : Json) (path : String) : Loaded Int :=
  match value with
  | .int i => .ok i
  | _ => payloadError "value must be an integer" path

def requireBool (value : Json) (path : String) : Loaded Bool :=
  match value with
  | .bool b => .ok b
  | _ => payloadError "value must be a boolean" path

def requireMapping (value : Json) (path : String) : Loaded (List (String × Json)) :=
  match value with
  | .obj members => .ok members
  | _ => payloadError "value must be a mapping" path

def requireList (value : Json) (path : String) : Loaded (List Json) :=
  match value with
  | .arr items => .ok items
  | _ => payloadError "value must be an array" path

/-- `_require_non_empty_str(mapping.get(key), path=f"{path}/{key}")` -/
def textField (mapping : List (String × Json)) (key path : String) : Loaded String :=
  requireText (Json.get mapping key) (path ++ "/" ++ key)

/-- `_description_from_value`: every parsed document is finite JSON. -/
def descriptionFromValue (value : Json) : Json := value.normalize

/-- `mapping.get(key, default)` -/
def getOr (mapping : List (String × Json)) (key : String) (default : Json) : Json :=
  (Json.lookup mapping key).getD default

def ownershipFromDict (raw : Json) (path : String) : Loaded (Option Ownership) :=
  match raw with
  | .null => .ok none
  | raw => do
    let mapping ← requireMapping raw path
    let ownerName ← textField mapping "owner_name" path
    let ownerType ← requireText (getOr mapping "owner_type" (.str "role")) (path ++ "/owner_type")
    let ownership ← raised (Ownership.create ownerName ownerType)
    return some ownership

/-- `_technical_attributes_from_dict(mapping.get("technical_attributes", {}), ...)` -/
def technicalAttributesFromDict (mapping : List (String × Json)) (path : String) :
    Loaded (List (String × Json)) :=
  requireMapping (getOr mapping "technical_attributes" (.obj [])) (path ++ "/technical_attributes")

/-- `_register_id` -/
def registerId (seen : List String) (objectId path : String) : Loaded (List String) :=
  if objectId ∈ seen then payloadError ("duplicate snapshot object id: " ++ objectId) path
  else .ok (seen ++ [objectId])

/-! Records. Each sees the ids registered before it. -/

def columnFromDict (path : String) (seen : List String) (raw : Json) : Loaded (Column × List String) := do
  let mapping ← requireMapping raw path
  let id ← textField mapping "id" path
  let seen ← registerId seen id (path ++ "/id")
  let name ← textField mapping "name" path
  let dataType ← textField mapping "data_type" path
  let ordinalPosition ← requireInt (Json.get mapping "ordinal_position") (path ++ "/ordinal_position")
  let nullable ← requireBool (Json.get mapping "nullable") (path ++ "/nullable")
  let technicalAttributes ← technicalAttributesFromDict mapping path
  let column ← raised (Column.create id name dataType ordinalPosition nullable
    (descriptionFromValue (Json.get mapping "description")) technicalAttributes)
  return (column, seen)

/-- The column ids listed under a key, each of which has to be among the known ones. -/
def columnIdsFromList (known : List String) (message path : String) (raw : List Json) : Loaded (List String) :=
  raw.zipIdx.mapM fun entry => do
    let columnId ← requireText entry.1 (path ++ "/" ++ toString entry.2)
    if columnId ∈ known then .ok columnId else payloadError message (path ++ "/" ++ toString entry.2)

/-- An id of a containing object that an object names. -/
def parentId (mapping : List (String × Json)) (key message path parent : String) : Loaded String := do
  let found ← textField mapping key path
  if found = parent then .ok found else payloadError message (path ++ "/" ++ key)

def primaryKeyFromDict (path tableId : String) (columnIds seen : List String) (raw : Json) :
    Loaded (PrimaryKey × List String) := do
  let mapping ← requireMapping raw path
  let id ← textField mapping "id" path
  let seen ← registerId seen id (path ++ "/id")
  let tableId ← parentId mapping "table_id" "primary_key.table_id does not resolve to containing table" path tableId
  let listed ← requireList (Json.get mapping "column_ids") (path ++ "/column_ids")
  let ids ← columnIdsFromList columnIds "primary_key column_id does not resolve on containing table"
    (path ++ "/column_ids") listed
  let name ← textField mapping "name" path
  let key ← raised (PrimaryKey.create id name tableId ids)
  return (key, seen)

/-- A table with the ids of its columns and its foreign keys as listed, which are read after all tables. -/
structure ParsedTable where
  table : Table
  columnIds : List String
  pending : List (Json × String)

structure ParsedSchema where
  schema : Schema
  tables : List ParsedTable

/-- The optional primary key of a table. -/
def primaryKeyOf (path tableId : String) (columnIds seen : List String) (raw : Json) :
    Loaded (Option PrimaryKey × List String) :=
  match raw with
  | .null => .ok (none, seen)
  | raw => do
    let key ← primaryKeyFromDict path tableId columnIds seen raw
    return (some key.1, key.2)

def tableFromDict (path schemaId : String) (seen : List String) (raw : Json) :
    Loaded (ParsedTable × List String) := do
  let mapping ← requireMapping raw path
  let id ← textField mapping "id" path
  let seen ← registerId seen id (path ++ "/id")
  let schemaId ← parentId mapping "schema_id" "table.schema_id does not resolve to containing schema" path schemaId
  let listed ← requireList (Json.get mapping "columns") (path ++ "/columns")
  let columns ← readEach (fun index => columnFromDict (path ++ "/columns/" ++ toString index)) 0 seen listed
  let columnIds := columns.1.map Column.id
  let primaryKey ← primaryKeyOf (path ++ "/primary_key") id columnIds columns.2 (Json.get mapping "primary_key")
  let foreignKeys ← requireList (Json.get mapping "foreign_keys") (path ++ "/foreign_keys")
  let name ← textField mapping "name" path
  let ownership ← ownershipFromDict (Json.get mapping "ownership") (path ++ "/ownership")
  let technicalAttributes ← technicalAttributesFromDict mapping path
  let table ← raised (Table.create id name schemaId columns.1 primaryKey.1 []
    (descriptionFromValue (Json.get mapping "description")) ownership technicalAttributes)
  return (⟨table, columnIds, foreignKeys.zipIdx.map (fun entry =>
    (entry.1, path ++ "/foreign_keys/" ++ toString entry.2))⟩, primaryKey.2)

def schemaFromDict (path databaseId : String) (seen : List String) (raw : Json) :
    Loaded (ParsedSchema × List String) := do
  let mapping ← requireMapping raw path
  let id ← textField mapping "id" path
  let seen ← registerId seen id (path ++ "/id")
  let databaseId ← parentId mapping "database_id" "schema.database_id does not resolve to database" path databaseId
  let listed ← requireList (Json.get mapping "tables") (path ++ "/tables")
  let tables ← readEach (fun index => tableFromDict (path ++ "/tables/" ++ toString index) id) 0 seen listed
  let name ← textField mapping "name" path
  let ownership ← ownershipFromDict (Json.get mapping "ownership") (path ++ "/ownership")
  let schema ← raised (Schema.create id name databaseId (tables.1.map ParsedTable.table)
    (descriptionFromValue (Json.get mapping "description")) ownership)
  return (⟨schema, tables.1⟩, tables.2)

/-- `columns_by_table.get(table_id, set())` -/
def columnsByTable (tables : List ParsedTable) (tableId : String) : List String :=
  ((tables.find? (fun t => t.table.id = tableId)).map ParsedTable.columnIds).getD []

def foreignKeyFromDict (tables : List ParsedTable) (path tableId : String) (seen : List String) (raw : Json) :
    Loaded (ForeignKey × List String) := do
  let mapping ← requireMapping raw path
  let id ← textField mapping "id" path
  let seen ← registerId seen id (path ++ "/id")
  let tableId ← parentId mapping "table_id" "foreign_key.table_id does not resolve to containing table" path tableId
  let listed ← requireList (Json.get mapping "column_ids") (path ++ "/column_ids")
  let columnIds ← columnIdsFromList (columnsByTable tables tableId)
    "foreign_key column_id does not resolve on containing table" (path ++ "/column_ids") listed
  let referencedTableId ← textField mapping "referenced_table_id" path
  if referencedTableId ∉ tables.map (fun t => t.table.id) then
    payloadError "referenced_table_id does not resolve to a table" (path ++ "/referenced_table_id")
  else do
    let listed ← requireList (Json.get mapping "referenced_column_ids") (path ++ "/referenced_column_ids")
    let referencedColumnIds ← columnIdsFromList (columnsByTable tables referencedTableId)
      "referenced_column_id does not resolve on referenced table" (path ++ "/referenced_column_ids") listed
    if columnIds.length ≠ referencedColumnIds.length then
      payloadError "column_ids and referenced_column_ids length mismatch" path
    else do
      let name ← textField mapping "name" path
      let key ← raised (ForeignKey.create id name tableId columnIds referencedTableId referencedColumnIds)
      return (key, seen)

/-- The table with its foreign keys. -/
def rebuildTable (foreignKeys : List ForeignKey) (t : Table) : Loaded Table :=
  raised (Table.create t.id t.name t.schemaId t.columns t.primaryKey
    (foreignKeys.filter (fun k => k.tableId = t.id)) t.description t.ownership t.technicalAttributes)

def rebuildSchema (foreignKeys : List ForeignKey) (s : Schema) : Loaded Schema := do
  let tables ← s.tables.mapM (rebuildTable foreignKeys)
  raised (Schema.create s.id s.name s.databaseId tables s.description s.ownership)

/-- What the envelope of a payload says of its source and scan, with the governance document. -/
structure Envelope where
  sourceName : String
  databaseName : String
  systemType : String
  scanner : String
  scannerContractVersion : String
  governance : List (String × Json)

def envelopeFromDict (payload : List (String × Json)) : Loaded Envelope := do
  let source ← requireMapping (Json.get payload "source") "/source"
  let scan ← requireMapping (Json.get payload "scan") "/scan"
  let governance ← requireMapping (Json.get payload "governance") "/governance"
  let sourceName ← textField source "name" "/source"
  let databaseName ← textField source "database" "/source"
  let systemType ← textField source "system_type" "/source"
  let scanner ← textField scan "scanner" "/scan"
  let contractVersion ← textField scan "scanner_contract_version" "/scan"
  if contractVersion ≠ Snapshots.scannerContractVersion then
    payloadError ("scanner_contract_version must be '" ++ Snapshots.scannerContractVersion ++ "'")
      "/scan/scanner_contract_version"
  else .ok ⟨sourceName, databaseName, systemType, scanner, contractVersion, governance⟩

/-- The only entry of a list. -/
def onlyEntry (raw : Json) (message path : String) : Loaded Json := do
  let entries ← requireList raw path
  match entries with
  | [entry] => .ok entry
  | _ => payloadError message path

def dataSourcePath : String := "/governance/data_sources/0"
def databasePath : String := "/governance/data_sources/0/databases/0"

/-- The data source and its database, before their contents are read. -/
structure Roots where
  dataSource : List (String × Json)
  dataSourceId : String
  dataSourceName : String
  dataSourceSystemType : String
  database : List (String × Json)
  databaseId : String
  databaseName : String
  schemas : List Json

def Roots.seen (r : Roots) : List String := [r.dataSourceId, r.databaseId]

def rootsFromDict (governance : List (String × Json)) : Loaded Roots := do
  let raw ← onlyEntry (Json.get governance "data_sources") "snapshot must contain exactly one data_source"
    "/governance/data_sources"
  let dataSource ← requireMapping raw dataSourcePath
  let dataSourceId ← textField dataSource "id" dataSourcePath
  let seen ← registerId [] dataSourceId (dataSourcePath ++ "/id")
  let dataSourceName ← textField dataSource "name" dataSourcePath
  let systemType ← textField dataSource "system_type" dataSourcePath
  let raw ← onlyEntry (Json.get dataSource "databases") "snapshot must contain exactly one database"
    (dataSourcePath ++ "/databases")
  let database ← requireMapping raw databasePath
  let databaseId ← textField database "id" databasePath
  let _ ← registerId seen databaseId (databasePath ++ "/id")
  let databaseName ← textField database "name" databasePath
  let _ ← parentId database "datasource_id" "database.datasource_id does not resolve to data_source" databasePath
    dataSourceId
  let schemas ← requireList (Json.get database "schemas") (databasePath ++ "/schemas")
  return ⟨dataSource, dataSourceId, dataSourceName, systemType, database, databaseId, databaseName, schemas⟩

/-- `pending_fks`: the foreign keys as listed, each with its table and its path. -/
def pendingForeignKeys (tables : List ParsedTable) : List (String × Json × String) :=
  tables.flatMap (fun t => t.pending.map (fun entry => (t.table.id, entry)))

def foreignKeysFromDict (tables : List ParsedTable) (seen : List String) : Loaded (List ForeignKey × List String) :=
  readEach (fun _ seen entry => foreignKeyFromDict tables entry.2.2 entry.1 seen entry.2.1) 0 seen
    (pendingForeignKeys tables)

def schemaPath (index : Nat) : String := databasePath ++ "/schemas/" ++ toString index

/-- The schemas with all their tables, and then the foreign keys of the tables. -/
def schemasFromDict (roots : Roots) : Loaded (List Schema × List ParsedTable × List ForeignKey × List String) := do
  let schemas ← readEach (fun index => schemaFromDict (schemaPath index) roots.databaseId) 0 roots.seen roots.schemas
  let tables := schemas.1.flatMap ParsedSchema.tables
  let foreignKeys ← foreignKeysFromDict tables schemas.2
  let rebuilt ← schemas.1.mapM (fun s => rebuildSchema foreignKeys.1 s.schema)
  return (rebuilt, tables, foreignKeys.1, foreignKeys.2)

def dataSourceFromDict (roots : Roots) (schemas : List Schema) : Loaded (DataSource × Database) := do
  let databaseOwnership ← ownershipFromDict (Json.get roots.database "ownership") (databasePath ++ "/ownership")
  let database ← raised (Database.create roots.databaseId roots.databaseName roots.dataSourceId schemas
    (descriptionFromValue (Json.get roots.database "description")) databaseOwnership)
  let ownership ← ownershipFromDict (Json.get roots.dataSource "ownership") (dataSourcePath ++ "/ownership")
  let technicalAttributes ← technicalAttributesFromDict roots.dataSource dataSourcePath
  let dataSource ← raised (DataSource.create roots.dataSourceId roots.dataSourceName roots.dataSourceSystemType
    [database] (descriptionFromValue (Json.get roots.dataSource "description")) ownership technicalAttributes)
  return (dataSource, database)

def envelopeMatches (envelope : Envelope) (dataSource : DataSource) (database : Database) : Loaded Unit :=
  if envelope.sourceName ≠ dataSource.name then
    payloadError "envelope source name does not match model data_source.name" "/source/name"
  else if envelope.databaseName ≠ database.name then
    payloadError "envelope database name does not match model database.name" "/source/database"
  else if envelope.systemType ≠ dataSource.systemType then
    payloadError "envelope system_type does not match model data_source.system_type" "/source/system_type"
  else .ok ()

/-- The foreign key that a relationship names, which has to lead between its tables. -/
def relationshipForeignKey (foreignKeys : List ForeignKey) (path fromTableId toTableId : String) (raw : Json) :
    Loaded (Option String) :=
  match raw with
  | .null => .ok none
  | raw => do
    let id ← requireText raw (path ++ "/foreign_key_id")
    match foreignKeys.find? (fun k => k.id = id) with
    | none => payloadError "relationship.foreign_key_id does not resolve to a foreign_key" (path ++ "/foreign_key_id")
    | some key =>
      if key.tableId ≠ fromTableId then
        payloadError "foreign_key source table does not match relationship.from_table_id" (path ++ "/foreign_key_id")
      else if key.referencedTableId ≠ toTableId then
        payloadError "foreign_key referenced table does not match relationship.to_table_id"
          (path ++ "/foreign_key_id")
      else .ok (some id)

/-- A table that a relationship names. -/
def knownTableId (tableIds : List String) (id message path : String) : Loaded Unit :=
  if id ∈ tableIds then .ok () else payloadError message path

def relationshipFromDict (tableIds : List String) (foreignKeys : List ForeignKey) (path : String)
    (seen : List String) (raw : Json) : Loaded (Relationship × List String) := do
  let mapping ← requireMapping raw path
  let id ← textField mapping "id" path
  let seen ← registerId seen id (path ++ "/id")
  let fromTableId ← textField mapping "from_table_id" path
  let toTableId ← textField mapping "to_table_id" path
  knownTableId tableIds fromTableId "relationship.from_table_id does not resolve" (path ++ "/from_table_id")
  knownTableId tableIds toTableId "relationship.to_table_id does not resolve to a table" (path ++ "/to_table_id")
  let foreignKeyId ← relationshipForeignKey foreignKeys path fromTableId toTableId (Json.get mapping "foreign_key_id")
  let name ← textField mapping "name" path
  let relationship ← (Relationship.create id name fromTableId toTableId foreignKeyId
    (descriptionFromValue (Json.get mapping "description"))).mapError (fun message => payloadFailure message path)
  return (relationship, seen)

/-- The relationships, and the model of everything read. -/
def modelFromDict (governance : List (String × Json)) (dataSource : DataSource) (tables : List ParsedTable)
    (foreignKeys : List ForeignKey) (seen : List String) : Loaded GovernanceModel := do
  let listed ← requireList (Json.get governance "relationships") "/governance/relationships"
  let relationships ← readEach (fun index => relationshipFromDict (tables.map (fun t => t.table.id)) foreignKeys
    ("/governance/relationships/" ++ toString index)) 0 seen listed
  (GovernanceModel.create [dataSource] relationships.1).mapError (fun message => payloadFailure message "/governance")

/-- `validate_and_parse_snapshot_payload` -/
def validateAndParseSnapshotPayload (payload : List (String × Json)) : Loaded GovernanceSnapshot := do
  let envelope ← envelopeFromDict payload
  let roots ← rootsFromDict envelope.governance
  let (schemas, tables, foreignKeys, seen) ← schemasFromDict roots
  let (dataSource, database) ← dataSourceFromDict roots schemas
  envelopeMatches envelope dataSource database
  let model ← modelFromDict envelope.governance dataSource tables foreignKeys seen
  return ⟨model, envelope.sourceName, envelope.databaseName, envelope.systemType, envelope.scanner,
    envelope.scannerContractVersion⟩

end CollibraGovernance.Snapshots
