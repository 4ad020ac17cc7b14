import CollibraGovernance.Comparison.Identity
import CollibraGovernance.Library.JsonPointer
import CollibraGovernance.Snapshots.Models

/-! Projecting a snapshot into comparable objects with structured identity. -/
namespace CollibraGovernance.Comparison
open Library Domain Snapshots

structure DiagnosticError where
  code : String
  path : String
  message : String
  deriving DecidableEq

def codeInvalidSnapshotPayload : String := "invalid_snapshot_payload"
def codeSnapshotEnvelopeMismatch : String := "snapshot_envelope_mismatch"
def codeScannerContractMismatch : String := "scanner_contract_mismatch"
def codeDuplicateSnapshotObjectId : String := "duplicate_snapshot_object_id"
def codeDuplicateComparisonIdentity : String := "duplicate_comparison_identity"
def codeInvalidSnapshotReferences : String := "invalid_snapshot_references"

/-- A failure carries its diagnostics. -/
abbrev Checked (α : Type) := Except (List DiagnosticError) α

/-- `if errors: raise ComparisonError(errors)` -/
def raiseIfAny (errors : List DiagnosticError) : Checked Unit :=
  if errors = [] then .ok () else .error errors

theorem raiseIfAny_eq_ok {errors : List DiagnosticError} : raiseIfAny errors = .ok () ↔ errors = [] := by
  unfold raiseIfAny
  split_ifs with h
  · simp [h]
  · simp [h]

section Project
variable (isPrintable : Char → Bool) (side : String)

def diagnosticPath (segments : List String) : String := pointerText (side :: segments)

/-- The error of a reference that does not lead where it should. -/
def referenceError (segments : List String) (message : String) : DiagnosticError :=
  ⟨codeInvalidSnapshotReferences, diagnosticPath side ("governance" :: segments), message⟩

/-- One diagnostic when the condition fails. -/
def diagnose (holds : Bool) (error : DiagnosticError) : List DiagnosticError := if holds then [] else [error]

/-- `validate_snapshot_shape_and_envelope`, with the root it establishes. -/
def validateSnapshotShapeAndEnvelope (s : GovernanceSnapshot) : Checked (DataSource × Database) :=
  match s.model.dataSources with
  | [dataSource] =>
    match dataSource.databases with
    | [database] => do
      raiseIfAny (
        diagnose (s.sourceName = dataSource.name) ⟨codeSnapshotEnvelopeMismatch,
          diagnosticPath side ["source", "name"],
          "envelope source name does not match model data_source.name"⟩ ++
        diagnose (s.databaseName = database.name) ⟨codeSnapshotEnvelopeMismatch,
          diagnosticPath side ["source", "database"],
          "envelope database name does not match model database.name"⟩ ++
        diagnose (s.systemType = dataSource.systemType) ⟨codeSnapshotEnvelopeMismatch,
          diagnosticPath side ["source", "system_type"],
          "envelope system_type does not match model data_source.system_type"⟩ ++
        diagnose (s.scanner ≠ "") ⟨codeInvalidSnapshotPayload, diagnosticPath side ["scan", "scanner"],
          "scanner must be a non-empty string"⟩ ++
        diagnose (s.systemType ≠ "" ∧ s.scannerContractVersion ≠ "") ⟨codeInvalidSnapshotPayload,
          diagnosticPath side ["scan"],
          "system_type and scanner_contract_version must be non-empty strings"⟩ ++
        diagnose (s.scannerContractVersion = scannerContractVersion) ⟨codeScannerContractMismatch,
          diagnosticPath side ["scan", "scanner_contract_version"],
          "scanner_contract_version must be " ++ Json.reprString isPrintable scannerContractVersion ++
            "; got " ++ Json.reprString isPrintable s.scannerContractVersion⟩)
      return (dataSource, database)
    | _ => .error [⟨codeInvalidSnapshotPayload, diagnosticPath side ["governance"],
        "snapshot must contain exactly one database"⟩]
  | _ => .error [⟨codeInvalidSnapshotPayload, diagnosticPath side ["governance"],
      "snapshot must contain exactly one data_source"⟩]

/-- What the first pass does, one thing after the other. -/
inductive Step where
  | check (holds : Bool) (error : DiagnosticError)
  | register (rawId : String) (object : ComparableObject)

structure Registered where
  rawToIdentity : Dict String ComparisonObjectIdentity
  identityToRaw : Dict ComparisonObjectIdentity String
  objects : Dict ComparisonObjectIdentity ComparableObject
  errors : List DiagnosticError

def Registered.empty : Registered := ⟨.empty, .empty, .empty, []⟩

def Registered.fail (s : Registered) (error : DiagnosticError) : Registered :=
  { s with errors := s.errors ++ [error] }

/-- `register` -/
def register (s : Registered) (rawId : String) (object : ComparableObject) : Registered :=
  if s.rawToIdentity.contains rawId then
    s.fail ⟨codeDuplicateSnapshotObjectId, diagnosticPath side ["objects", rawId],
      "duplicate snapshot object id: " ++ rawId⟩
  else if s.identityToRaw.contains object.objectIdentity then
    s.fail ⟨codeDuplicateComparisonIdentity,
      diagnosticPath side ["identity", object.objectIdentity.kind.text],
      "duplicate comparison identity for kind=" ++ object.objectIdentity.kind.text⟩
  else
    { s with
      rawToIdentity := s.rawToIdentity.set rawId object.objectIdentity
      identityToRaw := s.identityToRaw.set object.objectIdentity rawId
      objects := s.objects.set object.objectIdentity object }

def runStep (s : Registered) : Step → Registered
  | .check holds error => if holds then s else s.fail error
  | .register rawId object => register side s rawId object

/-- A mapping written entry by entry. -/
def properties (entries : List (String × ComparablePropertyValue)) : Dict String ComparablePropertyValue :=
  Dict.index Prod.fst Prod.snd entries

def technicalPointer (key : String) : String := pointerText ["technical_attributes", key]

/-- `_tech_props`: the base properties, then one property for each technical attribute. -/
def techProps (base : List (String × ComparablePropertyValue))
    (technicalAttributes : List (String × Json)) : Dict String ComparablePropertyValue :=
  properties (base ++
    technicalAttributes.map (fun a => (technicalPointer a.1, ComparablePropertyValue.of a.2)))

def schemaIdentity (s : Schema) : ComparisonObjectIdentity := .schema (.of s.name s.name_nonblank)

def tableIdentity (s : Schema) (t : Table) : ComparisonObjectIdentity :=
  .table (.of s.name s.name_nonblank) (.of t.name t.name_nonblank)

def columnIdentity (s : Schema) (t : Table) (c : Column) : ComparisonObjectIdentity :=
  .column (.of s.name s.name_nonblank) (.of t.name t.name_nonblank) (.of c.name c.name_nonblank)

def primaryKeyIdentity (s : Schema) (t : Table) (k : PrimaryKey) : ComparisonObjectIdentity :=
  .primaryKey (.of s.name s.name_nonblank) (.of t.name t.name_nonblank) (.of k.name k.name_nonblank)

def foreignKeyIdentity (s : Schema) (t : Table) (k : ForeignKey) : ComparisonObjectIdentity :=
  .foreignKey (.of s.name s.name_nonblank) (.of t.name t.name_nonblank) (.of k.name k.name_nonblank)

def relationshipIdentity (s : Schema) (t : Table) (r : Relationship) : ComparisonObjectIdentity :=
  .relationship (.of s.name s.name_nonblank) (.of t.name t.name_nonblank) (.of r.name r.name_nonblank)

def text (value : String) : ComparablePropertyValue := .of (.str value)

/-- The placeholder of a reference to a table. -/
def unresolvedTable : ComparablePropertyValue := .of (.obj [("kind", .str "table"), ("path", .arr [])])

def dataSourceSteps (s : DataSource) : List Step :=
  [.register s.id ⟨.dataSource, none, techProps [("/name", text s.name),
    ("/system_type", text s.systemType), ("/description", .of s.description),
    ("/ownership", .of (ownershipToDict s.ownership))] s.technicalAttributes⟩]

def columnStep (s : Schema) (t : Table) (c : Column) : Step :=
  .register c.id ⟨columnIdentity s t c, some (tableIdentity s t), techProps [("/name", text c.name),
    ("/data_type", text c.dataType), ("/ordinal_position", .of (.int c.ordinalPosition)),
    ("/nullable", .of (.bool c.nullable)), ("/description", .of c.description)]
    c.technicalAttributes⟩

def primaryKeySteps (s : Schema) (t : Table) (k : PrimaryKey) : List Step :=
  [.check (k.tableId = t.id) (referenceError side
      ["primary_keys", s.name, t.name, k.name, "table_id"]
      "primary_key.table_id does not resolve to containing table"),
    .register k.id ⟨primaryKeyIdentity s t k, some (tableIdentity s t),
      properties [("/name", text k.name), ("/column_ids", .of (.arr []))]⟩]

def foreignKeySteps (s : Schema) (t : Table) (k : ForeignKey) : List Step :=
  [.check (k.tableId = t.id) (referenceError side
      ["foreign_keys", s.name, t.name, k.name, "table_id"]
      "foreign_key.table_id does not resolve to containing table"),
    .register k.id ⟨foreignKeyIdentity s t k, some (tableIdentity s t),
      properties [("/name", text k.name), ("/column_ids", .of (.arr [])),
        ("/referenced_table_id", unresolvedTable), ("/referenced_column_ids", .of (.arr []))]⟩]

def tableSteps (s : Schema) (t : Table) : List Step :=
  .check (t.schemaId = s.id) (referenceError side ["tables", s.name, t.name, "schema_id"]
      "table.schema_id does not resolve to containing schema") ::
  .register t.id ⟨tableIdentity s t, some (schemaIdentity s), techProps [("/name", text t.name),
      ("/description", .of t.description), ("/ownership", .of (ownershipToDict t.ownership))]
      t.technicalAttributes⟩ ::
    (t.columns.map (columnStep s t) ++ t.primaryKey.toList.flatMap (primaryKeySteps side s t) ++
      t.foreignKeys.flatMap (foreignKeySteps side s t))

def schemaSteps (d : Database) (s : Schema) : List Step :=
  .check (s.databaseId = d.id) (referenceError side ["schemas", s.name, "database_id"]
      "schema.database_id does not resolve to database") ::
  .register s.id ⟨schemaIdentity s, some .database, properties [("/name", text s.name),
      ("/description", .of s.description), ("/ownership", .of (ownershipToDict s.ownership))]⟩ ::
    s.tables.flatMap (tableSteps side s)

def databaseSteps (source : DataSource) (d : Database) : List Step :=
  .check (d.datasourceId = source.id) (referenceError side ["database", "datasource_id"]
      "database.datasource_id does not resolve to data_source") ::
  .register d.id ⟨.database, some .dataSource, properties [("/name", text d.name),
      ("/description", .of d.description), ("/ownership", .of (ownershipToDict d.ownership))]⟩ ::
    d.schemas.flatMap (schemaSteps side d)

section Lookups
variable (m : GovernanceModel)

def schemaById : Dict String Schema := Dict.index Schema.id id m.schemas
def tableById : Dict String Table := Dict.index Table.id id m.tables
def columnById : Dict String Column := Dict.index Column.id id (m.tables.flatMap Table.columns)
def fkById : Dict String ForeignKey := Dict.index ForeignKey.id id (m.tables.flatMap Table.foreignKeys)

def relationshipStep (r : Relationship) : Step :=
  match (tableById m).get? r.fromTableId with
  | none => .check false (referenceError side ["relationships", r.name]
      "relationship.from_table_id does not resolve")
  | some t =>
    match (schemaById m).get? t.schemaId with
    | none => .check false (referenceError side ["relationships", r.name]
        "relationship source schema unresolved")
    | some s => .register r.id ⟨relationshipIdentity s t r, some (tableIdentity s t),
        properties [("/name", text r.name), ("/to_table_id", unresolvedTable),
          ("/foreign_key_id", .of .null), ("/description", .of r.description)]⟩

/-- The first pass. -/
def steps (source : DataSource) (d : Database) : List Step :=
  dataSourceSteps source ++ databaseSteps side source d ++ m.relationships.map (relationshipStep side m)

variable (raw : Dict String ComparisonObjectIdentity)

def identityRef (i : ComparisonObjectIdentity) : Json := i.toDict

/-- The raw id leads to an identity of the given kind. -/
def resolveKind (kind : GovernedObjectKind) (rawId : String) : Option ComparisonObjectIdentity :=
  (raw.get? rawId).filter (fun i => i.kind = kind)

/-- `_resolve_column_refs` -/
def resolveColumnRefs (columnIds : List String) (expectedTableId : String) (segments : List String) :
    Except DiagnosticError (List Json) :=
  match (tableById m).get? expectedTableId with
  | none => .error (referenceError side segments "parent table unresolved for column refs")
  | some t => columnIds.mapM (fun columnId =>
      match (columnById m).get? columnId, resolveKind raw .column columnId with
      | some _, some i =>
        if columnId ∈ t.columns.map Column.id then .ok (identityRef i)
        else .error (referenceError side segments
          ("column " ++ columnId ++ " does not belong to parent table"))
      | _, _ => .error (referenceError side segments ("column ref does not resolve: " ++ columnId)))

/-- The properties of one object that the second pass writes. -/
structure Patch where
  identity : ComparisonObjectIdentity
  updates : List (String × ComparablePropertyValue)

/-- The errors of patching one object, and the patch when there is one. -/
structure PatchOutcome where
  errors : List DiagnosticError
  patch : Option Patch

def errorsOf {α : Type} : Except DiagnosticError α → List DiagnosticError
  | .error e => [e]
  | .ok _ => []

def patchPrimaryKey (t : Table) (k : PrimaryKey) : PatchOutcome :=
  match raw.get? k.id with
  | none => ⟨[], none⟩
  | some i =>
    match resolveColumnRefs side m raw k.columnIds t.id ["primary_keys", k.name, "column_ids"] with
    | .error e => ⟨[e], none⟩
    | .ok refs => ⟨[], some ⟨i, [("/column_ids", .of (.arr refs))]⟩⟩

def patchForeignKey (t : Table) (k : ForeignKey) : PatchOutcome :=
  match raw.get? k.id with
  | none => ⟨[], none⟩
  | some i =>
    let sourceRefs := resolveColumnRefs side m raw k.columnIds t.id
      ["foreign_keys", k.name, "column_ids"]
    match resolveKind raw .table k.referencedTableId with
    | none => ⟨errorsOf sourceRefs ++ [referenceError side
        ["foreign_keys", k.name, "referenced_table_id"]
        "referenced_table_id does not resolve to a table"], none⟩
    | some tableIdentity =>
      if k.columnIds.length ≠ k.referencedColumnIds.length then
        ⟨errorsOf sourceRefs ++ [referenceError side ["foreign_keys", k.name]
          "column_ids and referenced_column_ids length mismatch"], none⟩
      else
        let refCols := resolveColumnRefs side m raw k.referencedColumnIds k.referencedTableId
          ["foreign_keys", k.name, "referenced_column_ids"]
        match sourceRefs, refCols with
        | .ok sources, .ok columns => ⟨[], some ⟨i, [("/column_ids", .of (.arr sources)),
            ("/referenced_table_id", .of (identityRef tableIdentity)),
            ("/referenced_column_ids", .of (.arr columns))]⟩⟩
        | _, _ => ⟨errorsOf sourceRefs ++ errorsOf refCols, none⟩

/-- The value of a relationship's key: the identity of the foreign key it is drawn from. -/
def relationshipKey (r : Relationship) : Except DiagnosticError Json :=
  match r.foreignKeyId with
  | none => .ok .null
  | some k =>
    let segments := ["relationships", r.name, "foreign_key_id"]
    match (fkById m).get? k, resolveKind raw .foreignKey k with
    | some f, some i =>
      if f.tableId ≠ r.fromTableId then
        .error (referenceError side segments
          "foreign_key source table does not match relationship.from_table_id")
      else if f.referencedTableId ≠ r.toTableId then
        .error (referenceError side segments
          "foreign_key referenced table does not match relationship.to_table_id")
      else .ok (identityRef i)
    | _, _ => .error (referenceError side segments
        "relationship.foreign_key_id does not resolve to a foreign_key")

def patchRelationship (r : Relationship) : PatchOutcome :=
  match raw.get? r.id with
  | none => ⟨[], none⟩
  | some i =>
    match resolveKind raw .table r.toTableId with
    | none => ⟨[referenceError side ["relationships", r.name, "to_table_id"]
        "relationship.to_table_id does not resolve to a table"], none⟩
    | some toIdentity =>
      match relationshipKey side m raw r with
      | .error e => ⟨[e], none⟩
      | .ok keyValue =>
        match ((tableById m).get? r.fromTableId).bind (fun t => (schemaById m).get? t.schemaId) with
        | none => ⟨[referenceError side ["relationships", r.name, "from_table_id"]
            "relationship.from_table_id does not resolve"], none⟩
        | some _ => ⟨[], some ⟨i, [("/to_table_id", .of (identityRef toIdentity)),
            ("/foreign_key_id", .of keyValue)]⟩⟩

/-- The second pass: `_patch_pk_fk_refs`, then `_patch_relationship_refs`. -/
def patchOutcomes : List PatchOutcome :=
  (tableById m).values.flatMap (fun t =>
    t.primaryKey.toList.map (patchPrimaryKey side m raw t) ++
      t.foreignKeys.map (patchForeignKey side m raw t)) ++
    m.relationships.map (patchRelationship side m raw)

end Lookups

def applyPatch (objects : Dict ComparisonObjectIdentity ComparableObject) (p : Patch) :
    Dict ComparisonObjectIdentity ComparableObject :=
  match objects.get? p.identity with
  | none => objects
  | some o => objects.set p.identity
      { o with properties := p.updates.foldl (fun d u => d.set u.1 u.2) o.properties }

structure ProjectedSnapshot where
  objects : Dict ComparisonObjectIdentity ComparableObject
  rawToIdentity : Dict String ComparisonObjectIdentity
  snapshot : GovernanceSnapshot

def projectSnapshot (s : GovernanceSnapshot) : Checked ProjectedSnapshot := do
  let (source, database) ← validateSnapshotShapeAndEnvelope isPrintable side s
  let registered := (steps side s.model source database).foldl (runStep side) .empty
  raiseIfAny registered.errors
  let outcomes := patchOutcomes side s.model registered.rawToIdentity
  raiseIfAny (outcomes.flatMap PatchOutcome.errors)
  return ⟨(outcomes.filterMap PatchOutcome.patch).foldl applyPatch registered.objects,
    registered.rawToIdentity, s⟩

end Project
end CollibraGovernance.Comparison
