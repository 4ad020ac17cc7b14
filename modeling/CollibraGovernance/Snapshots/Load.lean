import CollibraGovernance.Comparison.Load
import CollibraGovernance.Snapshots.Validate

/-! Loading a snapshot artifact: the schema, the content identity, and the parsing of the payload. -/
namespace CollibraGovernance.Snapshots
open Library Domain Identity

/-! `governance-snapshot.v1.schema.json` -/

def nonEmptyText : Json → Bool := JsonSchema.text 1

def sourceEnvelopeSchema : Json → Bool := JsonSchema.object
  [⟨"name", true, nonEmptyText⟩, ⟨"database", true, nonEmptyText⟩, ⟨"system_type", true, nonEmptyText⟩]

def scanEnvelopeSchema : Json → Bool := JsonSchema.object
  [⟨"scanner", true, nonEmptyText⟩, ⟨"scanner_contract_version", true, nonEmptyText⟩]

def ownershipSchema : Json → Bool := JsonSchema.object
  [⟨"owner_name", true, nonEmptyText⟩, ⟨"owner_type", true, nonEmptyText⟩]

def nullableOwnershipSchema : Json → Bool := JsonSchema.oneOf [JsonSchema.isNull, ownershipSchema]

/-- Every parsed document is a `jsonValue`. -/
def technicalAttributesSchema : Json → Bool
  | .obj _ => true
  | _ => false

def columnSchema : Json → Bool := JsonSchema.object
  [⟨"id", true, nonEmptyText⟩, ⟨"name", true, nonEmptyText⟩, ⟨"data_type", true, nonEmptyText⟩,
    ⟨"ordinal_position", true, JsonSchema.integer 1⟩, ⟨"nullable", true, fun j => j = .bool true ∨ j = .bool false⟩,
    ⟨"description", true, JsonSchema.anything⟩, ⟨"technical_attributes", true, technicalAttributesSchema⟩]

def columnIdsSchema : Json → Bool := JsonSchema.sized 1 none nonEmptyText

def primaryKeySchema : Json → Bool := JsonSchema.object
  [⟨"id", true, nonEmptyText⟩, ⟨"name", true, nonEmptyText⟩, ⟨"table_id", true, nonEmptyText⟩,
    ⟨"column_ids", true, columnIdsSchema⟩]

def foreignKeySchema : Json → Bool := JsonSchema.object
  [⟨"id", true, nonEmptyText⟩, ⟨"name", true, nonEmptyText⟩, ⟨"table_id", true, nonEmptyText⟩,
    ⟨"column_ids", true, columnIdsSchema⟩, ⟨"referenced_table_id", true, nonEmptyText⟩,
    ⟨"referenced_column_ids", true, columnIdsSchema⟩]

def tableSchema : Json → Bool := JsonSchema.object
  [⟨"id", true, nonEmptyText⟩, ⟨"name", true, nonEmptyText⟩, ⟨"schema_id", true, nonEmptyText⟩,
    ⟨"columns", true, JsonSchema.sized 1 none columnSchema⟩,
    ⟨"primary_key", true, JsonSchema.oneOf [JsonSchema.isNull, primaryKeySchema]⟩,
    ⟨"foreign_keys", true, JsonSchema.array foreignKeySchema⟩, ⟨"description", true, JsonSchema.anything⟩,
    ⟨"ownership", true, nullableOwnershipSchema⟩, ⟨"technical_attributes", true, technicalAttributesSchema⟩]

def schemaSchema : Json → Bool := JsonSchema.object
  [⟨"id", true, nonEmptyText⟩, ⟨"name", true, nonEmptyText⟩, ⟨"database_id", true, nonEmptyText⟩,
    ⟨"tables", true, JsonSchema.array tableSchema⟩, ⟨"description", true, JsonSchema.anything⟩,
    ⟨"ownership", true, nullableOwnershipSchema⟩]

def databaseSchema : Json → Bool := JsonSchema.object
  [⟨"id", true, nonEmptyText⟩, ⟨"name", true, nonEmptyText⟩, ⟨"datasource_id", true, nonEmptyText⟩,
    ⟨"schemas", true, JsonSchema.array schemaSchema⟩, ⟨"description", true, JsonSchema.anything⟩,
    ⟨"ownership", true, nullableOwnershipSchema⟩]

def dataSourceSchema : Json → Bool := JsonSchema.object
  [⟨"id", true, nonEmptyText⟩, ⟨"name", true, nonEmptyText⟩, ⟨"system_type", true, nonEmptyText⟩,
    ⟨"databases", true, JsonSchema.array databaseSchema⟩, ⟨"description", true, JsonSchema.anything⟩,
    ⟨"ownership", true, nullableOwnershipSchema⟩, ⟨"technical_attributes", true, technicalAttributesSchema⟩]

def relationshipSchema : Json → Bool := JsonSchema.object
  [⟨"id", true, nonEmptyText⟩, ⟨"name", true, nonEmptyText⟩, ⟨"from_table_id", true, nonEmptyText⟩,
    ⟨"to_table_id", true, nonEmptyText⟩,
    ⟨"foreign_key_id", true, JsonSchema.oneOf [JsonSchema.isNull, nonEmptyText]⟩,
    ⟨"description", true, JsonSchema.anything⟩]

def governanceModelSchema : Json → Bool := JsonSchema.object
  [⟨"data_sources", true, JsonSchema.sized 1 none dataSourceSchema⟩,
    ⟨"relationships", true, JsonSchema.array relationshipSchema⟩]

/-- Whether the schema of snapshots accepts a document. -/
def snapshotSchemaAccepts : Json → Bool := JsonSchema.object
  [⟨"snapshot_schema", true, JsonSchema.texts [snapshotSchema]⟩,
    ⟨"snapshot_version", true, JsonSchema.texts [snapshotVersion]⟩, ⟨"source", true, sourceEnvelopeSchema⟩,
    ⟨"scan", true, scanEnvelopeSchema⟩, ⟨"governance", true, governanceModelSchema⟩,
    ⟨"content_identity", true, Comparison.contentIdentitySchema⟩]

section Load
/-! The schema validator is a third-party library: it receives a document and reports the failed keywords. -/
variable (sha256 : String → String) (schemaErrors : Json → List JsonSchema.Failure)

/-- `_schema_error_path` -/
def schemaErrorPath (path : List String) : String := "/" ++ "/".intercalate path

def compatibilityError {α : Type} (message code path : String) : Loaded α :=
  .error (.compatibility message code path)

def identityMismatch {α : Type} : Loaded α :=
  .error (.integrity "snapshot content_identity mismatch" "integrity_mismatch" "/content_identity")

/-- The failed keyword that is reported: the first by path, then by keyword. -/
def reportedFailure (failures : List JsonSchema.Failure) : Option JsonSchema.Failure :=
  (sortBy (fun (f : JsonSchema.Failure) => toLex (schemaErrorPath f.absolutePath, f.validator)) failures).head?

def validateSnapshotSchema (document : Json) : Loaded Unit :=
  match reportedFailure (schemaErrors document) with
  | some failure => compatibilityError ("invalid snapshot payload (" ++ failure.validator ++ ")")
      "invalid_snapshot_payload" (schemaErrorPath failure.absolutePath)
  | none => .ok ()

/-- The stored identity is the one computed from the other members. -/
def checkIdentity (payload identity : List (String × Json)) : Loaded Unit :=
  let expected := snapshotIdentity sha256 (.obj (payload.filter (fun m => m.1 ≠ "content_identity")))
  match Json.get identity "algorithm", Json.get identity "hashing_contract_version", Json.get identity "digest" with
  | .str algorithm, .str version, .str digest =>
    if (⟨algorithm, version, digest⟩ : ContentIdentity) = expected then .ok () else identityMismatch
  | _, _, _ => identityMismatch

/-- What is checked of a payload before it is parsed. -/
def checkEnvelope (payload : List (String × Json)) : Loaded Unit :=
  if Json.get payload "snapshot_schema" ≠ .str snapshotSchema then
    compatibilityError "unsupported snapshot schema" "unsupported_snapshot_schema" "/snapshot_schema"
  else if Json.get payload "snapshot_version" ≠ .str snapshotVersion then
    compatibilityError "unsupported snapshot version" "unsupported_snapshot_version" "/snapshot_version"
  else match Json.get payload "content_identity" with
    | .obj identity => do
      validateSnapshotSchema schemaErrors (.obj payload)
      checkIdentity sha256 payload identity
    | _ => compatibilityError "snapshot content_identity is required" "missing_content_identity" "/content_identity"

/-- `load_snapshot_artifact`, on the document of the file; a key given twice is refused by the JSON parser. -/
def loadSnapshotArtifact (document : Json) : Loaded GovernanceSnapshot :=
  if document.uniqueKeys = false then compatibilityError "invalid snapshot JSON" "parse_error" "/"
  else match document with
    | .obj payload => do
      checkEnvelope sha256 schemaErrors payload
      validateAndParseSnapshotPayload payload
    | _ => compatibilityError "snapshot root must be a mapping" "invalid_snapshot_root" "/"

end Load
end CollibraGovernance.Snapshots
