import CollibraGovernance.Library.JsonPointer
import CollibraGovernance.Library.PyJson
import CollibraGovernance.Odcs.Mapper

/-! Validation of dbt manifests of version 12, as far as the mapper reads them. -/
namespace CollibraGovernance.Dbt
open Library

structure DbtDiagnostic where
  code : String
  path : String
  message : String
  deriving DecidableEq

/-- The ingestion failures, and an exception that is none of them. -/
inductive DbtError where
  | unsupportedManifestVersion (errors : List DbtDiagnostic)
  | validation (errors : List DbtDiagnostic)
  | mapping (errors : List DbtDiagnostic)
  | uncaught (message : String)
  deriving DecidableEq

abbrev Checked (α : Type) := Except DbtError α

/-- The members of a JSON object. -/
abbrev Members := List (String × Json)

def codeUnsupportedManifestVersion : String := "dbt_unsupported_manifest_version"
def codeValidation : String := "dbt_validation_error"
def codeMapping : String := "dbt_mapping_error"

/-- `_validation_error` -/
def validationError {α : Type} (path message : String) : Checked α :=
  .error (.validation [⟨codeValidation, path, message⟩])

/-- `_pointer`, one part further. -/
def pointer (parent part : String) : String := parent ++ "/" ++ String.ofList (escapeSegment part.toList)

def pointerAt (parent : String) (index : Nat) : String := pointer parent (toString index)

def supportedManifestSchemaUri : String := "https://schemas.getdbt.com/dbt/manifest/v12.json"

def resourceTypeModel : String := "model"
def resourceTypeSource : String := "source"

/-! ### Fields -/

def requireMapping (value : Json) (path : String) : Checked Members :=
  match value with
  | .obj members => .ok members
  | _ => validationError path "value must be a mapping"

/-- `_require_non_empty_str` -/
def requireText (value : Json) (path : String) : Checked String :=
  match value with
  | .str text => if isBlank text = true then validationError path "value must be a non-empty string" else .ok text
  | _ => validationError path "value must be a non-empty string"

def requireList (value : Json) (path : String) : Checked (List Json) :=
  match value with
  | .arr items => .ok items
  | _ => validationError path "value must be an array"

/-- `_require_non_empty_str(mapping.get(key), path=_pointer(path, key))` -/
def textField (mapping : Members) (key path : String) : Checked String :=
  requireText (Json.get mapping key) (pointer path key)

/-- A member that may be missing, with a check of its own. -/
def optionalField (mapping : Members) (key path : String) (check : Json → String → Checked Unit) : Checked Unit :=
  match Json.lookup mapping key with
  | none => .ok ()
  | some value => check value (pointer path key)

def textOrNull (value : Json) (path : String) : Checked Unit :=
  match value with
  | .null => .ok ()
  | .str _ => .ok ()
  | _ => validationError path "value must be a string or null"

def booleanOrNull (value : Json) (path : String) : Checked Unit :=
  match value with
  | .null => .ok ()
  | .bool _ => .ok ()
  | _ => validationError path "value must be a boolean or null"

def requireString (value : Json) (path : String) : Checked Unit :=
  match value with
  | .str _ => .ok ()
  | _ => validationError path "value must be a string"

/-- A string that is not empty; blanks count. -/
def requireNonEmpty (value : Json) (path : String) : Checked Unit :=
  match value with
  | .str text => if text = "" then validationError path "value must be a non-empty string" else .ok ()
  | _ => validationError path "value must be a non-empty string"

def optionalTags (value : Json) (path : String) : Checked Unit := do
  let tags ← requireList value path
  tags.zipIdx.forM fun tag => requireString tag.1 (pointerAt path tag.2)

def optionalMeta (value : Json) (path : String) : Checked Unit := do
  let _ ← requireMapping value path
  return ()

/-- `_sorted_mapping_items` -/
def sortedMappingItems (mapping : Members) : Members := sortBy Prod.fst mapping

/-! ### Resources -/

def validateConstraints (value : Json) (path : String) : Checked Unit := do
  let constraints ← requireList value path
  constraints.zipIdx.forM fun item => optionalMeta item.1 (pointerAt path item.2)

/-- One entry of `_validate_columns`. -/
def validateColumn (path : String) (entry : String × Json) : Checked Unit :=
  if entry.1 = "" then validationError path "column mapping keys must be non-empty strings"
  else do
    let colPath := pointer path entry.1
    let col ← requireMapping entry.2 colPath
    let name ← textField col "name" colPath
    if entry.1 ≠ name then validationError colPath "column mapping key must equal ColumnInfo.name"
    else do
      optionalField col "description" colPath textOrNull
      optionalField col "data_type" colPath textOrNull
      optionalField col "quote" colPath booleanOrNull
      optionalField col "tags" colPath optionalTags
      optionalField col "meta" colPath optionalMeta
      optionalField col "constraints" colPath validateConstraints

def validateColumns (columns : Json) (path : String) : Checked Unit := do
  let mapping ← requireMapping columns path
  (sortedMappingItems mapping).forM (validateColumn path)

/-- An empty string is let through; the mapper treats it as absent. -/
def validateDatabase (value : Json) (path : String) : Checked Unit := textOrNull value path

def validateFqn (value : Json) (path : String) : Checked Unit := do
  let fqn ← requireList value path
  if fqn = [] then validationError path "value must be a non-empty array"
  else fqn.zipIdx.forM fun part => requireNonEmpty part.1 (pointerAt path part.2)

def validateModel (node : Members) (path : String) : Checked Unit := do
  let _ ← textField node "name" path
  let _ ← textField node "package_name" path
  let _ ← textField node "schema" path
  let _ ← textField node "alias" path
  validateDatabase (Json.get node "database") (pointer path "database")
  validateFqn (Json.get node "fqn") (pointer path "fqn")
  let config ← requireMapping (Json.get node "config") (pointer path "config")
  optionalField config "materialized" (pointer path "config") requireString
  optionalField node "description" path textOrNull
  optionalField node "columns" path validateColumns
  optionalField node "tags" path optionalTags
  optionalField node "meta" path optionalMeta

def validateSource (source : Members) (path : String) : Checked Unit := do
  let _ ← textField source "name" path
  let _ ← textField source "package_name" path
  let _ ← textField source "schema" path
  let _ ← textField source "identifier" path
  let _ ← textField source "source_name" path
  validateDatabase (Json.get source "database") (pointer path "database")
  optionalField source "fqn" path validateFqn
  optionalField source "description" path textOrNull
  optionalField source "loader" path textOrNull
  optionalField source "columns" path validateColumns
  optionalField source "tags" path optionalTags
  optionalField source "meta" path optionalMeta

/-- `_validate_resource_entry`; a resource of another type is let through. -/
def validateResourceEntry (collectionPath : String) (expectedType : Option String) (entry : String × Json) :
    Checked Unit :=
  if entry.1 = "" then validationError collectionPath "resource mapping keys must be non-empty strings"
  else do
    let path := pointer collectionPath entry.1
    let node ← requireMapping entry.2 path
    let uniqueId ← textField node "unique_id" path
    if entry.1 ≠ uniqueId then validationError path "dictionary key must equal resource unique_id"
    else do
      let resourceType ← textField node "resource_type" path
      if expectedType.any (fun expected => resourceType ≠ expected) then
        validationError (pointer path "resource_type") ("value must be '" ++ expectedType.getD "" ++ "'")
      else if resourceType = resourceTypeModel then validateModel node path
      else if resourceType = resourceTypeSource then validateSource node path
      else .ok ()

/-- One entry of `_validate_parent_map`. -/
def validateParents (path : String) (entry : String × Json) : Checked Unit :=
  if entry.1 = "" then validationError path "parent_map keys must be non-empty strings"
  else do
    let keyPath := pointer path entry.1
    let parents ← requireList entry.2 keyPath
    parents.zipIdx.forM fun ref => requireNonEmpty ref.1 (pointerAt keyPath ref.2)

def validateParentMap (parentMap : Members) (path : String) : Checked Unit :=
  (sortedMappingItems parentMap).forM (validateParents path)

def validateDisabledEntry (path : String) (entry : String × Json) : Checked Unit :=
  if entry.1 = "" then validationError path "disabled keys must be non-empty strings"
  else do
    let _ ← requireList entry.2 (pointer path entry.1)
    return ()

def validateDisabled (disabled : Members) (path : String) : Checked Unit :=
  (sortedMappingItems disabled).forM (validateDisabledEntry path)

/-! ### The manifest -/

/-- `if key not in mapping: raise ...` -/
def requiredMember (mapping : Members) (key path : String) : Checked Json :=
  match Json.lookup mapping key with
  | some value => .ok value
  | none => validationError path "missing required property"

def gateManifestVersion (document : Members) : Checked Unit := do
  let value ← requiredMember document "metadata" "/metadata"
  let metadata ← requireMapping value "/metadata"
  let schemaVersion ← requiredMember metadata "dbt_schema_version" "/metadata/dbt_schema_version"
  let schemaVersion ← requireText schemaVersion "/metadata/dbt_schema_version"
  if schemaVersion ≠ supportedManifestSchemaUri then
    .error (.unsupportedManifestVersion [⟨codeUnsupportedManifestVersion, "/metadata/dbt_schema_version",
      "unsupported dbt Manifest schema version"⟩])
  else do
    let dbtVersion ← requiredMember metadata "dbt_version" "/metadata/dbt_version"
    let _ ← requireText dbtVersion "/metadata/dbt_version"
    return ()

/-- The checks of a manifest that is a mapping. -/
def validateMembers (document : Members) : Checked Unit := do
  gateManifestVersion document
  let nodes ← requiredMember document "nodes" "/nodes"
  let sources ← requiredMember document "sources" "/sources"
  let parentMap ← requiredMember document "parent_map" "/parent_map"
  let disabled ← requiredMember document "disabled" "/disabled"
  let nodes ← requireMapping nodes "/nodes"
  let sources ← requireMapping sources "/sources"
  let parentMap ← requireMapping parentMap "/parent_map"
  let disabled ← requireMapping disabled "/disabled"
  (sortedMappingItems nodes).forM (validateResourceEntry "/nodes" none)
  (sortedMappingItems sources).forM (validateResourceEntry "/sources" (some resourceTypeSource))
  validateParentMap parentMap "/parent_map"
  validateDisabled disabled "/disabled"

/-- `validate_dbt_manifest` -/
def validateDbtManifest (document : Json) : Checked Members :=
  if Odcs.fitsDepth Odcs.maxJsonTreeDepth document = false then
    validationError "" "document is not a finite JSON tree"
  else match document with
    | .obj members => do
      validateMembers members
      return members
    | _ => validationError "" "dbt Manifest root must be a mapping"

end CollibraGovernance.Dbt
