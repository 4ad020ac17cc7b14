import CollibraGovernance.Library.JsonPointer
import CollibraGovernance.Library.PyJson
import CollibraGovernance.Odcs.Mapper

/-! Validation of OpenLineage core 2-0-2 events, as far as the mapper reads them. -/
namespace CollibraGovernance.Openlineage
open Library

structure OpenLineageDiagnostic where
  code : String
  path : String
  message : String
  deriving DecidableEq

/-- The ingestion failures, and an exception that is none of them. -/
inductive OpenLineageFailure where
  | unsupportedSchema (errors : List OpenLineageDiagnostic)
  | validation (errors : List OpenLineageDiagnostic)
  | mapping (errors : List OpenLineageDiagnostic)
  | uncaught (message : String)
  deriving DecidableEq

abbrev Checked (α : Type) := Except OpenLineageFailure α

def codeUnsupportedSchema : String := "openlineage_unsupported_schema"
def codeValidation : String := "openlineage_validation_error"
def codeMapping : String := "openlineage_mapping_error"

/-- `_validation_error` -/
def validationError {α : Type} (path message : String) : Checked α :=
  .error (.validation [⟨codeValidation, path, message⟩])

/-- `_unsupported_schema_error` -/
def unsupportedSchemaError {α : Type} (path : String) : Checked α :=
  .error (.unsupportedSchema [⟨codeUnsupportedSchema, path, "unsupported OpenLineage core schemaURL"⟩])

/-- `_pointer`, one part further. -/
def pointer (parent part : String) : String := parent ++ "/" ++ String.ofList (escapeSegment part.toList)

def pointerAt (parent : String) (index : Nat) : String := pointer parent (toString index)

inductive EventKind where
  | run | job | dataset
  deriving DecidableEq

def runUrl : String := "https://openlineage.io/spec/2-0-2/OpenLineage.json#/$defs/RunEvent"
def jobUrl : String := "https://openlineage.io/spec/2-0-2/OpenLineage.json#/$defs/JobEvent"
def datasetUrl : String := "https://openlineage.io/spec/2-0-2/OpenLineage.json#/$defs/DatasetEvent"

/-- `_SUPPORTED_CORE_SCHEMA_URLS` -/
def eventKindOf (schemaUrl : String) : Option EventKind :=
  if schemaUrl = runUrl then some .run
  else if schemaUrl = jobUrl then some .job
  else if schemaUrl = datasetUrl then some .dataset
  else none

def eventTypes : List String := ["START", "RUNNING", "COMPLETE", "ABORT", "FAIL", "OTHER"]

def columnLineageSchemaUrl : String := "https://openlineage.io/spec/facets/1-2-0/ColumnLineageDatasetFacet.json"

inductive FacetKey where
  | schema | hierarchy | datasetType | storage | ownership
  deriving DecidableEq

namespace FacetKey

def value : FacetKey → String
  | schema => "schema"
  | hierarchy => "hierarchy"
  | datasetType => "datasetType"
  | storage => "storage"
  | ownership => "ownership"

/-- `SUPPORTED_DATASET_FACETS` -/
def parse : String → Option FacetKey
  | "schema" => some schema
  | "hierarchy" => some hierarchy
  | "datasetType" => some datasetType
  | "storage" => some storage
  | "ownership" => some ownership
  | _ => none

@[simp] lemma parse_value (k : FacetKey) : parse k.value = some k := by
  cases k <;> rfl

end FacetKey

/-- The parsers of the standard library that the checks call; `none` stands for a `ValueError`. -/
structure Parsers where
  urlScheme : String → Option String
  isoFormatAware : String → Option Bool
  isUuid : String → Bool

/-! Field validators. -/

def requireMapping (value : Json) (path : String) : Checked (List (String × Json)) :=
  match value with
  | .obj members => .ok members
  | _ => validationError path "value must be a mapping"

/-- `_require_non_empty_str` -/
def requireText (value : Json) (path : String) : Checked String :=
  match value with
  | .str text => if isBlank text = true then validationError path "value must be a non-empty string" else .ok text
  | _ => validationError path "value must be a non-empty string"

def requireList (value : Json) (path : String) : Checked (List Json) :=
  match value with
  | .arr items => .ok items
  | _ => validationError path "value must be an array"

/-- `_require_non_empty_str(mapping.get(key), path=_pointer(path, key))` -/
def textField (mapping : List (String × Json)) (key path : String) : Checked String :=
  requireText (Json.get mapping key) (pointer path key)

/-- `if key not in mapping: raise ...` -/
def requiredMember (mapping : List (String × Json)) (key path : String) : Checked Json :=
  match Json.lookup mapping key with
  | some value => .ok value
  | none => validationError (pointer path key) "missing required property"

def isText : Json → Bool
  | .str _ => true
  | _ => false

def isBool : Json → Bool
  | .bool _ => true
  | _ => false

/-- An optional member of some type. -/
def optionalMember (accepts : Json → Bool) (mapping : List (String × Json)) (key path message : String) :
    Checked Unit :=
  match Json.lookup mapping key with
  | none => .ok ()
  | some value => if accepts value = true then .ok () else validationError (pointer path key) message

def optionalText (mapping : List (String × Json)) (key path : String) : Checked Unit :=
  optionalMember isText mapping key path "value must be a string"

/-- An optional member with a check of its own. -/
def whenPresent (mapping : List (String × Json)) (key : String) (check : Json → Checked Unit) : Checked Unit :=
  match Json.lookup mapping key with
  | none => .ok ()
  | some value => check value

/-- Every item of a list, each told its path. -/
def eachItem (path : String) (items : List Json) (check : Json → String → Checked Unit) : Checked Unit :=
  items.zipIdx.forM fun entry => check entry.1 (pointerAt path entry.2)

/-- Every member of an object, each told its path. -/
def eachMember (path : String) (members : List (String × Json)) (check : String → Json → String → Checked Unit) :
    Checked Unit :=
  members.forM fun m => check m.1 m.2 (pointer path m.1)

section Parsing
variable (parsers : Parsers)

def requireUriString (value : Json) (path : String) : Checked String := do
  let text ← requireText value path
  match parsers.urlScheme (strip text) with
  | none => .error (.uncaught "ValueError")
  | some scheme => if scheme = "" then validationError path "value must be a URI string" else .ok text

/-- A trailing `Z` is read as the offset of UTC. -/
def isoCandidate (text : String) : String :=
  match text.toList.reverse with
  | 'Z' :: rest => String.ofList rest.reverse ++ "+00:00"
  | _ => text

def requireEventTime (value : Json) (path : String) : Checked String := do
  let text ← requireText value path
  if parsers.isoFormatAware (isoCandidate (strip text)) = some true then .ok text
  else validationError path "value must be a timezone-aware ISO-8601 datetime"

def requireUuid (value : Json) (path : String) : Checked String := do
  let text ← requireText value path
  if parsers.isUuid (strip text) = true then .ok text else validationError path "value must be a valid UUID"

def validateJob (job : Json) (path : String) : Checked Unit := do
  let mapping ← requireMapping job path
  let _ ← textField mapping "namespace" path
  let _ ← textField mapping "name" path
  whenPresent mapping "facets" fun facets => do
    let facets ← requireMapping facets (pointer path "facets")
    eachMember (pointer path "facets") facets fun _ facet facetPath => do
      let _ ← requireMapping facet facetPath
      return ()

/-- The name of a schema field, which none of its siblings before it has, and its optional texts. -/
def fieldName (mapping : List (String × Json)) (seen : List String) (path : String) : Checked String := do
  let name ← textField mapping "name" path
  if strip name ∈ seen then validationError (pointer path "name") "duplicate sibling field name"
  else do
    optionalText mapping "type" path
    optionalText mapping "description" path
    return strip name

mutual
/-- `_validate_schema_fields` -/
def validateSchemaFields (path : String) : Json → Checked Unit
  | .arr items => validateEachField path [] 0 items
  | _ => validationError path "value must be an array"

def validateEachField (path : String) (seen : List String) (index : Nat) : List Json → Checked Unit
  | [] => .ok ()
  | j :: js => do
    let name ← validateField (pointerAt path index) seen j
    validateEachField path (seen ++ [name]) (index + 1) js

def validateField (path : String) (seen : List String) : Json → Checked String
  | .obj mapping => do
    let name ← fieldName mapping seen path
    validateFieldsMember path mapping
    return name
  | _ => validationError path "value must be a mapping"

/-- The walk at the member `fields`. -/
def validateFieldsMember (path : String) : List (String × Json) → Checked Unit
  | [] => .ok ()
  | (k, v) :: rest =>
    if k = "fields" then validateSchemaFields (pointer path "fields") v else validateFieldsMember path rest
end

/-- A facet may not be deleted. -/
def validateDeletion (facet : List (String × Json)) (path : String) : Checked Unit :=
  whenPresent facet "_deleted" fun
    | .bool false => .ok ()
    | .bool true => validationError (pointer path "_deleted")
        "supported facet deletion is not supported without temporal authority"
    | _ => validationError (pointer path "_deleted") "value must be a boolean"

/-- A required list of objects that each have the given texts. -/
def validateNamedItems (facet : List (String × Json)) (key first second path : String) : Checked Unit := do
  let raw ← requiredMember facet key path
  let items ← requireList raw (pointer path key)
  eachItem (pointer path key) items fun item itemPath => do
    let mapping ← requireMapping item itemPath
    let _ ← textField mapping first itemPath
    let _ ← textField mapping second itemPath
    return ()

/-- The part of a facet that its kind asks for. -/
def validateFacetBody (key : FacetKey) (facet : List (String × Json)) (path : String) : Checked Unit :=
  match key with
  | .schema => whenPresent facet "fields" (validateSchemaFields (pointer path "fields"))
  | .hierarchy => validateNamedItems facet "hierarchy" "type" "name" path
  | .datasetType => do
    let _ ← textField facet "datasetType" path
    optionalText facet "subType" path
  | .storage => do
    let _ ← textField facet "storageLayer" path
    optionalText facet "fileFormat" path
  | .ownership => validateNamedItems facet "owners" "name" "type" path

def validateSupportedFacet (key : FacetKey) (facet : List (String × Json)) (path : String) : Checked Unit := do
  let _ ← requireUriString parsers (Json.get facet "_producer") (pointer path "_producer")
  let _ ← requireUriString parsers (Json.get facet "_schemaURL") (pointer path "_schemaURL")
  validateDeletion facet path
  validateFacetBody key facet path

def validateColumnLineageInputField (value : Json) (path : String) : Checked Unit := do
  let mapping ← requireMapping value path
  let _ ← textField mapping "namespace" path
  let _ ← textField mapping "name" path
  let _ ← textField mapping "field" path
  whenPresent mapping "transformations" fun raw => do
    let transformations ← requireList raw (pointer path "transformations")
    eachItem (pointer path "transformations") transformations fun transformation itemPath => do
      let t ← requireMapping transformation itemPath
      let _ ← textField t "type" itemPath
      optionalText t "subtype" itemPath
      optionalText t "description" itemPath
      optionalMember isBool t "masking" itemPath "value must be a boolean"

/-- One output field of a column lineage facet. -/
def validateLineageField (name : String) (value : Json) (path : String) : Checked Unit :=
  if isBlank name = true then validationError path "value must be a non-empty string"
  else do
    let mapping ← requireMapping value path
    let raw ← requiredMember mapping "inputFields" path
    let inputFields ← requireList raw (pointer path "inputFields")
    eachItem (pointer path "inputFields") inputFields validateColumnLineageInputField
    optionalText mapping "transformationDescription" path
    optionalText mapping "transformationType" path

/-- The fields of a column lineage facet, and the datasets it depends on. -/
def validateLineageBody (facet : List (String × Json)) (path : String) : Checked Unit := do
  validateDeletion facet path
  let raw ← requiredMember facet "fields" path
  let fields ← requireMapping raw (pointer path "fields")
  eachMember (pointer path "fields") fields validateLineageField
  whenPresent facet "dataset" fun raw => do
    let items ← requireList raw (pointer path "dataset")
    eachItem (pointer path "dataset") items validateColumnLineageInputField

def validateColumnLineageFacet (facet : List (String × Json)) (path : String) : Checked Unit := do
  let _ ← requireUriString parsers (Json.get facet "_producer") (pointer path "_producer")
  let schemaUrl ← requireUriString parsers (Json.get facet "_schemaURL") (pointer path "_schemaURL")
  if schemaUrl ≠ columnLineageSchemaUrl then
    validationError (pointer path "_schemaURL") "unsupported columnLineage facet schemaURL"
  else validateLineageBody facet path

/-- One facet of a dataset; facets of other kinds only have to be objects. -/
def validateDatasetFacet (key : String) (facet : Json) (path : String) : Checked Unit := do
  let mapping ← requireMapping facet path
  if key = "columnLineage" then validateColumnLineageFacet parsers mapping path
  else match FacetKey.parse key with
    | some facetKey => validateSupportedFacet parsers facetKey mapping path
    | none => .ok ()

def validateDatasetFacets (facets : Json) (path : String) : Checked Unit := do
  let mapping ← requireMapping facets path
  eachMember path mapping (validateDatasetFacet parsers)

/-- `if key in mapping: _require_mapping(mapping[key], ...)` -/
def optionalMapping (mapping : List (String × Json)) (key path : String) : Checked Unit :=
  whenPresent mapping key fun value => do
    let _ ← requireMapping value (pointer path key)
    return ()

def validateDataset (dataset : Json) (path : String) : Checked Unit := do
  let mapping ← requireMapping dataset path
  let _ ← textField mapping "namespace" path
  let _ ← textField mapping "name" path
  whenPresent mapping "facets" fun facets => validateDatasetFacets parsers facets (pointer path "facets")
  optionalMapping mapping "inputFacets" path
  optionalMapping mapping "outputFacets" path

def validateDatasetList (value : Json) (path : String) : Checked Unit := do
  let items ← requireList value path
  eachItem path items (validateDataset parsers)

def validateBaseEvent (event : List (String × Json)) (path : String) : Checked EventKind := do
  let url ← requiredMember event "schemaURL" path
  let schemaUrl ← requireText url (pointer path "schemaURL")
  match eventKindOf schemaUrl with
  | none => unsupportedSchemaError (pointer path "schemaURL")
  | some kind => do
    let time ← requiredMember event "eventTime" path
    let _ ← requireEventTime parsers time (pointer path "eventTime")
    let producer ← requiredMember event "producer" path
    let _ ← requireUriString parsers producer (pointer path "producer")
    return kind

/-- The inputs and the outputs of an event. -/
def validateInputsOutputs (event : List (String × Json)) (path : String) : Checked Unit := do
  whenPresent event "inputs" fun value => validateDatasetList parsers value (pointer path "inputs")
  whenPresent event "outputs" fun value => validateDatasetList parsers value (pointer path "outputs")

/-- `if key in event: raise ...` -/
def forbiddenMember (event : List (String × Json)) (key path message : String) : Checked Unit :=
  whenPresent event key fun _ => validationError (pointer path key) message

def validateEventType : Json → String → Checked Unit
  | .str text, path =>
    if text ∈ eventTypes then .ok ()
    else validationError path "value must be one of START, RUNNING, COMPLETE, ABORT, FAIL, OTHER"
  | _, path => validationError path "value must be one of START, RUNNING, COMPLETE, ABORT, FAIL, OTHER"

def validateRunEvent (event : List (String × Json)) (path : String) : Checked Unit := do
  let raw ← requiredMember event "run" path
  let run ← requireMapping raw (pointer path "run")
  let runId ← requiredMember run "runId" (pointer path "run")
  let _ ← requireUuid parsers runId (pointer (pointer path "run") "runId")
  optionalMapping run "facets" (pointer path "run")
  let job ← requiredMember event "job" path
  validateJob job (pointer path "job")
  whenPresent event "eventType" fun eventType => validateEventType eventType (pointer path "eventType")
  validateInputsOutputs parsers event path

def validateJobEvent (event : List (String × Json)) (path : String) : Checked Unit := do
  forbiddenMember event "run" path "JobEvent must not include run"
  let job ← requiredMember event "job" path
  validateJob job (pointer path "job")
  validateInputsOutputs parsers event path

def validateDatasetEvent (event : List (String × Json)) (path : String) : Checked Unit := do
  forbiddenMember event "run" path "DatasetEvent must not include run"
  forbiddenMember event "job" path "DatasetEvent must not include job"
  let dataset ← requiredMember event "dataset" path
  validateDataset parsers dataset (pointer path "dataset")

def validateEvent (event : Json) (path : String) : Checked (List (String × Json)) := do
  let mapping ← requireMapping event path
  let kind ← validateBaseEvent parsers mapping path
  match kind with
  | .run => validateRunEvent parsers mapping path
  | .job => validateJobEvent parsers mapping path
  | .dataset => validateDatasetEvent parsers mapping path
  return mapping

/-- `validate_openlineage_events` -/
def validateOpenlineageEvents (events : Json) : Checked (List (List (String × Json))) :=
  match events with
  | .arr items =>
    if Odcs.fitsDepth Odcs.maxJsonTreeDepth events = false then
      validationError "" "document is not a finite JSON tree"
    else items.zipIdx.mapM fun entry => validateEvent parsers entry.1 (pointerAt "" entry.2)
  | _ => validationError "" "events must be an array"

end Parsing
end CollibraGovernance.Openlineage
