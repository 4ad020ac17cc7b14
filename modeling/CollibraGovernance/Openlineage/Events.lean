import CollibraGovernance.Openlineage.Validate

/-! What the mapper takes from a validated event. Validated events hold a text that is not blank wherever
a text is read here; a missing key is a `KeyError`, which nothing catches. -/
namespace CollibraGovernance.Openlineage
open Library Domain

/-- `_mapping_error` -/
def mappingError {α : Type} (path message : String) : Checked α :=
  .error (.mapping [⟨codeMapping, path, message⟩])

/-- The refusal for every `TypeError` and `ValueError` while mapping. -/
def buildError {α : Type} : Checked α := mappingError "" "unable to build governance graph from OpenLineage events"

/-- `mapping[key]` -/
def itemOf (mapping : List (String × Json)) (key : String) : Checked Json :=
  match Json.lookup mapping key with
  | some value => .ok value
  | none => .error (.uncaught ("KeyError: " ++ key))

/-- `str(mapping[key])` -/
def textItem (mapping : List (String × Json)) (key : String) : Checked String := do
  let value ← itemOf mapping key
  match value with
  | .str text => .ok text
  | _ => buildError

/-- `_norm_id` -/
def normId (text : String) : Checked Stripped :=
  if h : isBlank text = false then .ok (.of text h) else buildError

/-- `_norm_id(str(mapping[key]))` -/
def idItem (mapping : List (String × Json)) (key : String) : Checked Stripped := do
  let text ← textItem mapping key
  normId text

/-- A text that is not blank, if the member is one. -/
def presentText (mapping : List (String × Json)) (key : String) : Option String :=
  match Json.lookup mapping key with
  | some (.str text) => if isBlank text = true then none else some text
  | _ => none

/-! ### Facets -/

structure FieldHead where
  name : Stripped
  type : Option String
  description : Option String
  deriving DecidableEq

/-- A schema field, with or without a list of fields of its own. -/
inductive SchemaField where
  | plain (head : FieldHead)
  | nested (head : FieldHead) (fields : List SchemaField)

namespace SchemaField

def head : SchemaField → FieldHead
  | plain h => h
  | nested h _ => h

def fields : SchemaField → List SchemaField
  | plain _ => []
  | nested _ fs => fs

/-- `normalized.sort(key=lambda entry: entry["name"])` -/
def sorted (fields : List SchemaField) : List SchemaField := sortBy (fun f => f.head.name.val) fields

end SchemaField

def readFieldHead (mapping : List (String × Json)) : Checked FieldHead := do
  let name ← idItem mapping "name"
  return ⟨name, presentText mapping "type", presentText mapping "description"⟩

mutual
/-- `_normalize_schema_fields`, before the fields are sorted -/
def readFields : List Json → Checked (List SchemaField)
  | [] => .ok []
  | j :: js => do
    let first ← readField j
    let rest ← readFields js
    return first :: rest

def readField : Json → Checked SchemaField
  | .obj mapping => do
    let head ← readFieldHead mapping
    let nested ← readFieldsMember mapping
    return match nested with
      | none => .plain head
      | some fields => .nested head (SchemaField.sorted fields)
  | _ => buildError

/-- The walk at the member `fields`, if it is a list. -/
def readFieldsMember : List (String × Json) → Checked (Option (List SchemaField))
  | [] => .ok none
  | (k, .arr items) :: rest =>
    if k = "fields" then do
      let fields ← readFields items
      return some fields
    else readFieldsMember rest
  | (k, _) :: rest => if k = "fields" then .ok none else readFieldsMember rest
end

structure HierarchyLevel where
  type : Stripped
  name : Stripped
  deriving DecidableEq

structure Owner where
  name : Stripped
  type : Stripped
  deriving DecidableEq

/-- What a supported facet states, normalized. -/
inductive FacetMaterial where
  | schema (fields : List SchemaField)
  | hierarchy (levels : List HierarchyLevel)
  | datasetType (datasetType : Stripped) (subType : Option Stripped)
  | storage (storageLayer : Stripped) (fileFormat : Option String)
  | ownership (owners : List Owner)

namespace FacetMaterial

def key : FacetMaterial → FacetKey
  | schema _ => .schema
  | hierarchy _ => .hierarchy
  | datasetType _ _ => .datasetType
  | storage _ _ => .storage
  | ownership _ => .ownership

end FacetMaterial

def headMembers (h : FieldHead) : List (String × Json) :=
  [("name", .str h.name.val)] ++ h.type.toList.map (fun t => ("type", .str t)) ++
    h.description.toList.map (fun d => ("description", .str d))

mutual
def SchemaField.toJson : SchemaField → Json
  | .plain h => .obj (headMembers h)
  | .nested h fs => .obj (headMembers h ++ [("fields", .arr (fieldsToJson fs))])

def fieldsToJson : List SchemaField → List Json
  | [] => []
  | f :: fs => f.toJson :: fieldsToJson fs
end

def HierarchyLevel.toJson (l : HierarchyLevel) : Json := .obj [("type", .str l.type.val), ("name", .str l.name.val)]

def Owner.toJson (o : Owner) : Json := .obj [("name", .str o.name.val), ("type", .str o.type.val)]

def FacetMaterial.toJson : FacetMaterial → Json
  | schema fields => .obj [("fields", .arr (fieldsToJson fields))]
  | hierarchy levels => .obj [("hierarchy", .arr (levels.map HierarchyLevel.toJson))]
  | datasetType t s => .obj ([("datasetType", .str t.val)] ++ s.toList.map (fun s => ("subType", .str s.val)))
  | storage l f => .obj ([("storageLayer", .str l.val)] ++ f.toList.map (fun f => ("fileFormat", .str f)))
  | ownership owners => .obj [("owners", .arr (owners.map Owner.toJson))]

/-- `_facet_material_key` -/
def FacetMaterial.materialKey (m : FacetMaterial) : String := m.toJson.canonicalJson

/-- The objects of a list that holds only objects. -/
def mappingsOf (raw : Json) : Checked (List (List (String × Json))) :=
  match raw with
  | .arr items => items.mapM fun
      | .obj mapping => .ok mapping
      | _ => buildError
  | _ => buildError

def ownerKey (o : Owner) : String ×ₗ String := toLex (o.name.val, o.type.val)

/-- `_normalize_ownership`: the distinct owners in order. -/
def normalizeOwnership (owners : List Owner) : List Owner := sortedDistinct ownerKey owners

/-- `_normalize_supported_facet` -/
def readMaterial (key : FacetKey) (facet : List (String × Json)) : Checked FacetMaterial :=
  match key with
  | .schema =>
    match Json.lookup facet "fields" with
    | some (.arr items) => do
      let fields ← readFields items
      return .schema (SchemaField.sorted fields)
    | _ => .ok (.schema [])
  | .hierarchy => do
    let raw ← itemOf facet "hierarchy"
    let mappings ← mappingsOf raw
    let levels ← mappings.mapM fun level => do
      let type ← idItem level "type"
      let name ← idItem level "name"
      return ⟨type, name⟩
    return .hierarchy levels
  | .datasetType => do
    let type ← idItem facet "datasetType"
    let subType := presentText facet "subType"
    let subType ← match subType with
      | none => .ok none
      | some text => (normId text).map some
    return .datasetType type subType
  | .storage => do
    let layer ← idItem facet "storageLayer"
    return .storage layer (match Json.lookup facet "fileFormat" with
      | some (.str text) => some text
      | _ => none)
  | .ownership => do
    let raw ← itemOf facet "owners"
    let mappings ← mappingsOf raw
    let owners ← mappings.mapM fun owner => do
      let name ← idItem owner "name"
      let type ← idItem owner "type"
      return ⟨name, type⟩
    return .ownership (normalizeOwnership owners)

/-- Who states a facet, under which facet schema. -/
structure Facet where
  material : FacetMaterial
  producer : String
  schemaUrl : String

/-- The supported facet under a key. -/
def readFacet (key : FacetKey) (facet : List (String × Json)) : Checked Facet := do
  let material ← readMaterial key facet
  let producer ← textItem facet "_producer"
  let schemaUrl ← textItem facet "_schemaURL"
  return ⟨material, producer, schemaUrl⟩

/-- Facets of other kinds, and values that are no objects, are passed over. -/
def readFacetMember (m : String × Json) : Checked (Option Facet) :=
  match FacetKey.parse m.1, m.2 with
  | some key, .obj facet => (readFacet key facet).map some
  | _, _ => .ok none

/-- `_ol_key`: namespace and name of a dataset. -/
abbrev DatasetKey := Stripped × Stripped

/-- One assertion that a field of a dataset comes from a field of another. -/
structure LineageEntry where
  output : Stripped
  input : DatasetKey
  field : Stripped
  deriving DecidableEq

structure Lineage where
  producer : String
  schemaUrl : String
  entries : List LineageEntry

def readInputField (output : Stripped) (inputField : List (String × Json)) : Checked LineageEntry := do
  let nameSpace ← idItem inputField "namespace"
  let name ← idItem inputField "name"
  let field ← idItem inputField "field"
  return ⟨output, (nameSpace, name), field⟩

/-- The entries of one output field. -/
def readOutputField (m : String × Json) : Checked (List LineageEntry) :=
  match m.2 with
  | .obj entry =>
    match Json.lookup entry "inputFields" with
    | some (.arr inputFields) => do
      let output ← normId m.1
      (Odcs.mappings inputFields).mapM (readInputField output)
    | _ => .ok []
  | _ => .ok []

/-- The column lineage facet of a dataset, if it has one. -/
def readLineage (facets : List (String × Json)) : Checked (Option Lineage) :=
  match Json.lookup facets "columnLineage" with
  | some (.obj facet) => do
    let producer ← textItem facet "_producer"
    let schemaUrl ← textItem facet "_schemaURL"
    match Json.lookup facet "fields" with
    | some (.obj fields) => do
      let entries ← fields.mapM readOutputField
      return some ⟨producer, schemaUrl, entries.flatten⟩
    | _ => .ok none
  | _ => .ok none

structure Dataset where
  key : DatasetKey
  facets : List Facet
  lineage : Option Lineage

def facetMembers (dataset : List (String × Json)) : List (String × Json) :=
  match Json.lookup dataset "facets" with
  | some (.obj facets) => facets
  | _ => []

def readDataset (dataset : List (String × Json)) : Checked Dataset := do
  let nameSpace ← idItem dataset "namespace"
  let name ← idItem dataset "name"
  let facets ← (facetMembers dataset).mapM readFacetMember
  let lineage ← readLineage (facetMembers dataset)
  return ⟨(nameSpace, name), facets.reduceOption, lineage⟩

/-! ### Events -/

structure Job where
  nameSpace : Stripped
  name : Stripped
  deriving DecidableEq

inductive EventBody where
  | dataset (dataset : Dataset)
  | job (job : Job) (inputs outputs : List Dataset)
  | run (runId : Stripped) (job : Job) (inputs outputs : List Dataset)

structure Event where
  schemaUrl : String
  producer : String
  body : EventBody

/-- The datasets listed under a key; values that are no objects are passed over. -/
def readDatasetList (event : List (String × Json)) (key : String) : Checked (List Dataset) :=
  match Json.lookup event key with
  | some (.arr items) => (Odcs.mappings items).mapM readDataset
  | _ => .ok []

/-- `event[key]`, which has to be an object. -/
def mappingItem (event : List (String × Json)) (key : String) : Checked (List (String × Json)) := do
  let value ← itemOf event key
  match value with
  | .obj mapping => .ok mapping
  | _ => .error (.uncaught "AssertionError")

def readJob (event : List (String × Json)) : Checked Job := do
  let job ← mappingItem event "job"
  let nameSpace ← idItem job "namespace"
  let name ← idItem job "name"
  return ⟨nameSpace, name⟩

def readBody (kind : EventKind) (event : List (String × Json)) : Checked EventBody :=
  match kind with
  | .dataset => do
    let mapping ← mappingItem event "dataset"
    let dataset ← readDataset mapping
    return .dataset dataset
  | .job => do
    let job ← readJob event
    let inputs ← readDatasetList event "inputs"
    let outputs ← readDatasetList event "outputs"
    return .job job inputs outputs
  | .run => do
    let run ← mappingItem event "run"
    let runId ← idItem run "runId"
    let job ← readJob event
    let inputs ← readDatasetList event "inputs"
    let outputs ← readDatasetList event "outputs"
    return .run runId job inputs outputs

/-- One event at a path. -/
def readEvent (event : List (String × Json)) (path : String) : Checked Event := do
  let schemaUrl ← textItem event "schemaURL"
  let producer ← textItem event "producer"
  match eventKindOf schemaUrl with
  | some kind => do
    let body ← readBody kind event
    return ⟨schemaUrl, producer, body⟩
  | none => mappingError (pointer path "schemaURL") "unsupported event kind"

end CollibraGovernance.Openlineage
