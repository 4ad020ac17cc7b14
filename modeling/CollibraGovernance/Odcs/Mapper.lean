import CollibraGovernance.Domain.Mapping

/-! Mapping of a validated ODCS v3.1.0 data contract into a governance graph with observations. -/
namespace CollibraGovernance.Odcs
open Library Identity Domain

structure OdcsDiagnostic where
  code : String
  path : String
  message : String
  deriving DecidableEq

/-- The ingestion failures, and the key that a document without schema validation may lack. -/
inductive OdcsError where
  | schemaError (errors : List OdcsDiagnostic)
  | unsupportedVersionError (errors : List OdcsDiagnostic)
  | mappingError (errors : List OdcsDiagnostic)
  | keyError (key : String)
  deriving DecidableEq

def schemaError (path message : String) : OdcsError :=
  .schemaError [⟨"odcs_schema_error", path, message⟩]

/-- `_mapping_error` -/
def mappingError (path message : String) : OdcsError :=
  .mappingError [⟨"odcs_mapping_error", path, message⟩]

/-! ### Validation -/

def supportedApiVersion : String := "v3.1.0"
def maxJsonTreeDepth : Nat := 64

mutual
/-- The document nests at most `depth` levels of arrays and objects above its leaves. -/
def fitsDepth : Nat → Json → Bool
  | depth, .arr items => fitsItems depth items
  | depth, .obj members => fitsMembers depth members
  | _, _ => true

def fitsItems : Nat → List Json → Bool
  | _, [] => true
  | 0, _ :: _ => false
  | depth + 1, j :: js => fitsDepth depth j && fitsItems (depth + 1) js

def fitsMembers : Nat → List (String × Json) → Bool
  | _, [] => true
  | 0, _ :: _ => false
  | depth + 1, (_, j) :: ms => fitsDepth depth j && fitsMembers (depth + 1) ms
end

/-- `validate_odcs_document`; `schemaErrors` lists the diagnostics of the pinned JSON schema. -/
def validateOdcsDocument (schemaErrors : Json → List OdcsDiagnostic) (document : Json) :
    Except OdcsError (List (String × Json)) :=
  if fitsDepth maxJsonTreeDepth document = false then
    .error (schemaError "" "document is not a finite JSON tree")
  else match document with
    | .obj members =>
      match Json.lookup members "apiVersion" with
      | none => .error (schemaError "/apiVersion" "missing required property")
      | some version =>
        if version ≠ .str supportedApiVersion then
          .error (.unsupportedVersionError
            [⟨"odcs_unsupported_version", "/apiVersion", "unsupported ODCS apiVersion"⟩])
        else if schemaErrors document ≠ [] then .error (.schemaError (schemaErrors document))
        else .ok members
    | _ => .error (schemaError "" "ODCS document root must be a mapping")

/-! ### Names and logical identities -/

/-- The string of a value, stripped, unless it is blank or no string. -/
def strippedText : Option Json → Option Stripped
  | some (.str s) => if h : isBlank s = false then some (.of s h) else none
  | _ => none

def requireNamespace (nameSpace : String) : Except OdcsError Stripped :=
  match strippedText (some (.str nameSpace)) with
  | none => .error (mappingError "" "namespace is required")
  | some ns => .ok ns

def requireMappedStr (value : Option Json) (path message : String) : Except OdcsError Stripped :=
  match strippedText value with
  | none => .error (mappingError path message)
  | some text => .ok text

/-- `_logical_identity`: the id, else the name, else nothing. -/
def logicalIdentity (entry : List (String × Json)) : Option Stripped :=
  (strippedText (Json.lookup entry "id")).or (strippedText (Json.lookup entry "name"))

/-! ### Uniqueness among siblings -/

/-- `_assert_unique_siblings`: entries without a logical identity are passed over. -/
def assertUniqueSiblings (seen : List Stripped) (collectionPath : String) (index : Nat) :
    List (List (String × Json)) → Except OdcsError Unit
  | [] => .ok ()
  | entry :: entries =>
    match logicalIdentity entry with
    | none => assertUniqueSiblings seen collectionPath (index + 1) entries
    | some logicalId =>
      if logicalId ∈ seen then
        .error (mappingError (collectionPath ++ "/" ++ toString index)
          "duplicate logical identity within sibling collection")
      else assertUniqueSiblings (logicalId :: seen) collectionPath (index + 1) entries

/-- The objects among the items of a list. -/
def mappings (items : List Json) : List (List (String × Json)) :=
  items.filterMap fun
    | .obj members => some members
    | _ => none

mutual
/-- `_assert_property_siblings` -/
def assertPropertySiblings (basePath : String) : Json → Except OdcsError Unit
  | .arr items => do
    assertUniqueSiblings [] basePath 0 (mappings items)
    assertEachProperty basePath 0 items
  | _ => .ok ()

def assertEachProperty (basePath : String) (index : Nat) : List Json → Except OdcsError Unit
  | [] => .ok ()
  | j :: js => do
    assertProperty (basePath ++ "/" ++ toString index) j
    assertEachProperty basePath (index + 1) js

def assertProperty (path : String) : Json → Except OdcsError Unit
  | .obj members => do
    assertPropertiesMember path members
    assertItemsMember path members
  | _ => .ok ()

/-- The walk at the member `properties`. -/
def assertPropertiesMember (path : String) : List (String × Json) → Except OdcsError Unit
  | [] => .ok ()
  | (k, v) :: rest =>
    if k = "properties" then assertPropertySiblings (path ++ "/properties") v
    else assertPropertiesMember path rest

/-- The walk at the member `items`. -/
def assertItemsMember (path : String) : List (String × Json) → Except OdcsError Unit
  | [] => .ok ()
  | (k, v) :: rest =>
    if k = "items" then assertItemsPropertySiblings (path ++ "/items") v
    else assertItemsMember path rest

/-- `_assert_items_property_siblings` -/
def assertItemsPropertySiblings (path : String) : Json → Except OdcsError Unit
  | .obj members => do
    assertPropertiesMember path members
    assertItemsMember path members
  | _ => .ok ()
end

/-- `_assert_sibling_identity_uniqueness` -/
def assertSiblingIdentityUniqueness (document : List (String × Json)) : Except OdcsError Unit :=
  match Json.lookup document "schema" with
  | some (.arr entries) => do
    assertUniqueSiblings [] "/schema" 0 (mappings entries)
    entries.zipIdx.forM fun e => match e.1 with
      | .obj schemaObj =>
        assertPropertySiblings ("/schema/" ++ toString e.2 ++ "/properties")
          ((Json.lookup schemaObj "properties").getD .null)
      | _ => .ok ()
  | _ => .ok ()

/-! ### Normalized members -/

/-- `_sort_by_canonical` -/
def sortByCanonical (items : List Json) : List Json := sortBy Json.canonicalJson items

def textOf : Json → Option String
  | .str s => some s
  | _ => none

/-- `_normalize_tags`: the distinct strings in order. -/
def normalizeTags : Json → Option Json
  | .arr items => some (.arr ((sortedDistinct id (items.filterMap textOf)).map .str))
  | _ => none

/-- `_normalize_object_list` -/
def normalizeObjectList : Json → Option Json
  | .arr items => some (.arr (sortByCanonical items))
  | _ => none

/-- `_normalize_custom_properties`: only the outer list is sorted. -/
def normalizeCustomProperties (value : Json) : Option Json := normalizeObjectList value

def normalizeAuthoritativeDefinitions (value : Json) : Option Json := normalizeObjectList value

def requiredNames : Json → Json
  | .arr items => .arr ((sortBy id (items.filterMap textOf)).map .str)
  | v => v

/-- `_normalize_logical_type_options` -/
def normalizeLogicalTypeOptions : Json → Option Json
  | .obj members => some (.obj (members.map fun m =>
      if m.1 = "required" then (m.1, requiredNames m.2) else m))
  | _ => none

/-- The members of a document that are copied under the given names. -/
def copied (entry : List (String × Json)) (names : List (String × String)) : List (String × Json) :=
  names.filterMap fun n => (Json.lookup entry n.1).map fun v => (n.2, v)

/-- The member `source`, normalized, under the name `target`. -/
def normalized (entry : List (String × Json)) (source target : String)
    (normalizer : Json → Option Json) : List (String × Json) :=
  ((Json.lookup entry source).bind normalizer).toList.map fun v => (target, v)

/-- Tags, authoritative definitions and custom properties of an entry, under their graph names. -/
def sharedAttributes (entry : List (String × Json)) : List (String × Json) :=
  normalized entry "tags" "tags" normalizeTags ++
  normalized entry "authoritativeDefinitions" "authoritative_definitions"
    normalizeAuthoritativeDefinitions ++
  normalized entry "customProperties" "custom_properties" normalizeCustomProperties

/-- `_normalize_description_object` -/
def normalizeDescriptionObject : Json → Option Json
  | .obj value => some (.obj (
      copied value [("usage", "usage"), ("purpose", "purpose"), ("limitations", "limitations")] ++
      normalized value "authoritativeDefinitions" "authoritativeDefinitions"
        normalizeAuthoritativeDefinitions ++
      normalized value "customProperties" "customProperties" normalizeCustomProperties))
  | _ => none

/-- One member of `dict(member)` after the normalized lists are written over it. -/
def normalizeMemberField (m : String × Json) : String × Json :=
  (m.1, if m.1 = "tags" then (normalizeTags m.2).getD m.2
    else if m.1 = "authoritativeDefinitions" then (normalizeAuthoritativeDefinitions m.2).getD m.2
    else if m.1 = "customProperties" then (normalizeCustomProperties m.2).getD m.2
    else m.2)

/-- `_normalize_team_member` -/
def normalizeTeamMember (member : List (String × Json)) : Json := .obj (member.map normalizeMemberField)

def normalizeMembers (members : List Json) : Json :=
  .arr (sortByCanonical ((mappings members).map normalizeTeamMember))

/-- The `members` of a team, only when they are a list. -/
def normalizeMemberList : Json → Option Json
  | .arr members => some (normalizeMembers members)
  | _ => none

/-- `_normalize_team` -/
def normalizeTeam : Json → Option Json
  | .arr members => some (.obj [("members", normalizeMembers members)])
  | .obj value => some (.obj (
      copied value [("id", "id"), ("name", "name"), ("description", "description")] ++
      normalized value "members" "members" normalizeMemberList ++
      normalized value "tags" "tags" normalizeTags ++
      normalized value "authoritativeDefinitions" "authoritativeDefinitions"
        normalizeAuthoritativeDefinitions ++
      normalized value "customProperties" "customProperties" normalizeCustomProperties))
  | _ => none

def normalizeRoleField (m : String × Json) : String × Json :=
  (m.1, if m.1 = "customProperties" then (normalizeCustomProperties m.2).getD m.2 else m.2)

/-- `_normalize_role` -/
def normalizeRole (role : List (String × Json)) : Json := .obj (role.map normalizeRoleField)

/-- `_normalize_roles` -/
def normalizeRoles : Json → Option Json
  | .arr roles => some (.arr (sortByCanonical ((mappings roles).map normalizeRole)))
  | _ => none

/-! ### Attributes -/

def requireKey (document : List (String × Json)) (key : String) : Except OdcsError Json :=
  match Json.lookup document key with
  | some v => .ok v
  | none => .error (.keyError key)

/-- `tenant` in its case-folded form. -/
def foldTenant (casefold : String → String) : Json → Option Json
  | .str s => some (.str (casefold s))
  | _ => none

/-- `_contract_attributes` -/
def contractAttributes (casefold : String → String) (document : List (String × Json)) :
    Except OdcsError (List (String × Json)) := do
  let apiVersion ← requireKey document "apiVersion"
  let version ← requireKey document "version"
  let status ← requireKey document "status"
  return [("api_version", apiVersion), ("contract_version", version), ("status", status)] ++
    copied document [("domain", "domain"), ("dataProduct", "data_product")] ++
    normalized document "tenant" "tenant" (foldTenant casefold) ++
    normalized document "description" "description" normalizeDescriptionObject ++
    normalized document "team" "team" normalizeTeam ++
    normalized document "roles" "roles" normalizeRoles ++
    sharedAttributes document

/-- `_dataset_attributes` -/
def datasetAttributes (schemaObj : List (String × Json)) : List (String × Json) :=
  copied schemaObj [("id", "odcs_id"), ("logicalType", "logical_type"),
    ("physicalName", "physical_name"), ("physicalType", "physical_type"),
    ("businessName", "business_name"),
    ("dataGranularityDescription", "data_granularity_description")] ++
  sharedAttributes schemaObj

/-- `_column_attributes` -/
def columnAttributes (prop : List (String × Json)) : List (String × Json) :=
  copied prop [("id", "odcs_id"), ("businessName", "business_name"), ("logicalType", "logical_type"),
    ("physicalName", "physical_name"), ("physicalType", "physical_type"), ("required", "required"),
    ("unique", "unique"), ("primaryKey", "primary_key"),
    ("primaryKeyPosition", "primary_key_position"), ("partitioned", "partitioned"),
    ("partitionKeyPosition", "partition_key_position"), ("classification", "classification"),
    ("encryptedName", "encrypted_name"), ("criticalDataElement", "critical_data_element")] ++
  normalized prop "logicalTypeOptions" "logical_type_options" normalizeLogicalTypeOptions ++
  sharedAttributes prop

/-! ### The walk -/

/-- What every part of one contract shares. -/
structure Contract where
  nameSpace : Stripped
  provenance : ProvenanceRecord

/-- The node of a schema object or property. -/
def entryNode (c : Contract) (identity : GraphNodeIdentity) (name : Stripped)
    (entry attributes : List (String × Json)) : GraphNode :=
  mappedNode identity name ((Json.lookup entry "description").bind textOf) attributes [c.provenance]

/-- One property: its column with the edge from the parent. -/
def mapColumn (c : Contract) (parent : GraphNodeIdentity) (path : String)
    (prop : List (String × Json)) : Except OdcsError GraphNode := do
  let name ← requireMappedStr (Json.lookup prop "name") (path ++ "/name")
    "property name is required for graph mapping"
  match logicalIdentity prop with
  | none => .error (mappingError path "property logical identity is required for graph mapping")
  | some logicalId =>
    return entryNode c (.child c.nameSpace kindColumn logicalId parent) name prop
      (columnAttributes prop)

def columnParts (c : Contract) (parent : GraphNodeIdentity) (node : GraphNode) : MappedParts :=
  .observed node c.provenance [mappedEdge parent node.identity kindContains [c.provenance]]

mutual
/-- `_map_properties` -/
def mapProperties (c : Contract) (parent : GraphNodeIdentity) (basePath : String) :
    Json → Except OdcsError MappedParts
  | .arr items => mapEachProperty c parent basePath 0 items
  | _ => .ok .empty

def mapEachProperty (c : Contract) (parent : GraphNodeIdentity) (basePath : String) (index : Nat) :
    List Json → Except OdcsError MappedParts
  | [] => .ok .empty
  | j :: js => do
    let first ← mapProperty c parent (basePath ++ "/" ++ toString index) j
    let rest ← mapEachProperty c parent basePath (index + 1) js
    return first ++ rest

def mapProperty (c : Contract) (parent : GraphNodeIdentity) (path : String) :
    Json → Except OdcsError MappedParts
  | .obj members => do
    let node ← mapColumn c parent path members
    let nested ← mapPropertiesMember c node.identity path members
    let items ← mapItemsMember c node.identity path members
    return columnParts c parent node ++ nested ++ items
  | _ => .ok .empty

/-- The walk at the member `properties`. -/
def mapPropertiesMember (c : Contract) (parent : GraphNodeIdentity) (path : String) :
    List (String × Json) → Except OdcsError MappedParts
  | [] => .ok .empty
  | (k, v) :: rest =>
    if k = "properties" then mapProperties c parent (path ++ "/properties") v
    else mapPropertiesMember c parent path rest

/-- The walk at the member `items`. -/
def mapItemsMember (c : Contract) (parent : GraphNodeIdentity) (path : String) :
    List (String × Json) → Except OdcsError MappedParts
  | [] => .ok .empty
  | (k, v) :: rest =>
    if k = "items" then mapItemsProperties c parent (path ++ "/items") v
    else mapItemsMember c parent path rest

/-- `_map_items_properties`: named properties of every level go to the parent column. -/
def mapItemsProperties (c : Contract) (parent : GraphNodeIdentity) (path : String) :
    Json → Except OdcsError MappedParts
  | .obj members => do
    let here ← mapPropertiesMember c parent path members
    let deeper ← mapItemsMember c parent path members
    return here ++ deeper
  | _ => .ok .empty
end

/-- One schema object: its dataset, governed by the contract, with its columns. -/
def mapSchemaObject (c : Contract) (contract : GraphNodeIdentity) (path : String) :
    Json → Except OdcsError MappedParts
  | .obj schemaObj => do
    let name ← requireMappedStr (Json.lookup schemaObj "name") (path ++ "/name")
      "schema object name is required for graph mapping"
    match logicalIdentity schemaObj with
    | none => .error (mappingError path "schema object logical identity is required for graph mapping")
    | some logicalId => do
      let node := entryNode c (.root c.nameSpace kindDataset logicalId dataset_ne_column) name schemaObj
        (datasetAttributes schemaObj)
      let columns ← mapPropertiesMember c node.identity path schemaObj
      return .observed node c.provenance
        [mappedEdge contract node.identity kindGoverns [c.provenance]] ++ columns
  | _ => .ok .empty

/-- The purpose that the description object states. -/
def contractPurpose (document : List (String × Json)) : Option String :=
  match Json.lookup document "description" with
  | some (.obj description) => (Json.lookup description "purpose").bind textOf
  | _ => none

theorem odcs_nonblank : isBlank "odcs" = false := by decide

/-- `_odcs_provenance` -/
def odcsProvenance (contractId contractVersion : Stripped) : ProvenanceRecord :=
  ⟨.of "odcs" odcs_nonblank, contractId, some contractVersion, .declared⟩

def schemaEntries (document : List (String × Json)) : List Json :=
  match Json.lookup document "schema" with
  | some (.arr entries) => entries
  | _ => []

/-- The parts of the contract: its own node, then those of its schema objects. -/
def mapContract (casefold : String → String) (document : List (String × Json)) (nameSpace : Stripped) :
    Except OdcsError MappedParts := do
  let contractId ← requireMappedStr (Json.lookup document "id") "/id"
    "contract id is required for graph mapping"
  let contractVersion ← requireMappedStr (Json.lookup document "version") "/version"
    "contract version is required for graph mapping"
  let c : Contract := ⟨nameSpace, odcsProvenance contractId contractVersion⟩
  let attributes ← contractAttributes casefold document
  let name := (strippedText (Json.lookup document "name")).getD contractId
  let node := mappedNode (.root nameSpace kindContract contractId contract_ne_column) name
    (contractPurpose document) attributes [c.provenance]
  let datasets ← (schemaEntries document).zipIdx.mapM fun e =>
    mapSchemaObject c node.identity ("/schema/" ++ toString e.2) e.1
  return .observed node c.provenance [] ++ .join datasets

/-- `_map_odcs_result` -/
def mapOdcsResult (casefold : String → String) (document : List (String × Json))
    (nameSpace : Stripped) : Except OdcsError GovernanceMappingResult := do
  let parts ← mapContract casefold document nameSpace
  parts.result.mapError fun _ =>
    mappingError "" "failed to construct governance graph from ODCS document"

/-- `map_odcs_document_with_observations` -/
def mapOdcsDocumentWithObservations (schemaErrors : Json → List OdcsDiagnostic)
    (casefold : String → String) (document : Json) (nameSpace : String) :
    Except OdcsError GovernanceMappingResult := do
  let ns ← requireNamespace nameSpace
  let validated ← validateOdcsDocument schemaErrors document
  assertSiblingIdentityUniqueness validated
  mapOdcsResult casefold validated ns

end CollibraGovernance.Odcs
