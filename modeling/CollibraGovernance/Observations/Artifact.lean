import CollibraGovernance.Comparison.Load
import CollibraGovernance.Domain.Observations
import CollibraGovernance.Library.RecursiveSchema

/-! The property observations artifact: what is written, and how a document is read back. -/
namespace CollibraGovernance.Observations
open Library Identity Domain Comparison

inductive ObservationsArtifactErrorCode where
  | readError | parseError | invalidArtifact | unsupportedSchema | unsupportedVersion | integrityMismatch
  | writeError
  deriving DecidableEq

structure ObservationsArtifactDiagnostic where
  code : ObservationsArtifactErrorCode
  path : String
  message : String
  deriving DecidableEq

/-- A value, or the refusal of the artifact. -/
abbrev Read (α : Type) := Except (List ObservationsArtifactDiagnostic) α

def refuse {α : Type} (path message : String) : Read α := .error [⟨.invalidArtifact, path, message⟩]

/-- A domain constructor's error as the refusal of the artifact. -/
def orRefuse {α : Type} (made : Except String α) (path message : String) : Read α :=
  made.mapError (fun _ => [⟨.invalidArtifact, path, message⟩])

@[simp] lemma orRefuse_ok {α : Type} (a : α) (path message : String) :
    orRefuse (.ok a) path message = .ok a := rfl

def propertyObservationSetSchema : String := "governance-property-observations"
def propertyObservationSetVersion : String := "1"

/-- The members of the document of a set, with its identity. -/
def artifactMembers (sha256 : String → String) (s : PropertyObservationSet) : List (String × Json) :=
  [("observation_schema", .str propertyObservationSetSchema),
    ("observation_version", .str propertyObservationSetVersion),
    ("observations", .arr (s.observations.map PropertyObservation.toIdentityEntry)),
    ("content_identity", (s.contentIdentity sha256).toDict)]

def propertyObservationSetToDict (sha256 : String → String) (s : PropertyObservationSet) : Json :=
  .obj (artifactMembers sha256 s)

/-! `governance-property-observations.v1.schema.json` -/

/-- The node kinds the schema admits. -/
def admittedKinds : List String :=
  [nodeKindDataSource, nodeKindDataset, nodeKindTable, nodeKindColumn, nodeKindContract, nodeKindTransformation]

/-- `graphNodeIdentity`, over the schema of the parent. -/
def graphNodeIdentityStep (parent : Json → Bool) : Json → Bool := JsonSchema.object
  [⟨"namespace", true, JsonSchema.text 1⟩, ⟨"kind", true, JsonSchema.texts admittedKinds⟩,
    ⟨"logical_id", true, JsonSchema.text 1⟩, ⟨"parent", true, optionalSchema parent⟩]

def graphNodeIdentitySchema : Json → Bool := JsonSchema.recursive graphNodeIdentityStep

def provenanceRecordSchema : Json → Bool := JsonSchema.object
  [⟨"provider_type", true, JsonSchema.text 1⟩, ⟨"source_ref", true, JsonSchema.text 1⟩,
    ⟨"source_version", true, optionalSchema (JsonSchema.text 1)⟩,
    ⟨"observation_mode", true, JsonSchema.texts ["declared", "observed", "derived"]⟩]

def propertyObservationSchema : Json → Bool := JsonSchema.object
  [⟨"object", true, graphNodeIdentitySchema⟩, ⟨"property", true, JsonSchema.text 1⟩,
    ⟨"provenance", true, JsonSchema.sized 1 none provenanceRecordSchema⟩,
    ⟨"value", true, JsonSchema.anything⟩]

def observationProperties : List JsonSchema.Property :=
  [⟨"observation_schema", true, JsonSchema.texts [propertyObservationSetSchema]⟩,
    ⟨"observation_version", true, JsonSchema.texts [propertyObservationSetVersion]⟩,
    ⟨"observations", true, JsonSchema.array propertyObservationSchema⟩,
    ⟨"content_identity", true, contentIdentitySchema⟩]

/-- Whether the schema accepts a document. -/
def observationSchemaAccepts : Json → Bool := JsonSchema.object observationProperties

/-! Reading the parts of the artifact. -/

/-- `set(raw) == keys` -/
def hasExactKeys (members : List (String × Json)) (keys : List String) : Bool :=
  members.all (fun m => keys.contains m.1) && keys.all (fun key => (Json.lookup members key).isSome)

def requireExactNonEmptyStr (value : Json) (path message : String) : Read String :=
  match value with
  | .str s => if s = "" ∨ strip s ≠ s then refuse path message else .ok s
  | _ => refuse path message

lemma requireExactNonEmptyStr_val (s : Stripped) (path message : String) :
    requireExactNonEmptyStr (.str s.val) path message = .ok s.val := by
  have hne := ne_empty_of_not_blank s.nonblank
  rw [requireExactNonEmptyStr, if_neg (by simp [hne, s.stripped])]

def parseContentIdentity (raw : List (String × Json)) (path : String) : Read ContentIdentity :=
  if hasExactKeys raw ["algorithm", "hashing_contract_version", "digest"] then
    match Json.get raw "algorithm", Json.get raw "hashing_contract_version", Json.get raw "digest" with
    | .str algorithm, .str version, .str digest => .ok ⟨algorithm, version, digest⟩
    | _, _, _ => refuse path "invalid observations content_identity"
  else refuse path "invalid observations content_identity"

/-- `_parse_graph_node_identity`, parents first. -/
def parseGraphNodeIdentity (raw : Json) (path : String) : Read GraphNodeIdentity :=
  match raw with
  | .obj members =>
    if hasExactKeys members ["namespace", "kind", "logical_id", "parent"] then do
      let message := "invalid graph node identity"
      let nameSpace ← requireExactNonEmptyStr (Json.get members "namespace") (path ++ "/namespace") message
      let kind ← requireExactNonEmptyStr (Json.get members "kind") (path ++ "/kind") message
      let logicalId ← requireExactNonEmptyStr (Json.get members "logical_id") (path ++ "/logical_id") message
      let parent ← if Json.get members "parent" = .null then .ok none
        else (parseGraphNodeIdentity (Json.get members "parent") (path ++ "/parent")).map some
      orRefuse (GraphNodeIdentity.create nameSpace kind logicalId parent) path message
    else refuse path "invalid graph node identity"
  | _ => refuse path "invalid graph node identity"
termination_by raw.depth
decreasing_by exact Json.depth_get_lt members "parent"

def parseProvenanceRecord (raw : Json) (path : String) : Read ProvenanceRecord :=
  match raw with
  | .obj members =>
    if hasExactKeys members ["provider_type", "source_ref", "source_version", "observation_mode"] then do
      let message := "invalid provenance record"
      let told := fun key => requireExactNonEmptyStr (Json.get members key) (path ++ "/" ++ key) message
      let providerType ← told "provider_type"
      let sourceRef ← told "source_ref"
      let sourceVersion ← if Json.get members "source_version" = .null then .ok none
        else (told "source_version").map some
      let observationMode ← told "observation_mode"
      if (ObservationMode.parse observationMode).isSome then
        orRefuse (ProvenanceRecord.create providerType sourceRef sourceVersion observationMode) path message
      else refuse (path ++ "/observation_mode") message
    else refuse path "invalid provenance record"
  | _ => refuse path "invalid provenance record"

def parsePropertyPath (raw : Json) (path : String) : Read PropertyPath :=
  match raw with
  | .str pointer => do
    let parsed ← orRefuse (PropertyPath.parse pointer) path "invalid property pointer"
    if parsed.toPointer = pointer then return parsed
    else refuse path "property pointer is not canonical"
  | _ => refuse path "invalid property pointer"

/-- The entries of an array, each with the path of its place in it. -/
def parseEach {α : Type} (parse : Json → String → Read α) (path : String) (items : List Json) : Read (List α) :=
  items.zipIdx.mapM (fun item => parse item.1 (path ++ "/" ++ toString item.2))

def parseObservationEntry (raw : Json) (path : String) : Read PropertyObservation :=
  match raw with
  | .obj members =>
    if hasExactKeys members ["object", "property", "provenance", "value"] then do
      let objectIdentity ← parseGraphNodeIdentity (Json.get members "object") (path ++ "/object")
      let propertyPath ← parsePropertyPath (Json.get members "property") (path ++ "/property")
      match Json.get members "provenance" with
      | .arr (first :: rest) => do
        let provenance ← parseEach parseProvenanceRecord (path ++ "/provenance") (first :: rest)
        orRefuse (PropertyObservation.create objectIdentity propertyPath (Json.get members "value") provenance)
          path "invalid property observation entry"
      | _ => refuse (path ++ "/provenance") "invalid property observation provenance"
    else refuse path "invalid property observation entry"
  | _ => refuse path "invalid property observation entry"

section Load
/-! The schema validator is a third-party library: it receives a document and reports the failed
keywords of the schema above. -/
variable (sha256 : String → String) (iterErrors : Json → List JsonSchema.Failure)

/-- `_schema_diagnostic` -/
def schemaDiagnostic (failure : JsonSchema.Failure) : ObservationsArtifactDiagnostic :=
  ⟨.invalidArtifact, if failure.absolutePath = [] then "/" else "/" ++ "/".intercalate failure.absolutePath,
    "observations artifact failed schema validation (" ++ failure.validator ++ ")"⟩

/-- `load_property_observation_set_artifact`, on the parsed document. -/
def loadPropertyObservationSetArtifact (document : Json) : Read PropertyObservationSet :=
  match document with
  | .obj payload =>
    if Json.get payload "observation_schema" ≠ .str propertyObservationSetSchema then
      .error [⟨.unsupportedSchema, "/observation_schema", "unsupported observations schema"⟩]
    else if Json.get payload "observation_version" ≠ .str propertyObservationSetVersion then
      .error [⟨.unsupportedVersion, "/observation_version", "unsupported observations version"⟩]
    else if iterErrors document ≠ [] then .error ((sortFailures (iterErrors document)).map schemaDiagnostic)
    else
      match Json.get payload "content_identity", Json.get payload "observations" with
      | .obj identityRaw, .arr stored => do
        let parsed ← parseEach parseObservationEntry "/observations" stored
        let observationSet := PropertyObservationSet.fromObservations parsed
        if Json.pyEquals (.arr (observationSet.observations.map PropertyObservation.toIdentityEntry))
            (.arr stored) then do
          let actual ← parseContentIdentity identityRaw "/content_identity"
          if actual = observationSet.contentIdentity sha256 then return observationSet
          else .error [⟨.integrityMismatch, "/content_identity", "observations content_identity mismatch"⟩]
        else refuse "/observations" "observations are not in domain-normalized order"
      | .obj _, _ => refuse "/observations" "observations must be an array"
      | _, _ => refuse "/content_identity" "observations content_identity is required"
  | _ => .error [⟨.parseError, "/", "observations root must be a mapping"⟩]

end Load
end CollibraGovernance.Observations
