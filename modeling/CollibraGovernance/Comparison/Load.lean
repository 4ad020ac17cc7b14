import CollibraGovernance.Comparison.Compatible
import CollibraGovernance.Comparison.Result
import CollibraGovernance.Library.JsonSchema

/-! Reading a comparison artifact back: schema, content identity, and the semantics of its changes. -/
namespace CollibraGovernance.Comparison
open Library Identity

inductive ComparisonArtifactErrorCode where
  | readError | parseError | invalidArtifact | unsupportedSchema | unsupportedVersion | integrityMismatch
  deriving DecidableEq

structure ComparisonArtifactDiagnostic where
  code : ComparisonArtifactErrorCode
  path : String
  message : String
  deriving DecidableEq

abbrev Loaded (α : Type) := Except (List ComparisonArtifactDiagnostic) α

def invalidArtifact {α : Type} (path message : String) : Loaded α :=
  .error [⟨.invalidArtifact, path, message⟩]

/-- `if not holds: raise ComparisonArtifactError(...)` -/
def demand (holds : Bool) (path message : String) : Loaded Unit :=
  if holds then .ok () else invalidArtifact path message

@[simp] theorem demand_eq_ok {holds : Bool} {path message : String} :
    demand holds path message = .ok () ↔ holds = true := by
  cases holds <;> simp [demand, invalidArtifact]

lemma demand_bind {α : Type} {holds : Bool} (h : holds = true) (path message : String)
    (f : Unit → Loaded α) : (demand holds path message >>= f) = f () := by
  rw [demand_eq_ok.mpr h]
  rfl

/-- Documents are compared without regard to member order. -/
def sameDocument (a b : Json) : Bool := a.normalize = b.normalize

def parseIdentity (raw : Json) (path : String) : Loaded ComparisonObjectIdentity :=
  match parseIdentityDict raw with
  | some i => .ok i
  | none => invalidArtifact path "invalid comparison object identity"

/-- `_parent_matches` -/
def parentMatches (i : ComparisonObjectIdentity) (parentRaw : Json) : Bool :=
  match i.expectedParent with
  | none => parentRaw = .null
  | some expected => (parseIdentityDict parentRaw).any (fun actual => actual.toDict = expected.toDict)

/-- `_property_values_materially_different` -/
def propertyValuesMateriallyDifferent (baseline candidate : List (String × Json)) : Bool :=
  let baseHas := (Json.get baseline "has_value").truthy
  let candHas := (Json.get candidate "has_value").truthy
  if baseHas ≠ candHas then true
  else if !baseHas then false
  else (Json.get baseline "value").canonicalJson ≠ (Json.get candidate "value").canonicalJson

def validateCanonicalPropertyPointer (pointer path : String) : Loaded Unit :=
  match parsePointer pointer with
  | .error _ => invalidArtifact path "invalid property pointer"
  | .ok segments => demand (pointerText segments = pointer) path "property pointer is not canonical"

def validateProducerMetadata (baseline candidate : Json) : Loaded Unit :=
  match baseline, candidate with
  | .obj b, .obj c => do
    demand (Json.get b "system_type" = Json.get c "system_type") "/candidate/system_type"
      "baseline and candidate system_type must match"
    demand (Json.get b "scanner" = Json.get c "scanner") "/candidate/scanner"
      "baseline and candidate scanner must match"
    demand (Json.get b "scanner_contract_version" = .str Snapshots.scannerContractVersion)
      "/baseline/scanner_contract_version" "unsupported scanner contract version"
    demand (Json.get c "scanner_contract_version" = .str Snapshots.scannerContractVersion)
      "/candidate/scanner_contract_version" "unsupported scanner contract version"
  | _, _ => invalidArtifact "/" "invalid comparison baseline or candidate metadata"

/-- One root of `_validate_root_alignment`: the names of both sides and the alignment entry. -/
def validateAlignmentEntry (root : String) (baselineName candidateName alignment : Json) : Loaded Unit :=
  if baselineName = candidateName then
    demand (alignment = .null) ("/root_alignment/" ++ root)
      ("root alignment " ++ root ++ " must be null when " ++ root ++ " names match")
  else demand (sameDocument alignment (.obj [("baseline", baselineName), ("candidate", candidateName)]))
    ("/root_alignment/" ++ root) ("root alignment " ++ root ++ " does not match metadata")

def validateRootAlignment (baseline candidate : List (String × Json)) (alignment : Json) : Loaded Unit :=
  match alignment with
  | .obj entries => do
    validateAlignmentEntry "source" (Json.get baseline "source_name") (Json.get candidate "source_name")
      (Json.get entries "source")
    validateAlignmentEntry "database" (Json.get baseline "database_name")
      (Json.get candidate "database_name") (Json.get entries "database")
  | _ => invalidArtifact "/root_alignment" "invalid root alignment block"

/-- An object change with its identity read. -/
structure ParsedChange where
  change : ChangeKind
  identity : ComparisonObjectIdentity
  propertyChanges : List Json

/-- The sides of a property change fit the property, and differ. -/
def validateSides (i : ComparisonObjectIdentity) (pointer path : String) (baseline candidate : Json) :
    Loaded Unit :=
  match baseline, candidate with
  | .obj b, .obj c => do
    demand (comparableChangeValueCompatible i pointer (.obj b)) (path ++ "/baseline")
      "property value is not compatible with comparison producer contract"
    demand (comparableChangeValueCompatible i pointer (.obj c)) (path ++ "/candidate")
      "property value is not compatible with comparison producer contract"
    demand (propertyValuesMateriallyDifferent b c) path "property change is not materially different"
  | _, _ => invalidArtifact path "property change requires baseline and candidate"

/-- The property changes of one object; `seen` are the pointers before, the last one first. -/
def validatePropertyChanges (i : ComparisonObjectIdentity) (basePath : String) :
    Nat → List String → List Json → Loaded Unit
  | _, _, [] => .ok ()
  | index, seen, c :: rest =>
    let path := basePath ++ "/property_changes/" ++ toString index
    match c with
    | .obj members =>
      match Json.get members "property" with
      | .str pointer => do
        validateCanonicalPropertyPointer pointer (path ++ "/property")
        demand (!seen.contains pointer) (path ++ "/property")
          "duplicate property pointer in property_changes"
        demand (seen.head?.all (fun previous => previous = "" || !(pointer < previous)))
          (path ++ "/property") "property_changes are not canonically ordered"
        demand (comparisonChangePropertyCompatibleWithKind i.kind pointer) (path ++ "/property")
          "property is not compatible with object kind"
        validateSides i pointer path (Json.get members "baseline") (Json.get members "candidate")
        validatePropertyChanges i basePath (index + 1) (pointer :: seen) rest
      | _ => invalidArtifact (path ++ "/property") "property pointer is required"
    | _ => invalidArtifact path "invalid property change entry"

def changeKindOf : Json → Option ChangeKind
  | .str "added" => some .added
  | .str "removed" => some .removed
  | .str "changed" => some .changed
  | _ => none

/-- One entry of the changes, after those with the given identities. -/
def validateObjectChange (index : Nat) (seen : List ComparisonObjectIdentity) (item : Json) :
    Loaded ParsedChange :=
  let path := "/object_changes/" ++ toString index
  match item with
  | .obj members => do
    let i ← parseIdentity (Json.get members "object_identity") (path ++ "/object_identity")
    demand (!(seen.map ComparisonObjectIdentity.canonicalBytes).contains i.canonicalBytes)
      (path ++ "/object_identity") "duplicate object identity in object_changes"
    demand (parentMatches i (Json.get members "parent_identity")) (path ++ "/parent_identity")
      "parent identity does not match object identity structure"
    let propertyChanges := Json.get members "property_changes"
    match changeKindOf (Json.get members "change") with
    | none => invalidArtifact (path ++ "/change") "invalid object change type"
    | some .changed =>
      match propertyChanges with
      | .arr (first :: rest) => do
        validatePropertyChanges i path 0 [] (first :: rest)
        demand (!(i.kind = .foreignKey && !foreignKeyReferenceSidesCoherent (first :: rest)))
          (path ++ "/property_changes") "foreign key reference properties are inconsistent"
        return ⟨.changed, i, first :: rest⟩
      | _ => invalidArtifact (path ++ "/property_changes") "changed object change requires property_changes"
    | some change => do
      demand (propertyChanges = .arr []) (path ++ "/property_changes")
        "added or removed object change must have empty property_changes"
      return ⟨change, i, []⟩
  | _ => invalidArtifact path "invalid object change entry"

/-- The entries in their order, with the ones read before. -/
def validateObjectChanges : List ParsedChange → List Json → Loaded (List ParsedChange)
  | parsed, [] => .ok parsed
  | parsed, item :: rest => do
    let change ← validateObjectChange parsed.length (parsed.map ParsedChange.identity) item
    validateObjectChanges (parsed ++ [change]) rest

section Parsed
variable (parsed : List ParsedChange)

def validateRootObjectChanges : Loaded Unit :=
  demand (parsed.all (fun c => !((c.identity.kind = .dataSource || c.identity.kind = .database) &&
    c.identity.path = [] && c.change ≠ .changed))) "/object_changes"
    "root object changes must not be added or removed"

/-- `_find_name_property_change` -/
def findNamePropertyChange (kind : GovernedObjectKind) : Option Json :=
  parsed.findSome? (fun c =>
    if c.identity.kind ≠ kind ∨ c.identity.path ≠ [] ∨ c.change ≠ .changed then none
    else changeOf c.propertyChanges "/name")

/-- One root of `_validate_root_name_metadata`. -/
def validateRootName (kind : GovernedObjectKind) (baselineName candidateName : Json) : Loaded Unit :=
  match decide (baselineName = candidateName), findNamePropertyChange parsed kind with
  | true, none => .ok ()
  | true, some _ => invalidArtifact "/object_changes"
      ("redundant " ++ kind.text ++ " name change when metadata names match")
  | false, none => invalidArtifact "/object_changes" ("missing required " ++ kind.text ++ " name change")
  | false, some c => demand
      (sameDocument (Json.get (membersOf c) "baseline") (.obj [("has_value", .bool true), ("value", baselineName)]) &&
        sameDocument (Json.get (membersOf c) "candidate")
          (.obj [("has_value", .bool true), ("value", candidateName)]))
      "/object_changes" (kind.text ++ " name change does not match metadata")

def changeByIdentity : Dict String ChangeKind :=
  Dict.index (fun c : ParsedChange => c.identity.canonicalBytes) ParsedChange.change parsed

def validateHierarchyConsistency : Loaded Unit :=
  demand (parsed.all (fun c => c.identity.ancestors.all (fun ancestor =>
    match (changeByIdentity parsed).get? ancestor.canonicalBytes with
    | none => true
    | some .changed => true
    | some change => c.change = change))) "/object_changes" "object change hierarchy is inconsistent"

def parsedKey (c : ParsedChange) : Nat ×ₗ String := toLex (c.change.rank, c.identity.canonicalBytes)

/-- No entry comes before the one it follows. -/
def canonicallyOrdered : List ParsedChange → Bool
  | [] => true
  | [_] => true
  | c :: c' :: rest => !(parsedKey c' < parsedKey c) && canonicallyOrdered (c' :: rest)

def countOf (change : ChangeKind) : Nat := parsed.countP (fun c => c.change = change)

def propertyChangesCount : Nat :=
  ((parsed.filter (fun c => c.change = .changed)).flatMap ParsedChange.propertyChanges).length

/-- The counts of the summary are those of the changes. -/
def validateSummary (summary : List (String × Json)) : Loaded Unit := do
  demand ((Json.get summary "added").number = some (countOf parsed .added)) "/summary/added"
    "summary added count mismatch"
  demand ((Json.get summary "removed").number = some (countOf parsed .removed)) "/summary/removed"
    "summary removed count mismatch"
  demand ((Json.get summary "changed").number = some (countOf parsed .changed)) "/summary/changed"
    "summary changed count mismatch"
  demand ((Json.get summary "property_changes").number = some (propertyChangesCount parsed))
    "/summary/property_changes" "summary property_changes count mismatch"

def validateStatus (status : Json) : Loaded Unit :=
  let materialCount := countOf parsed .added + countOf parsed .removed + countOf parsed .changed
  match status with
  | .str "identical" => demand (materialCount = 0 && parsed.isEmpty) "/status"
      "identical status requires no material object changes"
  | .str "different" => demand (0 < materialCount) "/status"
      "different status requires material object changes"
  | _ => invalidArtifact "/status" "invalid comparison status"

end Parsed

def nonNegativeInt : Json → Bool
  | .int n => 0 ≤ n
  | .bool _ => true
  | _ => false

def validateComparisonResultSemantics (payload : List (String × Json)) : Loaded Unit := do
  demand (Json.get payload "direction" = .str direction) "/direction" "invalid comparison direction"
  demand ((Json.get payload "writes_performed").number = some 0) "/writes_performed" "writes_performed must be zero"
  validateProducerMetadata (Json.get payload "baseline") (Json.get payload "candidate")
  let baseline := membersOf (Json.get payload "baseline")
  let candidate := membersOf (Json.get payload "candidate")
  validateRootAlignment baseline candidate (Json.get payload "root_alignment")
  match Json.get payload "summary", Json.get payload "object_changes" with
  | .obj summary, .arr objectChanges => do
    demand (nonNegativeInt (Json.get summary "unchanged")) "/summary/unchanged"
      "summary unchanged must be a non-negative integer"
    let parsed ← validateObjectChanges [] objectChanges
    validateRootObjectChanges parsed
    validateRootName parsed .dataSource (Json.get baseline "source_name") (Json.get candidate "source_name")
    validateRootName parsed .database (Json.get baseline "database_name")
      (Json.get candidate "database_name")
    validateHierarchyConsistency parsed
    demand (canonicallyOrdered parsed) "/object_changes" "object_changes are not canonically ordered"
    validateSummary parsed summary
    validateStatus parsed (Json.get payload "status")
  | _, _ => invalidArtifact "/" "invalid comparison summary or object_changes"

/-! `governance-snapshot-comparison.v1.schema.json` -/

/-- `^[a-f0-9]{64}$`; a line feed may follow. -/
def digestPattern (s : String) : Bool :=
  let chars := s.toList
  let digits := if chars.getLast? = some '\n' then chars.dropLast else chars
  digits.length = 64 && digits.all "0123456789abcdef".toList.contains

def contentIdentitySchema : Json → Bool := JsonSchema.object
  [⟨"algorithm", true, JsonSchema.texts ["sha256"]⟩,
    ⟨"hashing_contract_version", true, JsonSchema.texts ["1"]⟩,
    ⟨"digest", true, JsonSchema.matching digestPattern⟩]

def artifactMetadataSchema : Json → Bool := JsonSchema.object
  [⟨"content_identity", true, contentIdentitySchema⟩, ⟨"source_name", true, JsonSchema.text 1⟩,
    ⟨"database_name", true, JsonSchema.text 1⟩, ⟨"system_type", true, JsonSchema.text 1⟩,
    ⟨"scanner", true, JsonSchema.text 1⟩, ⟨"scanner_contract_version", true, JsonSchema.text 1⟩]

def alignmentPairSchema : Json → Bool := JsonSchema.object
  [⟨"baseline", true, JsonSchema.text 1⟩, ⟨"candidate", true, JsonSchema.text 1⟩]

def optionalSchema (schema : Json → Bool) : Json → Bool := JsonSchema.oneOf [JsonSchema.isNull, schema]

def rootAlignmentSchema : Json → Bool := JsonSchema.object
  [⟨"source", true, optionalSchema alignmentPairSchema⟩, ⟨"database", true, optionalSchema alignmentPairSchema⟩]

def summarySchema : Json → Bool := JsonSchema.object
  (["added", "removed", "changed", "unchanged", "property_changes"].map
    (fun name => ⟨name, true, JsonSchema.integer 0⟩))

def GovernedObjectKind.all : List GovernedObjectKind :=
  [.dataSource, .database, .schema, .table, .column, .primaryKey, .foreignKey, .relationship]

/-- The number of segments of a path. -/
def GovernedObjectKind.arity : GovernedObjectKind → Nat
  | .dataSource => 0
  | .database => 0
  | .schema => 1
  | .table => 2
  | _ => 3

/-- An identity of the given kind; the roots have no path, the others have names in theirs. -/
def identitySchema (kind : GovernedObjectKind) : Json → Bool := JsonSchema.object
  [⟨"kind", true, JsonSchema.texts [kind.text]⟩,
    ⟨"path", true, JsonSchema.sized kind.arity (some kind.arity)
      (JsonSchema.text (if kind.arity = 0 then 0 else 1))⟩]

def comparisonObjectIdentitySchema : Json → Bool :=
  JsonSchema.oneOf (GovernedObjectKind.all.map identitySchema)

def comparablePropertyValueSchema : Json → Bool := JsonSchema.oneOf
  [JsonSchema.object [⟨"has_value", true, JsonSchema.constant (.bool true)⟩,
      ⟨"value", true, JsonSchema.anything⟩],
    JsonSchema.object [⟨"has_value", true, JsonSchema.constant (.bool false)⟩]]

def propertyChangeSchema : Json → Bool := JsonSchema.object
  [⟨"property", true, JsonSchema.matching (fun s => s.toList.head? = some '/')⟩,
    ⟨"baseline", true, comparablePropertyValueSchema⟩, ⟨"candidate", true, comparablePropertyValueSchema⟩]

def objectChangeOf (change : ChangeKind) : Json → Bool := JsonSchema.object
  [⟨"change", true, JsonSchema.texts [change.text]⟩,
    ⟨"object_identity", true, comparisonObjectIdentitySchema⟩,
    ⟨"parent_identity", true, optionalSchema comparisonObjectIdentitySchema⟩,
    ⟨"property_changes", true,
      if change = .changed then JsonSchema.sized 1 none propertyChangeSchema
      else JsonSchema.sized 0 (some 0) propertyChangeSchema⟩]

/-- What the parent of each kind must be. -/
def parentSchemas : List (List GovernedObjectKind × (Json → Bool)) :=
  [([.dataSource], JsonSchema.isNull), ([.database], identitySchema .dataSource),
    ([.schema], identitySchema .database), ([.table], identitySchema .schema),
    ([.column, .primaryKey, .foreignKey, .relationship], identitySchema .table)]

/-- The kind that the identity of a change tells. -/
def kindTold (change : Json) : Json :=
  match Json.get (membersOf change) "object_identity" with
  | .obj identity => Json.get identity "kind"
  | _ => .null

def parentKindConstraint (change : Json) : Bool :=
  parentSchemas.all (fun rule =>
    !(rule.1.map (fun kind => Json.str kind.text)).contains (kindTold change) ||
      (Json.lookup (membersOf change) "parent_identity").all rule.2)

def objectChangeSchema (change : Json) : Bool :=
  JsonSchema.oneOf [objectChangeOf .added, objectChangeOf .removed, objectChangeOf .changed] change &&
    parentKindConstraint change

def comparisonProperties : List JsonSchema.Property :=
  [⟨"comparison_schema", true, JsonSchema.texts [comparisonSchema]⟩,
    ⟨"comparison_version", true, JsonSchema.texts [comparisonVersion]⟩,
    ⟨"status", true, JsonSchema.texts ["identical", "different"]⟩,
    ⟨"direction", true, JsonSchema.texts [direction]⟩, ⟨"baseline", true, artifactMetadataSchema⟩,
    ⟨"candidate", true, artifactMetadataSchema⟩, ⟨"root_alignment", true, rootAlignmentSchema⟩,
    ⟨"summary", true, summarySchema⟩, ⟨"object_changes", true, JsonSchema.array objectChangeSchema⟩,
    ⟨"writes_performed", true, JsonSchema.integerConst 0⟩,
    ⟨"content_identity", true, contentIdentitySchema⟩]

/-- Whether the schema accepts a document. -/
def comparisonSchemaAccepts : Json → Bool := JsonSchema.object comparisonProperties

section Load
/-! The schema validator is a third-party library: it receives a document and reports the failed
keywords of the schema above. -/
variable (sha256 : String → String) (isPrintable : Char → Bool)
  (iterErrors : Json → List JsonSchema.Failure)

/-- `_schema_diagnostic` -/
def schemaDiagnostic (failure : JsonSchema.Failure) : ComparisonArtifactDiagnostic :=
  ⟨.invalidArtifact, if failure.absolutePath = [] then "/" else "/" ++ "/".intercalate failure.absolutePath,
    "comparison artifact failed schema validation (" ++ failure.validator ++ ")"⟩

def sortFailures (failures : List JsonSchema.Failure) : List JsonSchema.Failure :=
  sortBy (fun f : JsonSchema.Failure => toLex ("/" ++ "/".intercalate f.absolutePath, f.validator)) failures

/-- The identity that a document tells of itself. -/
def contentIdentityOf (members : List (String × Json)) : ContentIdentity :=
  let told := fun key => ((Json.lookup members key).getD (.str "")).pyStr isPrintable
  ⟨told "algorithm", told "hashing_contract_version", told "digest"⟩

/-- `load_comparison_artifact`, on the parsed document. -/
def loadComparisonArtifact (document : Json) : Loaded (List (String × Json)) :=
  match document with
  | .obj payload =>
    if Json.get payload "comparison_schema" ≠ .str comparisonSchema then
      .error [⟨.unsupportedSchema, "/comparison_schema", "unsupported comparison schema"⟩]
    else if Json.get payload "comparison_version" ≠ .str comparisonVersion then
      .error [⟨.unsupportedVersion, "/comparison_version", "unsupported comparison version"⟩]
    else if iterErrors document ≠ [] then .error ((sortFailures (iterErrors document)).map schemaDiagnostic)
    else
      match Json.get payload "content_identity" with
      | .obj identity =>
        let withoutIdentity := payload.filter (fun m => m.1 ≠ "content_identity")
        if contentIdentityOf isPrintable identity ≠ snapshotComparisonIdentity sha256 (.obj withoutIdentity) then
          .error [⟨.integrityMismatch, "/content_identity", "comparison content_identity mismatch"⟩]
        else do
          validateComparisonResultSemantics payload
          return payload
      | _ => invalidArtifact "/content_identity" "comparison content_identity is required"
  | _ => .error [⟨.parseError, "/", "comparison root must be a mapping"⟩]

end Load
end CollibraGovernance.Comparison
