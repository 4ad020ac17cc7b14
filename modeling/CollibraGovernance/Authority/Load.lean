import CollibraGovernance.Domain.Authority
import CollibraGovernance.Library.JsonSchema

/-! Loading governance authority files: structure, rules, duplicate ids, ambiguous selectors. -/
namespace CollibraGovernance.Authority
open Library Identity Domain

structure AuthorityDiagnosticError where
  code : String
  path : String
  message : String
  source : String
  fileIndex : Option Nat := none
  deriving DecidableEq

def codeParse : String := "parse_error"
def codeMissing : String := "missing_authority_file"
def codeUnsupported : String := "unsupported_authority_version"
def codeSchema : String := "schema_validation_failed"
def codeSemantic : String := "semantic_validation_failed"
def codeDuplicate : String := "duplicate_authority_rule_id"
def codeAmbiguous : String := "ambiguous_authority_selector"

/-- `AuthorityError`: the diagnostics by source, path, code and message. -/
def authorityError (errors : List AuthorityDiagnosticError) : List AuthorityDiagnosticError :=
  sortBy (fun e => toLex (e.source, toLex (e.path, toLex (e.code, e.message)))) errors

/-- A check that stops at its first diagnostic. -/
abbrev Checked := Except AuthorityDiagnosticError

def refuse {α : Type} (code path message source : String) : Checked α :=
  .error ⟨code, path, message, source, none⟩

/-! `governance-authority.v1.schema.json` -/

def authorityTargetSchema : Json → Bool := JsonSchema.object
  [⟨"provider_type", true, JsonSchema.text 1⟩, ⟨"source_ref", false, JsonSchema.text 1⟩]

def selectSchema : Json → Bool := JsonSchema.object
  [⟨"kind", true, JsonSchema.texts (AuthorityNodeKind.all.map AuthorityNodeKind.value)⟩,
    ⟨"property", true, JsonSchema.text 1⟩, ⟨"namespace", false, JsonSchema.text 1⟩]

def ruleProperties : List JsonSchema.Property :=
  [⟨"id", true, JsonSchema.text 1⟩, ⟨"description", false, JsonSchema.text 1⟩,
    ⟨"select", true, selectSchema⟩, ⟨"authority", true, authorityTargetSchema⟩]

def ruleSchema : Json → Bool := JsonSchema.object ruleProperties

def authorityProperties : List JsonSchema.Property :=
  [⟨"authority_schema", true, JsonSchema.texts ["governance-authority"]⟩,
    ⟨"authority_version", true, JsonSchema.texts ["1"]⟩,
    ⟨"rules", true, JsonSchema.array ruleSchema⟩]

def authoritySchema : Json → Bool := JsonSchema.object authorityProperties

/-- What the schema validator reports: the failed keyword and where. -/
structure SchemaError where
  validator : String
  absolutePath : List String

def safeSchemaMessage (error : SchemaError) : String :=
  if error.validator = "required" then "missing required property"
  else if error.validator = "additionalProperties" then "unknown property is not allowed"
  else if error.validator = "const" then "value is not an allowed constant"
  else if error.validator = "enum" then "value is not an allowed enumeration member"
  else if error.validator = "type" then "value has an invalid type"
  else if error.validator = "minLength" then "string is empty or too short"
  else "authority failed structural validation"

/-- `_pointer_from_path` -/
def pointerFromPath (path : List String) : String := if path = [] then "" else pointerText path

/-- The text of a document, as far as it can be read. -/
inductive FileContent where
  | missing | unreadable | invalidYaml
  | document (d : Json)

structure AuthorityFile where
  source : String
  content : FileContent

/-- A member that must be a text that is not blank. -/
def requiredText (value : Json) (path message source : String) : Checked Stripped :=
  match value with
  | .str s => if h : isBlank s = false then .ok (.of s h) else refuse codeSemantic path message source
  | _ => refuse codeSemantic path message source

/-- A member that may be absent and else must be a text that is not blank. -/
def optionalText (value : Json) (path message source : String) : Checked (Option Stripped) :=
  match value with
  | .null => .ok none
  | j => return some (← requiredText j path message source)

def requiredMapping (value : Json) (path message source : String) :
    Checked (List (String × Json)) :=
  match value with
  | .obj members => .ok members
  | _ => refuse codeSemantic path message source

def requiredKind (value : Json) (path source : String) : Checked AuthorityNodeKind :=
  match value with
  | .str s =>
    match AuthorityNodeKind.parse s with
    | some k => .ok k
    | none => refuse codeSemantic path "unsupported object kind" source
  | _ => refuse codeSemantic path "unsupported object kind" source

def requiredPointer (value : Json) (path source : String) : Checked PropertyPath :=
  match value with
  | .str s =>
    match PropertyPath.parse s with
    | .ok p => .ok p
    | .error _ => refuse codeSemantic path "property must be a valid RFC6901 JSON Pointer" source
  | _ => refuse codeSemantic path "property must be a JSON Pointer string" source

def normalizeSelector (selectRaw : List (String × Json)) (pointer source : String) :
    Checked AuthoritySelector := do
  let kind ← requiredKind (Json.get selectRaw "kind") (pointer ++ "/kind") source
  let propertyPath ← requiredPointer (Json.get selectRaw "property") (pointer ++ "/property") source
  let nameSpace ← optionalText (Json.get selectRaw "namespace") (pointer ++ "/namespace")
    "namespace must be a non-empty string when provided" source
  return ⟨kind, propertyPath, nameSpace⟩

def normalizeTarget (authorityRaw : List (String × Json)) (pointer source : String) :
    Checked AuthorityTarget := do
  let providerType ← requiredText (Json.get authorityRaw "provider_type")
    (pointer ++ "/provider_type") "provider_type must be a non-empty string" source
  let sourceRef ← optionalText (Json.get authorityRaw "source_ref") (pointer ++ "/source_ref")
    "source_ref must be a non-empty string when provided" source
  return ⟨providerType, sourceRef⟩

def normalizeRule (item : List (String × Json)) (pointer source : String) :
    Checked (AuthorityRuleKey × AuthorityDeclaration) := do
  let ruleId ← requiredText (Json.get item "id") (pointer ++ "/id")
    "authority rule id is required" source
  let description ← optionalText (Json.get item "description") (pointer ++ "/description")
    "description must be a non-empty string when provided" source
  let selectRaw ← requiredMapping (Json.get item "select") (pointer ++ "/select")
    "select must be a mapping" source
  let selector ← normalizeSelector selectRaw (pointer ++ "/select") source
  let authorityRaw ← requiredMapping (Json.get item "authority") (pointer ++ "/authority")
    "authority must be a mapping" source
  let target ← normalizeTarget authorityRaw (pointer ++ "/authority") source
  return (⟨selector, target⟩, ⟨ruleId, description⟩)

/-- A rule as it was found: its key, its declaration and the pointer to it. -/
abbrev FoundRule := AuthorityRuleKey × AuthorityDeclaration × String

/-- The rules from the given index on, and what is wrong with the others. -/
def normalizeItems (source : String) : Nat → List Json →
    List FoundRule × List AuthorityDiagnosticError
  | _, [] => ([], [])
  | index, item :: rest =>
    let pointer := "/rules/" ++ toString index
    let (found, errors) := normalizeItems source (index + 1) rest
    match item with
    | .obj members =>
      match normalizeRule members pointer source with
      | .ok (key, declaration) => ((key, declaration, pointer) :: found, errors)
      | .error e => (found, e :: errors)
    | _ => (found, ⟨codeSemantic, pointer, "rule must be a mapping", source, none⟩ :: errors)

/-- `_normalize_document` -/
def normalizeDocument (document : List (String × Json)) (source : String) :
    List FoundRule × List AuthorityDiagnosticError :=
  match Json.get document "rules" with
  | .arr rulesRaw => normalizeItems source 0 rulesRaw
  | _ => ([], [⟨codeSemantic, "/rules", "rules must be an array", source, none⟩])

section Load
/-! The schema validator is a third-party library: it receives a document and reports the failed
keywords of the schema above. -/
variable (iterErrors : Json → List SchemaError) (isPrintable : Char → Bool)

def validateAuthorityStructure (document : Json) (source : String) :
    Except (List AuthorityDiagnosticError) (List (String × Json)) :=
  match document with
  | .obj members =>
    let version := Json.get members "authority_version"
    if version ≠ .null ∧ version ≠ .str "1" then
      .error [⟨codeUnsupported, "/authority_version", "unsupported authority_version", source, none⟩]
    else
      let errors := iterErrors document
      if errors.any (fun e => e.validator = "const" ∧ e.absolutePath = ["authority_version"]) then
        .error [⟨codeUnsupported, "/authority_version", "unsupported authority_version", source, none⟩]
      else if errors = [] then .ok members
      else .error (errors.map (fun e =>
        ⟨codeSchema, pointerFromPath e.absolutePath, safeSchemaMessage e, source, none⟩))
  | _ => .error [⟨codeSchema, "", "authority root must be a mapping", source, none⟩]

/-- The rules of one file, and what is wrong with it. -/
def readFile (file : AuthorityFile) : List FoundRule × List AuthorityDiagnosticError :=
  match file.content with
  | .missing => ([], [⟨codeMissing, "", "authority file does not exist", file.source, none⟩])
  | .unreadable => ([], [⟨codeParse, "", "unable to read authority file", file.source, none⟩])
  | .invalidYaml => ([], [⟨codeParse, "", "invalid YAML in authority file", file.source, none⟩])
  | .document d =>
    match validateAuthorityStructure iterErrors d file.source with
    | .error errors => ([], errors)
    | .ok members => normalizeDocument members file.source

/-- A collected rule with its file index and source. -/
structure CollectedRule where
  key : AuthorityRuleKey
  declaration : AuthorityDeclaration
  fileIndex : Nat
  source : String
  rulePath : String

structure Collection where
  collected : List CollectedRule
  seenIds : List String
  errors : List AuthorityDiagnosticError

/-- One rule; an id that was seen before is an error. -/
def collectRule (index : Nat) (source : String) (c : Collection) (r : FoundRule) : Collection :=
  if r.2.1.configId.val ∈ c.seenIds then
    { c with
      errors := c.errors ++
        [⟨codeDuplicate, "/rules", "duplicate authority rule id", source, some index⟩] }
  else
    { c with
      seenIds := c.seenIds ++ [r.2.1.configId.val]
      collected := c.collected ++ [⟨r.1, r.2.1, index, source, r.2.2⟩] }

def collectFile (c : Collection) (indexed : Nat × AuthorityFile) : Collection :=
  let (rules, errors) := readFile iterErrors indexed.2
  let withErrors := { c with
    errors := c.errors ++ errors.map (fun e => { e with fileIndex := some indexed.1 }) }
  rules.foldl (collectRule indexed.1 indexed.2.source) withErrors

def collectFiles (files : List AuthorityFile) : Collection :=
  ((List.range files.length).zip files).foldl (collectFile iterErrors) ⟨[], [], []⟩

/-- The rules with one selector and different targets, reported selector by selector. -/
def ambiguityErrors (collected : List CollectedRule) : List AuthorityDiagnosticError :=
  let selectors := sortBy (fun s : AuthoritySelector => s.toDict.canonicalJson)
    (distinct (collected.map (fun r => r.key.selector)))
  selectors.flatMap (fun selector =>
    let origins := collected.filter (fun r => r.key.selector = selector)
    if (distinct (origins.map CollectedRule.key)).length ≤ 1 then []
    else
      let ordered := sortBy (fun r => toLex (r.fileIndex, toLex (r.rulePath,
        toLex (r.source, r.key.canonicalBytes)))) origins
      ordered.map (fun r => ⟨codeAmbiguous, r.rulePath,
        "ambiguous authority rules share the same selector with different targets for " ++
          selector.toDict.pyRepr isPrintable, r.source, some r.fileIndex⟩))

/-- One rule for each key, with the declarations collected for it. -/
def collectedRules (collected : List CollectedRule) : List NormalizedAuthorityRule :=
  (groupBy CollectedRule.key collected).entries.map (fun e =>
    NormalizedAuthorityRule.of e.1 (e.2.members.map CollectedRule.declaration) (by
      simp [Group.members]))

def loadNormalizedAuthorityFiles (files : List AuthorityFile) :
    Except (List AuthorityDiagnosticError) NormalizedAuthorityPolicySet :=
  let c := collectFiles iterErrors files
  if c.errors ≠ [] then .error (authorityError c.errors)
  else
    let ambiguous := ambiguityErrors isPrintable c.collected
    if ambiguous ≠ [] then .error (authorityError ambiguous)
    else .ok (.of (collectedRules c.collected))

end Load
end CollibraGovernance.Authority
