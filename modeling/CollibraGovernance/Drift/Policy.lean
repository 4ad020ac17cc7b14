import CollibraGovernance.Comparison.Load
import CollibraGovernance.Library.Merge

/-! Drift policies: their rules, and how a policy document is parsed and normalized. -/
namespace CollibraGovernance.Drift
open Library Identity Comparison

def driftPolicySchema : String := "governance-drift-policy"
def driftPolicyVersion : String := "1"
def presenceOnly : String := "__presence_only__"

def codeInvalidPolicy : String := "invalid_policy"
def codeAmbiguousDriftPolicy : String := "ambiguous_drift_policy"
def codeMissingDriftPolicy : String := "missing_drift_policy"

/-- The sides that a rule expects; a side that is not told may be anything. -/
structure Expected where
  baseline : Option ComparablePropertyValue
  candidate : Option ComparablePropertyValue
  deriving DecidableEq

def Expected.toDict (e : Expected) : Json :=
  .obj ((e.baseline.map (fun v => ("baseline", v.toDict))).toList ++
    (e.candidate.map (fun v => ("candidate", v.toDict))).toList)

abbrev SelectorKey := ChangeKind × String × Option String

structure NormalizedDriftRule where
  id : String
  change : ChangeKind
  objectIdentity : ComparisonObjectIdentity
  property : Option String
  expected : Option Expected
  deriving DecidableEq

namespace NormalizedDriftRule

def selectorKey (r : NormalizedDriftRule) : SelectorKey :=
  (r.change, r.objectIdentity.canonicalBytes, r.property)

def expectationProjection (r : NormalizedDriftRule) : String :=
  match r.expected with
  | none => presenceOnly
  | some e => e.toDict.canonicalJson

def toIdentityDict (r : NormalizedDriftRule) : Json :=
  .obj ([("change", .str r.change.text), ("id", .str r.id), ("object", r.objectIdentity.toDict)] ++
    (r.property.map (fun p => ("property", .str p))).toList ++
    (r.expected.map (fun e => ("expected", e.toDict))).toList)

/-- `_rule_identity_sort_key` -/
def identitySortKey (r : NormalizedDriftRule) : Nat ×ₗ String ×ₗ String ×ₗ String ×ₗ String :=
  toLex (r.change.rank, toLex (r.objectIdentity.canonicalBytes, toLex (r.property.getD "",
    toLex ((r.expected.map (fun e => e.toDict.canonicalJson)).getD "", r.id))))

end NormalizedDriftRule

structure NormalizedDriftPolicy where
  rules : List NormalizedDriftRule
  deriving DecidableEq

def NormalizedDriftPolicy.toIdentityDict (p : NormalizedDriftPolicy) : Json :=
  .obj [("drift_policy_schema", .str driftPolicySchema), ("drift_policy_version", .str driftPolicyVersion),
    ("rules", .arr ((sortBy NormalizedDriftRule.identitySortKey p.rules).map
      NormalizedDriftRule.toIdentityDict))]

section Parse

def refuse {α : Type} (path message : String) : Checked α := .error [⟨codeInvalidPolicy, path, message⟩]

/-- `if not holds: raise DriftError(...)` -/
def require (holds : Bool) (path message : String) : Checked Unit :=
  if holds then .ok () else refuse path message

@[simp] theorem require_eq_ok {holds : Bool} {path message : String} :
    require holds path message = .ok () ↔ holds = true := by
  cases holds <;> simp [require, refuse]

/-- `join_pointer` -/
def joinPointer (base segment : String) : String :=
  (if base = "/" then "/" else base ++ "/") ++ String.ofList (escapeSegment segment.toList)

def credentialKeys : List String := ["password", "token", "client_secret"]

/-- `_reject_extra_keys` -/
def rejectExtraKeys (raw : List (String × Json)) (path : String) (allowed : List String) : Checked Unit :=
  match sortBy id ((raw.map Prod.fst).filter (fun key => !allowed.contains key)) with
  | [] => .ok ()
  | key :: _ => refuse (joinPointer path key)
      (if credentialKeys.contains key then "credential-shaped key is not allowed in drift policy"
      else "unexpected field in drift policy")

/-- `_normalize_comparable_value`; every value of a document is JSON-compatible. -/
def normalizeComparableValue (raw : Json) (path : String) : Checked ComparablePropertyValue :=
  match raw with
  | .obj members => do
    rejectExtraKeys members path ["has_value", "value"]
    match Json.get members "has_value", Json.lookup members "value" with
    | .bool true, some value => return .of value
    | .bool true, none => refuse path "comparable property value requires value when has_value is true"
    | .bool false, none => return .missing
    | _, _ => refuse path "invalid comparable property value"
  | _ => refuse path "comparable property value must be a mapping"

/-- The object that a rule selects. -/
def normalizeObject (raw : Json) (path : String) : Checked ComparisonObjectIdentity :=
  match raw with
  | .obj members => do
    rejectExtraKeys members path ["kind", "path"]
    match Json.lookup members "kind", Json.lookup members "path" with
    | some (.str kind), some (.arr items) =>
      match (pathTexts items).map (ComparisonObjectIdentity.create kind) with
      | some (.ok i) => return i
      | _ => refuse path "invalid drift policy object selector"
    | _, _ => refuse path "invalid drift policy object selector"
  | _ => refuse path "drift policy object selector must be a mapping"

/-- The property that a rule selects. -/
def normalizeProperty (matchRaw : List (String × Json)) (change : ChangeKind) (kind : GovernedObjectKind)
    (path : String) : Checked (Option String) :=
  match Json.lookup matchRaw "property" with
  | some raw => do
    require (change = .changed) path "property selector requires change changed"
    match raw with
    | .str pointer =>
      match parsePointer pointer with
      | .ok segments => do
        require (pointerText segments = pointer) path "property pointer is not canonical"
        require (comparisonChangePropertyCompatibleWithKind kind pointer) path
          "property is not compatible with object kind"
        return some pointer
      | .error _ => refuse path "invalid property pointer"
    | _ => refuse path "property selector must be a string"
  | none => do
    require (change ≠ .changed) path "changed drift policy rule requires property selector"
    return none

/-- One side of the expectation, when it is told. -/
def normalizeSide (expectedRaw : List (String × Json)) (side path : String) :
    Checked (Option ComparablePropertyValue) :=
  match Json.lookup expectedRaw side with
  | some raw => return some (← normalizeComparableValue raw (path ++ "/" ++ side))
  | none => .ok none

/-- A told side has a value that the comparison could have written. -/
def requireCompatible (i : ComparisonObjectIdentity) (pointer : String) (side path : String)
    (value : Option ComparablePropertyValue) : Checked Unit :=
  require (value.all (fun v => comparableChangeValueCompatible i pointer v.toDict)) (path ++ "/" ++ side)
    "expected value is not compatible with comparison producer contract"

/-- The expectation of a rule. -/
def normalizeExpected (raw : Json) (change : ChangeKind) (i : ComparisonObjectIdentity)
    (property : Option String) (path : String) : Checked (Option Expected) :=
  match raw with
  | .null => .ok none
  | raw => do
    match change, property with
    | .changed, some pointer =>
      match raw with
      | .obj members => do
        rejectExtraKeys members path ["baseline", "candidate"]
        require (!members.isEmpty) path "expected block must not be empty"
        let baseline ← normalizeSide members "baseline" path
        let candidate ← normalizeSide members "candidate" path
        requireCompatible i pointer "baseline" path baseline
        requireCompatible i pointer "candidate" path candidate
        require (!(baseline.isSome && baseline = candidate)) path
          "expected baseline and candidate must not be equal"
        return some ⟨baseline, candidate⟩
      | _ => refuse path "expected block must be a mapping"
    | _, _ => refuse path "expected constraints require change changed with property"

/-- `_normalize_rule` -/
def normalizeRule (ruleRaw : Json) (path : String) : Checked NormalizedDriftRule :=
  match ruleRaw with
  | .obj members => do
    rejectExtraKeys members path ["id", "match", "expected"]
    match Json.get members "id" with
    | .str ruleId => do
      require (strip ruleId ≠ "") (path ++ "/id") "drift policy rule id must be non-empty"
      match Json.get members "match" with
      | .obj matchRaw => do
        rejectExtraKeys matchRaw (path ++ "/match") ["change", "object", "property"]
        match changeKindOf (Json.get matchRaw "change") with
        | some change => do
          let i ← normalizeObject (Json.get matchRaw "object") (path ++ "/match/object")
          require (!(change ≠ .changed && (i.kind = .dataSource || i.kind = .database)))
            (path ++ "/match/object") "root object add/remove rules are not supported"
          let property ← normalizeProperty matchRaw change i.kind (path ++ "/match/property")
          let expected ← normalizeExpected (Json.get members "expected") change i property
            (path ++ "/expected")
          return ⟨strip ruleId, change, i, property, expected⟩
        | none => refuse (path ++ "/match/change") "drift policy change must be added, removed, or changed"
      | _ => refuse (path ++ "/match") "drift policy rule match must be a mapping"
    | _ => refuse (path ++ "/id") "drift policy rule id must be a string"
  | _ => refuse path "drift policy rule must be a mapping"

/-- The rules that can be read after the ones before, and what is wrong with the others. -/
def normalizeRules (index : Nat) (before : List NormalizedDriftRule) :
    List Json → List NormalizedDriftRule × List DiagnosticError
  | [] => (before, [])
  | raw :: rest =>
    let path := "/rules/" ++ toString index
    match normalizeRule raw path with
    | .error errors =>
      let (rules, later) := normalizeRules (index + 1) before rest
      (rules, errors ++ later)
    | .ok rule =>
      if rule.id ∈ before.map NormalizedDriftRule.id then
        let (rules, later) := normalizeRules (index + 1) before rest
        (rules, ⟨codeInvalidPolicy, path ++ "/id", "duplicate drift policy rule id"⟩ :: later)
      else normalizeRules (index + 1) (before ++ [rule]) rest

/-- `_validate_selector_ambiguity` -/
def validateSelectorAmbiguity (p : NormalizedDriftPolicy) : Checked Unit :=
  let groups := groupBy NormalizedDriftRule.selectorKey p.rules
  raiseIfAny ((groups.entries.filter (fun e =>
    1 < (distinct (e.2.members.map NormalizedDriftRule.expectationProjection)).length)).map (fun _ =>
      ⟨codeAmbiguousDriftPolicy, "/rules", "conflicting expectations for the same drift policy selector"⟩))

/-! `governance-drift-policy.v1.schema.json` -/

/-- Every tilde begins `~0` or `~1`. -/
def tildesEscaped : List Char → Bool
  | [] => true
  | ['~'] => false
  | '~' :: c :: rest => (c = '0' || c = '1') && tildesEscaped rest
  | _ :: rest => tildesEscaped rest

/-- `^/(?:(?:[^~/]|~0|~1)*(?:/(?:[^~/]|~0|~1)*)*)$`, of two characters or more -/
def propertyPointerPattern (s : String) : Bool :=
  2 ≤ s.toList.length && s.toList.head? = some '/' && tildesEscaped s.toList

def nonRootIdentitySchema : Json → Bool := JsonSchema.oneOf
  ([GovernedObjectKind.schema, .table, .column, .primaryKey, .foreignKey, .relationship].map identitySchema)

def matchAddedRemovedSchema : Json → Bool := JsonSchema.object
  [⟨"change", true, JsonSchema.texts ["added", "removed"]⟩, ⟨"object", true, nonRootIdentitySchema⟩]

def matchChangedSchema : Json → Bool := JsonSchema.object
  [⟨"change", true, JsonSchema.texts ["changed"]⟩, ⟨"object", true, comparisonObjectIdentitySchema⟩,
    ⟨"property", true, JsonSchema.matching propertyPointerPattern⟩]

/-- `.*\S.*` -/
def ruleIdSchema : Json → Bool := JsonSchema.matching (fun s => !isBlank s)

def expectedSchema (expected : Json) : Bool :=
  JsonSchema.object [⟨"baseline", false, comparablePropertyValueSchema⟩,
    ⟨"candidate", false, comparablePropertyValueSchema⟩] expected && !(membersOf expected).isEmpty

def ruleSchema : Json → Bool := JsonSchema.oneOf
  [JsonSchema.object [⟨"id", true, ruleIdSchema⟩, ⟨"match", true, matchAddedRemovedSchema⟩],
    JsonSchema.object [⟨"id", true, ruleIdSchema⟩, ⟨"match", true, matchChangedSchema⟩],
    JsonSchema.object [⟨"id", true, ruleIdSchema⟩, ⟨"match", true, matchChangedSchema⟩,
      ⟨"expected", true, expectedSchema⟩]]

/-- Whether the schema accepts a policy document. -/
def policySchemaAccepts : Json → Bool := JsonSchema.object
  [⟨"drift_schema", true, JsonSchema.texts [driftPolicySchema]⟩,
    ⟨"drift_version", true, JsonSchema.texts [driftPolicyVersion]⟩,
    ⟨"rules", true, JsonSchema.array ruleSchema⟩]

/-- `_schema_error_path` -/
def schemaErrorPath (f : JsonSchema.Failure) : String := f.absolutePath.foldl joinPointer "/"

/-- `_schema_diagnostic` -/
def schemaDiagnostic (f : JsonSchema.Failure) : DiagnosticError :=
  ⟨codeInvalidPolicy, schemaErrorPath f, "drift policy failed schema validation (" ++ f.validator ++ ")"⟩

/-- `_validate_policy_schema`; the validator is a third-party library. -/
def validatePolicySchema (iterErrors : Json → List JsonSchema.Failure) (document : Json) : Checked Unit :=
  raiseIfAny ((sortBy (fun f : JsonSchema.Failure => toLex (schemaErrorPath f, f.validator))
    (iterErrors document)).map schemaDiagnostic)

def parseAndNormalizePolicy (iterErrors : Json → List JsonSchema.Failure) (document : Json) :
    Checked NormalizedDriftPolicy :=
  match document with
  | .obj members => do
    validatePolicySchema iterErrors document
    rejectExtraKeys members "/" ["drift_schema", "drift_version", "rules"]
    let errors :=
      diagnose (Json.get members "drift_schema" = .str driftPolicySchema)
        ⟨codeInvalidPolicy, "/drift_schema", "unsupported drift policy schema"⟩ ++
      diagnose (Json.get members "drift_version" = .str driftPolicyVersion)
        ⟨codeInvalidPolicy, "/drift_version", "unsupported drift policy version"⟩
    match Json.get members "rules" with
    | .arr rulesRaw => do
      let (rules, later) := normalizeRules 0 [] rulesRaw
      raiseIfAny (errors ++ later)
      validateSelectorAmbiguity ⟨rules⟩
      return ⟨rules⟩
    | _ => .error (errors ++ [⟨codeInvalidPolicy, "/rules", "drift policy rules must be an array"⟩])
  | _ => refuse "/" "drift policy root must be a mapping"

end Parse

abbrev PolicyIndex := Dict SelectorKey (Library.Group NormalizedDriftRule)

def buildPolicyIndex (p : NormalizedDriftPolicy) : PolicyIndex :=
  groupBy NormalizedDriftRule.selectorKey p.rules

def expectationProjectionForRules (rules : List NormalizedDriftRule) : Checked String :=
  match distinct (rules.map NormalizedDriftRule.expectationProjection) with
  | [projection] => .ok projection
  | _ => .error [⟨codeAmbiguousDriftPolicy, "/rules", "ambiguous drift policy expectations"⟩]

end CollibraGovernance.Drift
