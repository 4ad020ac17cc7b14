import CollibraGovernance.Collibra.PlanDict
import CollibraGovernance.Observations.RuleKeySchema
import CollibraGovernance.Reconciliation.Assumptions
import CollibraGovernance.Snapshots.Models

/-! The saved plan artifact: building it, writing it, and loading a document. -/
namespace CollibraGovernance.Plans
open Library Identity Domain Collibra Comparison Observations Reconciliation Snapshots

def planSchema : String := "governance-plan"

inductive PlanVersion where
  | v1 | v2
  deriving DecidableEq

namespace PlanVersion

def value : PlanVersion → String
  | v1 => "1"
  | v2 => "2"

def parse : String → Option PlanVersion
  | "1" => some v1
  | "2" => some v2
  | _ => none

@[simp] lemma parse_value (v : PlanVersion) : parse v.value = some v := by
  cases v <;> rfl

end PlanVersion

/-- Where a plan is applied; a live context has its normalized endpoint. -/
inductive CollibraMode where
  | mock
  | live (endpoint : String)
  deriving DecidableEq

inductive ExecutionMode where
  | coreRest
  | importV2
  | syncV2 (effectiveSynchronizationId : String)
  deriving DecidableEq

/-- Preimage of the target context identity. -/
structure TargetContextProjection where
  mode : CollibraMode
  execution : ExecutionMode
  deriving DecidableEq

def CollibraMode.value : CollibraMode → String
  | .mock => "mock"
  | .live _ => "live"

def CollibraMode.endpoint : CollibraMode → Json
  | .mock => .null
  | .live endpoint => .str endpoint

def TargetContextProjection.toDict (p : TargetContextProjection) : Json :=
  .obj ([("endpoint", p.mode.endpoint), ("mode", .str p.mode.value), ("provider", .str "collibra")] ++
    (match p.execution with
      | .coreRest => []
      | .importV2 => [("execution", .str "import_v2")]
      | .syncV2 id => [("execution", .str "sync_v2"), ("effective_synchronization_id", .str id)]))

/-- Non-secret inspectable fields persisted with a plan. -/
structure TargetContext where
  mode : String
  provider : String
  deriving DecidableEq

def targetContextPublic (p : TargetContextProjection) : TargetContext := ⟨p.mode.value, "collibra"⟩

def TargetContext.toDict (t : TargetContext) : Json :=
  .obj [("mode", .str t.mode), ("provider", .str t.provider)]

structure SavedGovernancePlan where
  syncPlan : SyncPlan
  configIdentity : ContentIdentity
  snapshotIdentity : ContentIdentity
  policyIdentity : ContentIdentity
  mappingIdentity : ContentIdentity
  targetContext : TargetContext
  targetContextIdentity : ContentIdentity
  remoteStateIdentity : ContentIdentity
  plannerContractVersion : String
  scannerContractVersion : String
  planSchema : String
  planVersion : PlanVersion
  reconciliationAssumptions : Option Json
  reconciliationAssumptionsIdentity : Option ContentIdentity
  deriving DecidableEq

/-- `plan_identity` -/
def planIdentityOf (sha256 : String → String) (planVersion : PlanVersion) (payload : Json) : ContentIdentity :=
  match planVersion with
  | .v1 => planIdentity sha256 payload
  | .v2 => planIdentityV2 sha256 payload

namespace SavedGovernancePlan

/-- `__post_init__`: plans of the second version assume something, if only nothing. -/
def postInit (sha256 : String → String) (p : SavedGovernancePlan) : SavedGovernancePlan :=
  match p.planVersion with
  | .v1 => p
  | .v2 =>
    let assumptions := p.reconciliationAssumptions.getD emptyAssumptions
    { p with
      reconciliationAssumptions := some assumptions
      reconciliationAssumptionsIdentity :=
        some (p.reconciliationAssumptionsIdentity.getD (assumptionsContentIdentity sha256 assumptions)) }

/-- What plans of both versions carry. -/
def commonMembers (p : SavedGovernancePlan) : List (String × Json) :=
  [("actions", .arr (p.syncPlan.actions.map SyncAction.toDict)), ("config_identity", p.configIdentity.toDict),
    ("mapping_identity", p.mappingIdentity.toDict), ("plan_schema", .str p.planSchema),
    ("plan_version", .str p.planVersion.value), ("planner_contract_version", .str p.plannerContractVersion),
    ("policy_identity", p.policyIdentity.toDict), ("remote_state_identity", p.remoteStateIdentity.toDict),
    ("scanner_contract_version", .str p.scannerContractVersion), ("snapshot_identity", p.snapshotIdentity.toDict),
    ("target_context", p.targetContext.toDict), ("target_context_identity", p.targetContextIdentity.toDict)]

/-- `canonical_dict_without_identity` -/
def canonicalMembersWithoutIdentity (p : SavedGovernancePlan) : Except String (List (String × Json)) :=
  match p.planVersion with
  | .v1 => .ok p.commonMembers
  | .v2 =>
    match p.reconciliationAssumptions, p.reconciliationAssumptionsIdentity with
    | none, _ => .error "reconciliation_assumptions required for plan_version 2"
    | _, none => .error "reconciliation_assumptions_identity required for plan_version 2"
    | some assumptions, some identity => .ok (p.commonMembers ++
        [("reconciliation_assumptions", assumptions), ("reconciliation_assumptions_identity", identity.toDict)])

def contentIdentity (sha256 : String → String) (p : SavedGovernancePlan) : Except String ContentIdentity := do
  let members ← p.canonicalMembersWithoutIdentity
  return planIdentityOf sha256 p.planVersion (.obj members)

def toDict (sha256 : String → String) (p : SavedGovernancePlan) : Except String Json := do
  let members ← p.canonicalMembersWithoutIdentity
  let identity ← p.contentIdentity sha256
  return .obj (members ++ [("content_identity", identity.toDict)])

end SavedGovernancePlan

/-- `build_saved_plan`; the policy set is given by its identity document. -/
def buildSavedPlan (sha256 : String → String) (target : TargetContextProjection) (syncPlan : SyncPlan)
    (configIdentity : ContentIdentity) (snapshot : GovernanceSnapshot) (policySet : Json)
    (mappingConfig : CollibraMappingConfig) (remoteStateIdentityValue : ContentIdentity)
    (reconciliationAssumptions : Option Json) : SavedGovernancePlan :=
  let assumptions := reconciliationAssumptions.getD emptyAssumptions
  SavedGovernancePlan.postInit sha256
    { syncPlan
      configIdentity
      snapshotIdentity := snapshot.contentIdentity sha256
      policyIdentity := policyIdentity sha256 policySet
      mappingIdentity := mappingIdentity sha256 mappingConfig.toIdentityDict
      targetContext := targetContextPublic target
      targetContextIdentity := targetContextIdentity sha256 target.toDict
      remoteStateIdentity := remoteStateIdentityValue
      plannerContractVersion := plannerContractVersion
      scannerContractVersion := scannerContractVersion
      planSchema := planSchema
      planVersion := .v2
      reconciliationAssumptions := some assumptions
      reconciliationAssumptionsIdentity := some (assumptionsContentIdentity sha256 assumptions) }

/-- The same plan as one of the first version, which assumes nothing. -/
def SavedGovernancePlan.firstVersion (p : SavedGovernancePlan) : SavedGovernancePlan :=
  { p with planVersion := .v1, reconciliationAssumptions := none, reconciliationAssumptionsIdentity := none }

/-! `governance-plan.v1.schema.json` and `governance-plan.v2.schema.json` -/

def targetContextSchema : Json → Bool := JsonSchema.object
  [⟨"provider", true, JsonSchema.texts ["collibra"]⟩, ⟨"mode", true, JsonSchema.texts ["mock", "live"]⟩]

def valueGroupSchema : Json → Bool := JsonSchema.object
  [⟨"value", true, JsonSchema.anything⟩,
    ⟨"provenance", true, JsonSchema.sized 1 none provenanceRecordSchema⟩]

def conflictDecisionSchema : Json → Bool := JsonSchema.object
  [⟨"state", true, JsonSchema.texts ["SINGLE_OBSERVATION", "AGREEMENT", "RESOLVED_BY_AUTHORITY",
      "UNRESOLVED_CONFLICT", "INVALID_OR_AMBIGUOUS_AUTHORITY"]⟩,
    ⟨"reason", true, JsonSchema.texts ["SINGLE_OBSERVATION", "AGREEMENT", "RESOLVED_BY_AUTHORITY",
      "NO_AUTHORITY_RULE", "AUTHORITATIVE_SOURCE_NOT_OBSERVED", "AUTHORITATIVE_SOURCE_CONFLICTED",
      "INVALID_OR_AMBIGUOUS_AUTHORITY"]⟩,
    ⟨"value_groups", true, JsonSchema.array valueGroupSchema⟩, ⟨"effective_value", false, JsonSchema.anything⟩,
    ⟨"winning_rule_key", false, winningRuleKeySchema⟩]

def rolesSchema (j : Json) : Bool :=
  JsonSchema.sized 1 none (JsonSchema.texts ["mutation", "overlay"]) j && JsonSchema.uniqueItems j

def assumptionPropertySchema : Json → Bool := JsonSchema.object
  [⟨"object", true, graphNodeIdentitySchema⟩, ⟨"property", true, JsonSchema.text 1⟩, ⟨"roles", true, rolesSchema⟩,
    ⟨"decision", true, optionalSchema conflictDecisionSchema⟩]

def assumptionActionSchema : Json → Bool := JsonSchema.object
  [⟨"action_type", true, JsonSchema.texts ["create", "update", "unchanged"]⟩, ⟨"local_id", true, JsonSchema.text 1⟩,
    ⟨"object_kind", true, JsonSchema.texts ["asset"]⟩,
    ⟨"properties", true, JsonSchema.sized 1 none assumptionPropertySchema⟩]

def assumptionsSchema : Json → Bool := JsonSchema.object
  [⟨"assumptions_schema", true, JsonSchema.texts [reconciliationAssumptionsSchema]⟩,
    ⟨"assumptions_version", true, JsonSchema.texts ["1"]⟩,
    ⟨"actions", true, JsonSchema.array assumptionActionSchema⟩]

def isObject : Json → Bool
  | .obj _ => true
  | _ => false

def planProperties (version : PlanVersion) : List JsonSchema.Property :=
  [⟨"plan_schema", true, JsonSchema.texts [planSchema]⟩, ⟨"plan_version", true, JsonSchema.texts [version.value]⟩,
    ⟨"planner_contract_version", true, JsonSchema.text 1⟩, ⟨"scanner_contract_version", true, JsonSchema.text 1⟩,
    ⟨"config_identity", true, contentIdentitySchema⟩, ⟨"snapshot_identity", true, contentIdentitySchema⟩,
    ⟨"policy_identity", true, contentIdentitySchema⟩, ⟨"mapping_identity", true, contentIdentitySchema⟩,
    ⟨"target_context", true, targetContextSchema⟩, ⟨"target_context_identity", true, contentIdentitySchema⟩,
    ⟨"remote_state_identity", true, contentIdentitySchema⟩, ⟨"actions", true, JsonSchema.array isObject⟩,
    ⟨"content_identity", true, contentIdentitySchema⟩] ++
  (match version with
    | .v1 => []
    | .v2 => [⟨"reconciliation_assumptions", true, assumptionsSchema⟩,
        ⟨"reconciliation_assumptions_identity", true, contentIdentitySchema⟩])

/-- Whether the schema of a version accepts a document. -/
def planSchemaAccepts (version : PlanVersion) : Json → Bool := JsonSchema.object (planProperties version)

/-! Loading. -/

def codeParse : String := "parse_error"
def codeUnsupported : String := "unsupported_plan_version"
def codeSchema : String := "schema_validation_failed"
def codeIdentity : String := "content_identity_mismatch"
def codeMalformedAction : String := "malformed_action"
def codeUnsupportedAction : String := "unsupported_action_type"

structure PlanDiagnosticError where
  code : String
  path : String
  message : String
  deriving DecidableEq

/-- `PlanParseError`, `PlanSchemaError`, `UnsupportedPlanVersionError`, `PlanIntegrityError`, or an exception that
is no `PlanError`. -/
inductive PlanFailure where
  | parse (errors : List PlanDiagnosticError)
  | schema (errors : List PlanDiagnosticError)
  | unsupportedVersion (errors : List PlanDiagnosticError)
  | integrity (errors : List PlanDiagnosticError)
  | uncaught (message : String)
  deriving DecidableEq

abbrev Loaded (α : Type) := Except PlanFailure α

/-- `PlanError`: the diagnostics in their order. -/
def sortedErrors (errors : List PlanDiagnosticError) : List PlanDiagnosticError :=
  sortBy (fun e => toLex (e.path, toLex (e.code, e.message))) errors

/-- What a validator reports of a plan: the failed keyword, where, and its message. -/
structure PlanSchemaFailure extends JsonSchema.Failure where
  message : String

def unsupportedPlanVersion {α : Type} : Loaded α :=
  .error (.unsupportedVersion [⟨codeUnsupported, "/plan_version", "unsupported plan_version"⟩])

section Load
/-! The schema validator is a third-party library: for each version it receives a document and reports the
failed keywords of the schema above. -/
variable (sha256 : String → String) (isPrintable : Char → Bool)
  (iterErrors : PlanVersion → Json → List PlanSchemaFailure)

/-- `_pointer_from_path` -/
def pointerFromPath (path : List String) : String := if path = [] then "" else pointerText path

def validatePlanStructure (document : Json) : Loaded (PlanVersion × List (String × Json)) :=
  match document with
  | .obj members =>
    match Json.get members "plan_version" with
    | .str version =>
      match PlanVersion.parse version with
      | none => unsupportedPlanVersion
      | some version =>
        let failures := iterErrors version document
        if failures.any (fun f => f.validator = "const" && f.absolutePath = ["plan_version"]) then
          unsupportedPlanVersion
        else if failures ≠ [] then
          .error (.schema (sortedErrors
            (failures.map (fun f => ⟨codeSchema, pointerFromPath f.absolutePath, f.message⟩))))
        else .ok (version, members)
    -- `in` hashes the version
    | .arr _ => .error (.uncaught "TypeError: unhashable type: 'list'")
    | .obj _ => .error (.uncaught "TypeError: unhashable type: 'dict'")
    | _ => unsupportedPlanVersion
  | _ => .error (.schema [⟨codeSchema, "", "plan root must be a mapping"⟩])

/-- `_identity` -/
def identityOf (payload : Json) : Loaded ContentIdentity :=
  match payload with
  | .obj members => .ok (contentIdentityOf isPrintable members)
  | _ => .error (.schema [⟨codeMalformedAction, "", "identity payload must be a mapping"⟩])

/-- The identity stored with a document is the one computed from it. -/
def storedIdentityMatches (stored : Json) (recomputed : ContentIdentity) : Bool :=
  match stored with
  | .obj members => Json.get members "algorithm" = .str recomputed.algorithm &&
      Json.get members "digest" = .str recomputed.digest &&
      Json.get members "hashing_contract_version" = .str recomputed.hashingContractVersion
  | _ => false

/-- `part in text` -/
def contains (text : List Char) (part : String) : Bool := text.tails.any (part.toList.isPrefixOf ·)

/-- The refusal for actions that are not read; only a `ValueError` is caught. -/
def actionsFailure (message : String) : PlanFailure :=
  if "KeyError".toList.isPrefixOf message.toList then .uncaught message
  else
    let code := if contains (message.toList.map Char.toLower) "unsupported" || contains message.toList "DELETE" then
      codeUnsupportedAction else codeMalformedAction
    .schema [⟨code, "/actions", "saved plan actions are invalid"⟩]

/-- The assumptions of a plan of the second version, whose identity is checked. -/
def loadAssumptions (version : PlanVersion) (document : List (String × Json)) :
    Loaded (Option Json × Option ContentIdentity) :=
  match version with
  | .v1 => .ok (none, none)
  | .v2 => do
    let assumptions := Json.get document "reconciliation_assumptions"
    let stored ← identityOf isPrintable (Json.get document "reconciliation_assumptions_identity")
    if assumptionsContentIdentity sha256 assumptions ≠ stored then
      .error (.integrity [⟨codeIdentity, "/reconciliation_assumptions_identity",
        "reconciliation assumptions identity mismatch"⟩])
    else return (some assumptions, some stored)

/-- `_from_validated_document` -/
def fromValidatedDocument (version : PlanVersion) (document : List (String × Json)) : Loaded SavedGovernancePlan := do
  let withoutIdentity := document.filter (fun m => m.1 ≠ "content_identity")
  let recomputed := planIdentityOf sha256 version (.obj withoutIdentity)
  if storedIdentityMatches (Json.get document "content_identity") recomputed = false then
    .error (.integrity [⟨codeIdentity, "/content_identity", "saved plan content identity mismatch"⟩])
  let syncPlan ← (SyncPlan.fromDict isPrintable (.obj [("actions", Json.get document "actions")])).mapError
    actionsFailure
  let assumed ← loadAssumptions sha256 isPrintable version document
  let told := fun key => (Json.get document key).pyStr isPrintable
  let context := membersOf (Json.get document "target_context")
  return SavedGovernancePlan.postInit sha256
    { syncPlan
      configIdentity := ← identityOf isPrintable (Json.get document "config_identity")
      snapshotIdentity := ← identityOf isPrintable (Json.get document "snapshot_identity")
      policyIdentity := ← identityOf isPrintable (Json.get document "policy_identity")
      mappingIdentity := ← identityOf isPrintable (Json.get document "mapping_identity")
      targetContext :=
        ⟨(Json.get context "mode").pyStr isPrintable, (Json.get context "provider").pyStr isPrintable⟩
      targetContextIdentity := ← identityOf isPrintable (Json.get document "target_context_identity")
      remoteStateIdentity := ← identityOf isPrintable (Json.get document "remote_state_identity")
      plannerContractVersion := told "planner_contract_version"
      scannerContractVersion := told "scanner_contract_version"
      planSchema := told "plan_schema"
      planVersion := version
      reconciliationAssumptions := assumed.1
      reconciliationAssumptionsIdentity := assumed.2 }

/-- `load_saved_plan`, on the parsed document. -/
def loadSavedPlan (document : Json) : Loaded SavedGovernancePlan := do
  let (version, members) ← validatePlanStructure iterErrors document
  fromValidatedDocument sha256 isPrintable version members

end Load

section File
/-! The file of a plan, and what `json.loads` does before there is a document. -/

/-- The limits of the interpreter: how many digits an integer may have, and how deep containers may be nested. -/
structure Limits where
  digits : Nat
  depth : Nat

/-- What the interpreter is configured with by default. -/
def defaultLimits : Limits := ⟨4300, 1000⟩

section Read
variable (limits : Limits)

mutual
/-- Integers are converted as they are met, and containers are entered; both can raise what is no
`JSONDecodeError`. -/
def checkLimits : Nat → Json → Except String Unit
  | _, .int i =>
    if 10 ^ limits.digits ≤ i.natAbs then
      .error ("ValueError: Exceeds the limit (" ++ toString limits.digits ++ " digits) for integer string conversion")
    else .ok ()
  | 0, .arr _ => .error "RecursionError: maximum recursion depth exceeded"
  | 0, .obj _ => .error "RecursionError: maximum recursion depth exceeded"
  | depth + 1, .arr items => checkItems depth items
  | depth + 1, .obj members => checkMembers depth members
  | _, _ => .ok ()

def checkItems : Nat → List Json → Except String Unit
  | _, [] => .ok ()
  | depth, j :: js => do
    checkLimits depth j
    checkItems depth js

def checkMembers : Nat → List (String × Json) → Except String Unit
  | _, [] => .ok ()
  | depth, (_, j) :: ms => do
    checkLimits depth j
    checkMembers depth ms
end

end Read

mutual
/-- The value that is made of a document: of the values of a repeated key the last one is kept. -/
def jsonValue : Json → Json
  | .arr items => .arr (jsonItems items)
  | .obj members => .obj (Dict.index Prod.fst Prod.snd (jsonMembers members)).entries
  | j => j

def jsonItems : List Json → List Json
  | [] => []
  | j :: js => jsonValue j :: jsonItems js

def jsonMembers : List (String × Json) → List (String × Json)
  | [] => []
  | (k, j) :: ms => (k, jsonValue j) :: jsonMembers ms
end

/-- `json.loads` of a document. -/
def jsonLoads (limits : Limits) (document : Json) : Except String Json := do
  checkLimits limits limits.depth document
  return jsonValue document

/-- What the file at a path holds: nothing that can be read, bytes that are not UTF-8, a text that is no JSON
document (with what is read of it before the syntax error, closed there), or a document. -/
inductive PlanFile where
  | unreadable
  | undecodable
  | malformed (read : Json)
  | document (document : Json)

variable (sha256 : String → String) (isPrintable : Char → Bool)
  (iterErrors : PlanVersion → Json → List PlanSchemaFailure) (limits : Limits)

/-- `load_saved_plan`: only an `OSError` of the file and a `JSONDecodeError` of its text are caught. -/
def loadSavedPlanFile : PlanFile → Loaded SavedGovernancePlan
  | .unreadable => .error (.parse [⟨codeParse, "", "unable to read saved plan file"⟩])
  | .undecodable => .error (.uncaught "UnicodeDecodeError: 'utf-8' codec can't decode the file")
  | .malformed read => do
    (checkLimits limits limits.depth read).mapError .uncaught
    .error (.parse [⟨codeParse, "", "invalid JSON in saved plan file"⟩])
  | .document document => do
    let value ← (jsonLoads limits document).mapError .uncaught
    loadSavedPlan sha256 isPrintable iterErrors value

end File
end CollibraGovernance.Plans
