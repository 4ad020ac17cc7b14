import CollibraGovernance.Comparison.Load
import CollibraGovernance.History.Recorded
import CollibraGovernance.History.Resolve

/-! History evolution: the transitions between adjacent entries, of the snapshot and of its context. -/
namespace CollibraGovernance.History
open Library Identity Domain Comparison Snapshots

/-- Lookup of a comparable property value on a projected snapshot. -/
def snapshotPropertyState (projected : ProjectedSnapshot) (identity : ComparisonObjectIdentity)
    (propertyPath : String) : ComparablePropertyValue :=
  match projected.objects.get? identity with
  | none => .missing
  | some o => (o.properties.get? propertyPath).getD .missing

/-- The parts of an entry, in the order in which their availability is listed. -/
structure Availability where
  authorityDecision : Bool
  conflict : Bool
  provenance : Bool
  snapshot : Bool

/-- `_availability_side` -/
def availabilitySide (s : ResolvedEntryState) : Availability :=
  match s.entry.state.context with
  | .absent => ⟨false, false, false, true⟩
  | .provenance _ => ⟨false, false, true, true⟩
  | .full _ _ _ => ⟨true, true, true, true⟩

/-- A flag of both sides. -/
def sidesDict (baseline candidate : Bool) : Json := .obj [("baseline", .bool baseline), ("candidate", .bool candidate)]

def buildAvailability (left right : Availability) : Json :=
  .obj [("authority_decision", sidesDict left.authorityDecision right.authorityDecision),
    ("conflict", sidesDict left.conflict right.conflict),
    ("provenance", sidesDict left.provenance right.provenance),
    ("snapshot", sidesDict left.snapshot right.snapshot)]

def findObjectChange (comparison : ComparisonResult) (identity : ComparisonObjectIdentity) : Option ObjectChange :=
  comparison.objectChanges.find? (fun c => c.objectIdentity = identity)

/-- The change of the queried object, and the queried property on both sides. -/
structure SnapshotBranch where
  objectChange : Option ObjectChange
  property : Option PropertyChange

def SnapshotBranch.toDict (b : SnapshotBranch) : Json :=
  .obj [("object_change", (b.objectChange.map ObjectChange.toDict).getD .null),
    ("property", (b.property.map PropertyChange.toDict).getD .null)]

section Branch
variable (baseline candidate : ResolvedEntryState)

/-- The sides of a queried property, taken from the change of its object where that lists it. -/
def propertySides (objectChange : Option ObjectChange) (identity : ComparisonObjectIdentity)
    (propertyPath : String) : ComparablePropertyValue × ComparablePropertyValue :=
  let baselineState := snapshotPropertyState baseline.projected identity propertyPath
  let candidateState := snapshotPropertyState candidate.projected identity propertyPath
  match objectChange with
  | none => (baselineState, candidateState)
  | some c =>
    match c.change with
    | .changed =>
      match c.propertyChanges.find? (fun p => p.property = propertyPath) with
      | some matched => (matched.baseline, matched.candidate)
      | none => (baselineState, candidateState)
    | .added => (.missing, candidateState)
    | .removed => (baselineState, .missing)

def buildSnapshotBranch (comparison : ComparisonResult) (queriedObject : Option ComparisonObjectIdentity)
    (queriedProperty : Option String) : SnapshotBranch :=
  match queriedObject with
  | none => ⟨none, none⟩
  | some identity =>
    let objectChange := findObjectChange comparison identity
    ⟨objectChange, queriedProperty.bind (fun propertyPath =>
      if identity ∈ baseline.projected.objects.keys ∨ identity ∈ candidate.projected.objects.keys ∨
          objectChange.isSome then
        let sides := propertySides baseline candidate objectChange identity propertyPath
        some ⟨propertyPath, sides.1, sides.2⟩
      else none)⟩

end Branch

section Projections
variable (i : GraphNodeIdentity) (p : PropertyPath)

/-- `_observations_for`, the value groups in the order of their values. -/
def observationsFor (observations : Option PropertyObservationSet) : List PropertyObservation :=
  match observations with
  | none => []
  | some set => sortBy PropertyObservation.valueFingerprint
      (set.observations.filter (fun o => o.objectIdentity = i ∧ o.propertyPath = p))

def provenanceProjection (observations : Option PropertyObservationSet) : Json :=
  .obj [("value_groups", .arr ((observationsFor i p observations).map PropertyObservation.toValueGroupDict))]

def findConflictResult (report : Option PropertyConflictReport) : Option PropertyConflictResult :=
  report.bind (fun r => r.results.find? (fun x => x.objectIdentity = i ∧ x.propertyPath = p))

end Projections

def conflictStateProjection : Option PropertyConflictResult → Json
  | none => .obj [("has_result", .bool false)]
  | some r => .obj [("has_result", .bool true), ("reason", .str r.reason.value), ("state", .str r.state.value)]

/-- `_AUTHORITY_APPLICABLE_REASONS` -/
def authorityApplicable : ConflictReason → Bool
  | .noAuthorityRule => true
  | .invalidOrAmbiguousAuthority => true
  | .authoritativeSourceNotObserved => true
  | .authoritativeSourceConflicted => true
  | .resolvedByAuthority => true
  | .singleObservation => false
  | .agreement => false

def authorityDecisionProjection : Option PropertyConflictResult → Json
  | none => .obj [("has_result", .bool false)]
  | some r =>
    if authorityApplicable r.reason then
      .obj [("has_result", .bool true), ("authority_applicable", .bool true), ("outcome", .str r.reason.value),
        ("winning_rule_key", (r.winningRuleKey.map AuthorityRuleKey.toDict).getD .null)]
    else .obj [("has_result", .bool true), ("authority_applicable", .bool false)]

def effectiveValueProjection : Option PropertyConflictResult → Json
  | none => .obj [("has_result", .bool false)]
  | some r =>
    match r.effectiveValue with
    | none => .obj [("has_result", .bool true), ("has_effective_value", .bool false)]
    | some v => .obj [("has_effective_value", .bool true), ("has_result", .bool true), ("value", v.val)]

/-- One dimension of the context of a property: who has it, and the two projections where they differ. -/
structure DimensionBlock where
  baselineAvailable : Bool
  candidateAvailable : Bool
  change : Option (Json × Json)

def DimensionBlock.toDict (b : DimensionBlock) : Json :=
  .obj [("available", sidesDict b.baselineAvailable b.candidateAvailable),
    ("change", match b.change with
      | none => .null
      | some (baseline, candidate) => .obj [("baseline", baseline), ("candidate", candidate)])]

/-- `_dimension_block` -/
def dimensionBlock (baselineAvailable candidateAvailable : Bool)
    (baselineProjection candidateProjection : Option Json) : DimensionBlock :=
  ⟨baselineAvailable, candidateAvailable,
    if baselineAvailable && candidateAvailable then
      match baselineProjection with
      | none => none
      | some b =>
        match candidateProjection with
        | none => none
        | some c =>
          if canonicalValueFingerprint (canonicalizeJsonValue b) ≠
            canonicalValueFingerprint (canonicalizeJsonValue c) then some (b, c) else none
    else none⟩

structure ContextPropertyChange where
  authorityDecision : DimensionBlock
  conflict : DimensionBlock
  effectiveValue : DimensionBlock
  property : String
  provenance : DimensionBlock

namespace ContextPropertyChange

def toDict (c : ContextPropertyChange) : Json :=
  .obj [("authority_decision", c.authorityDecision.toDict), ("conflict", c.conflict.toDict),
    ("effective_value", c.effectiveValue.toDict), ("property", .str c.property),
    ("provenance", c.provenance.toDict)]

def materiallyChanged (c : ContextPropertyChange) : Bool :=
  [c.provenance, c.conflict, c.authorityDecision, c.effectiveValue].any (fun b => b.change.isSome)

end ContextPropertyChange

def pathsForGovernanceObject (s : ResolvedEntryState) (i : GraphNodeIdentity) : List String :=
  (match s.observations with
    | none => []
    | some set => (set.observations.filter (fun o => o.objectIdentity = i)).map (fun o => o.propertyPath.toPointer)) ++
  (match s.conflicts with
    | none => []
    | some report => (report.results.filter (fun r => r.objectIdentity = i)).map (fun r => r.propertyPath.toPointer))

def objectKnownInContext (s : ResolvedEntryState) (i : GraphNodeIdentity) : Bool :=
  pathsForGovernanceObject s i ≠ []

section Context
variable (baseline candidate : ResolvedEntryState)

/-- A projection where it is available. -/
def whenAvailable (available : Bool) (projection : Json) : Option Json := if available then some projection else none

/-- The context of one property on the two sides. -/
def contextPropertyChange (i : GraphNodeIdentity) (pointer : String) (p : PropertyPath) : ContextPropertyChange :=
  let base := availabilitySide baseline
  let cand := availabilitySide candidate
  let baseResult := if base.conflict then findConflictResult i p baseline.conflicts else none
  let candResult := if cand.conflict then findConflictResult i p candidate.conflicts else none
  { authorityDecision := dimensionBlock base.authorityDecision cand.authorityDecision
      (whenAvailable base.authorityDecision (authorityDecisionProjection baseResult))
      (whenAvailable cand.authorityDecision (authorityDecisionProjection candResult))
    conflict := dimensionBlock base.conflict cand.conflict
      (whenAvailable base.conflict (conflictStateProjection baseResult))
      (whenAvailable cand.conflict (conflictStateProjection candResult))
    effectiveValue := dimensionBlock base.authorityDecision cand.authorityDecision
      (whenAvailable base.authorityDecision (effectiveValueProjection baseResult))
      (whenAvailable cand.authorityDecision (effectiveValueProjection candResult))
    property := pointer
    provenance := dimensionBlock base.provenance cand.provenance
      (whenAvailable base.provenance (provenanceProjection i p baseline.observations))
      (whenAvailable cand.provenance (provenanceProjection i p candidate.observations)) }

/-- The pointers looked at: the queried one, or all that either side knows. -/
def contextPointers (i : GraphNodeIdentity) (queriedProperty : Option String) : List String :=
  match queriedProperty with
  | some pointer => [pointer]
  | none => sortBy id (distinct (pathsForGovernanceObject baseline i ++ pathsForGovernanceObject candidate i))

def buildContextPropertyChanges (queriedGovernanceObject : Option GraphNodeIdentity)
    (queriedProperty : Option String) : Checked (List ContextPropertyChange) :=
  match queriedGovernanceObject with
  | none => return []
  | some i => do
    let entries ← (contextPointers baseline candidate i queriedProperty).mapM (fun pointer => do
      let p ← (PropertyPath.parse pointer).mapError Failure.valueError
      return contextPropertyChange baseline candidate i pointer p)
    return entries.filter (fun c => queriedProperty.isSome || c.materiallyChanged)

end Context

structure Transition where
  baselineAvailability : Availability
  candidateAvailability : Availability
  contextPropertyChanges : List ContextPropertyChange
  fromEntryStateIdentity : ContentIdentity
  fromIndex : Nat
  fromSnapshotIdentity : ContentIdentity
  snapshot : SnapshotBranch
  toEntryStateIdentity : ContentIdentity
  toIndex : Nat
  toSnapshotIdentity : ContentIdentity

def Transition.toDict (t : Transition) : Json :=
  .obj [("availability", buildAvailability t.baselineAvailability t.candidateAvailability),
    ("context_property_changes", .arr (t.contextPropertyChanges.map ContextPropertyChange.toDict)),
    ("from_entry_state_identity", t.fromEntryStateIdentity.toDict), ("from_index", .int t.fromIndex),
    ("from_snapshot_identity", t.fromSnapshotIdentity.toDict), ("snapshot", t.snapshot.toDict),
    ("to_entry_state_identity", t.toEntryStateIdentity.toDict), ("to_index", .int t.toIndex),
    ("to_snapshot_identity", t.toSnapshotIdentity.toDict)]

/-- What a history is asked about. -/
structure EvolutionQuery where
  object : Option ComparisonObjectIdentity
  governanceObject : Option GraphNodeIdentity
  property : Option String

structure HistoryEvolution where
  comparisonPolicy : ComparisonPolicy
  historyContentIdentity : ContentIdentity
  query : EvolutionQuery
  transitions : List Transition

/-- The members of an evolution, without its identity. -/
def HistoryEvolution.withoutIdentity (e : HistoryEvolution) : List (String × Json) :=
  [("comparison_policy", e.comparisonPolicy.toDict), ("evolution_schema", .str evolutionSchema),
    ("evolution_version", .str evolutionVersion),
    ("history_content_identity", e.historyContentIdentity.toDict),
    ("queried_governance_object", (e.query.governanceObject.map GraphNodeIdentity.toDict).getD .null),
    ("queried_object", (e.query.object.map ComparisonObjectIdentity.toDict).getD .null),
    ("queried_property", (e.query.property.map Json.str).getD .null),
    ("transitions", .arr (e.transitions.map Transition.toDict)), ("writes_performed", .int 0)]

def HistoryEvolution.toDict (sha256 : String → String) (e : HistoryEvolution) : Json :=
  .obj (e.withoutIdentity ++
    [("content_identity", (historyEvolutionIdentity sha256 (.obj e.withoutIdentity)).toDict)])

/-! `governance-history-evolution.v1.schema.json` -/

def objectIdentitySchema : Json → Bool := JsonSchema.object
  [⟨"kind", true, JsonSchema.texts (GovernedObjectKind.all.map GovernedObjectKind.text)⟩,
    ⟨"path", true, JsonSchema.array (JsonSchema.text 1)⟩]

/-- The identity of a node of any kind. -/
def graphNodeSchema : Json → Bool := JsonSchema.recursive fun parent => JsonSchema.object
  [⟨"namespace", true, JsonSchema.text 1⟩, ⟨"kind", true, JsonSchema.text 1⟩, ⟨"logical_id", true, JsonSchema.text 1⟩,
    ⟨"parent", true, optionalSchema parent⟩]

def pointerSchema : Json → Bool := JsonSchema.matching (fun text => text.toList.head? = some '/')

/-- A change of the object, whose kind decides whether it lists properties. -/
def evolvedObjectSchema (change : Json) : Bool :=
  [ChangeKind.added, .removed, .changed].any fun kind => JsonSchema.object
    [⟨"change", true, JsonSchema.texts [kind.text]⟩, ⟨"object_identity", true, objectIdentitySchema⟩,
      ⟨"parent_identity", true, optionalSchema objectIdentitySchema⟩,
      ⟨"property_changes", true,
        if kind = .changed then JsonSchema.sized 1 none propertyChangeSchema
        else JsonSchema.sized 0 (some 0) propertyChangeSchema⟩] change

def snapshotBranchSchema : Json → Bool := JsonSchema.object
  [⟨"object_change", true, optionalSchema evolvedObjectSchema⟩,
    ⟨"property", true, optionalSchema propertyChangeSchema⟩]

def sideAvailabilitySchema : Json → Bool := JsonSchema.object
  [⟨"baseline", true, JsonSchema.boolean⟩, ⟨"candidate", true, JsonSchema.boolean⟩]

def availabilitySchema : Json → Bool := JsonSchema.object
  [⟨"snapshot", true, sideAvailabilitySchema⟩, ⟨"provenance", true, sideAvailabilitySchema⟩,
    ⟨"authority_decision", true, sideAvailabilitySchema⟩, ⟨"conflict", true, sideAvailabilitySchema⟩]

def contextDimensionSchema : Json → Bool := JsonSchema.object
  [⟨"available", true, sideAvailabilitySchema⟩,
    ⟨"change", true, optionalSchema (JsonSchema.object
      [⟨"baseline", true, JsonSchema.anything⟩, ⟨"candidate", true, JsonSchema.anything⟩])⟩]

def contextPropertyChangeSchema : Json → Bool := JsonSchema.object
  [⟨"property", true, pointerSchema⟩, ⟨"provenance", true, contextDimensionSchema⟩,
    ⟨"conflict", true, contextDimensionSchema⟩, ⟨"authority_decision", true, contextDimensionSchema⟩,
    ⟨"effective_value", true, contextDimensionSchema⟩]

def transitionSchema : Json → Bool := JsonSchema.object
  [⟨"from_index", true, JsonSchema.integer 0⟩, ⟨"to_index", true, JsonSchema.integer 1⟩,
    ⟨"from_entry_state_identity", true, contentIdentitySchema⟩,
    ⟨"to_entry_state_identity", true, contentIdentitySchema⟩,
    ⟨"from_snapshot_identity", true, contentIdentitySchema⟩, ⟨"to_snapshot_identity", true, contentIdentitySchema⟩,
    ⟨"availability", true, availabilitySchema⟩, ⟨"snapshot", true, snapshotBranchSchema⟩,
    ⟨"context_property_changes", true, JsonSchema.array contextPropertyChangeSchema⟩]

/-- Whether the schema of evolutions accepts a document; one of the two objects has to be asked about. -/
def evolutionSchemaAccepts (document : Json) : Bool :=
  JsonSchema.object
    [⟨"evolution_schema", true, JsonSchema.texts [evolutionSchema]⟩,
      ⟨"evolution_version", true, JsonSchema.texts [evolutionVersion]⟩,
      ⟨"history_content_identity", true, contentIdentitySchema⟩,
      ⟨"queried_object", true, optionalSchema objectIdentitySchema⟩,
      ⟨"queried_governance_object", true, optionalSchema graphNodeSchema⟩,
      ⟨"queried_property", true, optionalSchema pointerSchema⟩, ⟨"comparison_policy", true, comparisonPolicySchema⟩,
      ⟨"transitions", true, JsonSchema.array transitionSchema⟩, ⟨"writes_performed", true, JsonSchema.integerConst 0⟩,
      ⟨"content_identity", true, contentIdentitySchema⟩] document &&
    !(JsonSchema.isNull (Json.get (membersOf document) "queried_object") &&
      JsonSchema.isNull (Json.get (membersOf document) "queried_governance_object"))

section Present
variable (resolved : ResolvedHistory)

def objectPresentSomewhere (identity : ComparisonObjectIdentity) : Bool :=
  resolved.states.any (fun s => identity ∈ s.projected.objects.keys)

def propertyPresentSomewhere (identity : ComparisonObjectIdentity) (propertyPath : String) : Bool :=
  resolved.states.any (fun s =>
    match s.projected.objects.get? identity with
    | none => false
    | some o => snapshotPropertyState s.projected identity propertyPath ≠ .missing || propertyPath ∈ o.properties.keys)

def governanceObjectPresentSomewhere (i : GraphNodeIdentity) : Bool :=
  resolved.states.any (fun s => objectKnownInContext s i)

def governancePropertyPresentSomewhere (i : GraphNodeIdentity) (p : PropertyPath) : Bool :=
  resolved.states.any (fun s =>
    s.observations.any (fun set => set.observations.any (fun o => o.objectIdentity = i ∧ o.propertyPath = p)) ||
    s.conflicts.any (fun report => report.results.any (fun r => r.objectIdentity = i ∧ r.propertyPath = p)))

end Present

section Build
variable (sha256 : String → String)

/-- The first failure of the production schema: the path of the value and the failing keyword. -/
abbrev SchemaValidator := Json → Option (List String × String)

def buildTransition (fromIndex toIndex : Nat) (baseline candidate : ResolvedEntryState)
    (comparison : ComparisonResult) (query : EvolutionQuery) : Checked Transition := do
  let changes ← buildContextPropertyChanges baseline candidate query.governanceObject query.property
  return {
    baselineAvailability := availabilitySide baseline
    candidateAvailability := availabilitySide candidate
    contextPropertyChanges := changes
    fromEntryStateIdentity := baseline.entry.state.entryStateIdentity sha256
    fromIndex
    fromSnapshotIdentity := baseline.entry.state.snapshot
    snapshot := buildSnapshotBranch baseline candidate comparison query.object query.property
    toEntryStateIdentity := candidate.entry.state.entryStateIdentity sha256
    toIndex
    toSnapshotIdentity := candidate.entry.state.snapshot }

/-- `resolved.states[index]` -/
def stateAt (resolved : ResolvedHistory) (index : Nat) : Checked ResolvedEntryState :=
  match resolved.states[index]? with
  | some s => .ok s
  | none => .error .indexError

def require (holds : Bool) (code path message : String) : Checked Unit :=
  if holds then .ok () else refuse code path message

/-- The queried pointer, which must be written canonically. -/
def checkQueriedProperty (queriedProperty : Option String) : Checked (Option PropertyPath) :=
  match queriedProperty with
  | none => return none
  | some pointer => do
    let p ← (PropertyPath.parse pointer).mapError Failure.valueError
    require (p.toPointer = pointer) codeInvalidHistoryArtifact "/queried_property"
      "property pointer is not canonical"
    return some p

/-- The query names something, and something of the history. -/
def checkQuery (resolved : ResolvedHistory) (query : EvolutionQuery) : Checked Unit := do
  require (query.object.isSome || query.governanceObject.isSome) codeInvalidHistoryArtifact "/"
    "at least one of queried_object or queried_governance_object is required"
  let p ← checkQueriedProperty query.property
  require (query.object.all (objectPresentSomewhere resolved)) codeObjectNotFound "/queried_object"
    "queried object not found in history"
  require (query.object.all (fun i => query.property.all (propertyPresentSomewhere resolved i)))
    codePropertyNotFound "/queried_property" "queried property not found for object in history"
  require (query.governanceObject.all (governanceObjectPresentSomewhere resolved)) codeObjectNotFound
    "/queried_governance_object" "queried governance object not found in history context"
  require (query.governanceObject.all (fun i => p.all (governancePropertyPresentSomewhere resolved i)))
    codePropertyNotFound "/queried_property"
    "queried property not found for governance object in history context"

def validateEvolutionResult (validator : SchemaValidator) (result : Json) : Checked Unit :=
  match validator result with
  | none => .ok ()
  | some (path, keyword) =>
    refuse codeInvalidHistoryArtifact (if path = [] then "/" else "/" ++ String.intercalate "/" path)
      ("evolution artifact failed schema validation (" ++ keyword ++ ")")

/-- Build a deterministic governance-history-evolution result. -/
def buildHistoryEvolution (validator : SchemaValidator) (resolved : ResolvedHistory) (query : EvolutionQuery) :
    Checked HistoryEvolution := do
  checkQuery resolved query
  let transitions ← resolved.comparisons.zipIdx.mapM (fun (comparison, index) => do
    let baseline ← stateAt resolved index
    let candidate ← stateAt resolved (index + 1)
    buildTransition sha256 index (index + 1) baseline candidate comparison query)
  let evolution : HistoryEvolution := ⟨resolved.history.comparisonPolicy,
    resolved.history.contentIdentity sha256, query, transitions⟩
  validateEvolutionResult validator (evolution.toDict sha256)
  return evolution

end Build
end CollibraGovernance.History
