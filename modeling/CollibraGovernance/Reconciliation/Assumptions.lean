import CollibraGovernance.Collibra.Mapping
import CollibraGovernance.Collibra.Sync
import CollibraGovernance.Reconciliation.PhysicalIndex
import CollibraGovernance.Reconciliation.Safety

/-! What a plan assumes of the conflict decisions: the properties its actions depend on, with their decisions. -/
namespace CollibraGovernance.Reconciliation
open Library Identity Domain Collibra

def pathName : PropertyPath := ⟨["name"], List.cons_ne_nil _ _⟩
def pathDescription : PropertyPath := ⟨["description"], List.cons_ne_nil _ _⟩
def pathDataType : PropertyPath := ⟨["attributes", "data_type"], List.cons_ne_nil _ _⟩
def pathOwnership : PropertyPath := ⟨["attributes", "ownership"], List.cons_ne_nil _ _⟩

def mappedPropertyPathsForKind (kind : String) : List PropertyPath :=
  [pathName, pathDescription] ++ (if isDataTypeApplicable kind then [pathDataType] else []) ++
    (if isOwnershipApplicable kind then [pathOwnership] else [])

/-- The attribute type that holds a target field; the display name is held by the asset itself. -/
def fieldRef (config : CollibraMappingConfig) : TargetField → Option String
  | .displayName => none
  | .description => some config.attributeTypeRefs.description
  | .dataType => some config.attributeTypeRefs.dataType
  | .owner => some config.attributeTypeRefs.owner

/-- `get_asset_attr` -/
def getAssetAttr (config : CollibraMappingConfig) (asset : CollibraAssetSpec) (field : TargetField) : Option String :=
  match fieldRef config field with
  | none => asset.displayName
  | some ref =>
    (asset.attributes.find? (fun a => a.attributeTypeRef = ref)).map CollibraAttributeSpec.value

/-- `get_remote_attr` -/
def getRemoteAttr (config : CollibraMappingConfig) (remote : Option CollibraRemoteAsset) (field : TargetField) :
    Option String :=
  match remote with
  | none => none
  | some remote =>
    match fieldRef config field with
    | none => remote.displayName
    | some ref =>
      (remote.managedAttributes.find? (fun a => a.attributeTypeRef = ref)).map CollibraRemoteAttribute.value

def decisionFromResult (r : PropertyConflictResult) : Json :=
  .obj ([("reason", .str r.reason.value), ("state", .str r.state.value),
      ("value_groups", .arr (r.valueGroups.map PropertyObservation.toValueGroupDict))] ++
    (match r.effectiveValue with
      | none => []
      | some v => [("effective_value", v.val)]) ++
    (match r.winningRuleKey with
      | none => []
      | some k => [("winning_rule_key", k.toDict)]))

def reconciliationAssumptionsSchema : String := "governance-reconciliation-assumptions"
def reconciliationAssumptionsVersion : String := "1"

inductive AssumptionRole where
  | mutation | overlay
  deriving DecidableEq

def AssumptionRole.value : AssumptionRole → String
  | .mutation => "mutation"
  | .overlay => "overlay"

/-- A property an action depends on, why it does, and what was decided about it. -/
structure AssumptionProperty where
  object : GraphNodeIdentity
  property : PropertyPath
  roles : List AssumptionRole
  decision : Option PropertyConflictResult

namespace AssumptionProperty

/-- `_property_entry` -/
def toDict (p : AssumptionProperty) : Json :=
  .obj [("decision", (p.decision.map decisionFromResult).getD .null), ("object", p.object.toDict),
    ("property", .str p.property.toPointer), ("roles", .arr (p.roles.map (fun r => .str r.value)))]

def sortKey (p : AssumptionProperty) : String ×ₗ String := toLex (p.object.canonicalBytes, p.property.toPointer)

end AssumptionProperty

structure AssumptionAction where
  actionType : SyncActionType
  localId : String
  properties : List AssumptionProperty

namespace AssumptionAction

def toDict (a : AssumptionAction) : Json :=
  .obj [("action_type", .str a.actionType.value), ("local_id", .str a.localId), ("object_kind", .str "asset"),
    ("properties", .arr (a.properties.map AssumptionProperty.toDict))]

/-- The order of the actions; the object kind is the same for all of them. -/
def sortKey (a : AssumptionAction) : String ×ₗ String := toLex (a.localId, a.actionType.value)

end AssumptionAction

/-- The document over a list of actions. -/
def assumptionsDict (actions : List AssumptionAction) : Json :=
  .obj [("actions", .arr (actions.map AssumptionAction.toDict)),
    ("assumptions_schema", .str reconciliationAssumptionsSchema),
    ("assumptions_version", .str reconciliationAssumptionsVersion)]

def emptyAssumptions : Json := assumptionsDict []

def assumptionsContentIdentity (sha256 : String → String) (assumptions : Json) : ContentIdentity :=
  reconciliationAssumptionsIdentity sha256 assumptions

/-- `_result_lookup` -/
def resultLookup (report : PropertyConflictReport) : Dict (String × String) PropertyConflictResult :=
  Dict.index (fun r => (r.objectIdentity.canonicalBytes, r.propertyPath.toPointer)) id report.results

section Build
variable (baselineDesired reconciledDesired : CollibraDesiredState) (remoteState : CollibraRemoteState)
  (conflictReport : PropertyConflictReport) (mappingConfig : CollibraMappingConfig)
  (physicalIndex : PhysicalReconciliationIndex)

/-- Why an action depends on a property; the roles are listed in their order. -/
def actionRoles (actionType : SyncActionType) (baseline reconciled : CollibraAssetSpec)
    (remote : Option CollibraRemoteAsset) (path : PropertyPath) : List AssumptionRole :=
  match actionType with
  | .create => [.mutation]
  | .remoteOnly => []
  | _ =>
    match targetFieldForPath path with
    | none => []
    | some field =>
      let baseVal := getAssetAttr mappingConfig baseline field
      let recVal := getAssetAttr mappingConfig reconciled field
      let remoteVal := getRemoteAttr mappingConfig remote field
      (if actionType = .update ∧ recVal ≠ remoteVal then [.mutation] else []) ++
        (if baseVal ≠ recVal then [.overlay] else [])

def actionProperties (actionType : SyncActionType) (identity : GraphNodeIdentity)
    (baseline reconciled : CollibraAssetSpec) (remote : Option CollibraRemoteAsset) : List AssumptionProperty :=
  (mappedPropertyPathsForKind identity.kind.val).filterMap (fun path =>
    match actionRoles mappingConfig actionType baseline reconciled remote path with
    | [] => none
    | roles => some ⟨identity, path, roles,
        (resultLookup conflictReport).get? (identity.canonicalBytes, path.toPointer)⟩)

/-- What is assumed for one action; most actions assume nothing. -/
def actionEntry (action : SyncAction) : Option AssumptionAction :=
  if action.objectKind ≠ .asset ∨ action.actionType = .remoteOnly then none
  else do
    let localId ← orNone action.localId
    let identity ← physicalIndex.get localId
    let baseline ← (Dict.index CollibraAssetSpec.localId id baselineDesired.assets).get? localId
    let reconciled ← (Dict.index CollibraAssetSpec.localId id reconciledDesired.assets).get? localId
    let remote := (Dict.index CollibraRemoteAsset.localId id remoteState.assets).get? localId
    match actionProperties conflictReport mappingConfig action.actionType identity baseline reconciled remote with
    | [] => none
    | properties => some ⟨action.actionType, localId, sortBy AssumptionProperty.sortKey properties⟩

def assumedActions (syncPlan : SyncPlan) : List AssumptionAction :=
  sortBy AssumptionAction.sortKey (syncPlan.actions.filterMap
    (actionEntry baselineDesired reconciledDesired remoteState conflictReport mappingConfig physicalIndex))

def buildReconciliationAssumptions (syncPlan : SyncPlan) : Json :=
  assumptionsDict (assumedActions baselineDesired reconciledDesired remoteState conflictReport mappingConfig
    physicalIndex syncPlan)

end Build
end CollibraGovernance.Reconciliation
