import CollibraGovernance.Collibra.Execute
import CollibraGovernance.Collibra.Mapping

/-! Compilation of a reviewed plan into bulk-import commands. -/
namespace CollibraGovernance.Collibra
open Library

def importJsonJobPath : String := "/rest/2.0/import/json-job"

/-- An import document cannot represent the reviewed plan safely. -/
def importCompileError (message : String) : CollibraAdapterError :=
  adapterError message "compile_import" importJsonJobPath

/-- How a command names an asset: a new one by name and domain, a stored one by its id. -/
inductive ImportIdentifier where
  | natural (name domainRef : String)
  | remote (id : String)
  deriving DecidableEq

def ImportIdentifier.toDict : ImportIdentifier → Json
  | .natural name domainRef => .obj [("name", .str name), ("domain", .obj [("id", .str domainRef)])]
  | .remote id => .obj [("id", .str id)]

/-- The end of a relation at which the related asset stands. -/
inductive RelationDirection where
  | source | target
  deriving DecidableEq

def RelationDirection.text : RelationDirection → String
  | .source => "SOURCE"
  | .target => "TARGET"

def relationKey (relationTypeRef : String) (direction : RelationDirection) : String :=
  relationTypeRef ++ ":" ++ direction.text

/-- One import command. A member that the source leaves out of the payload is `none` or empty. -/
structure ImportCommand where
  identifier : ImportIdentifier
  typeRef : Option String
  name : Option String
  displayName : Option String
  attributes : Dict String String
  relations : Dict String (List ImportIdentifier)

def ImportCommand.payload (command : ImportCommand) : List (String × Json) :=
  [("resourceType", .str "Asset"), ("identifier", command.identifier.toDict)] ++
  (command.typeRef.map fun t => ("type", .obj [("id", .str t)])).toList ++
  (command.name.map fun n => ("name", .str n)).toList ++
  (command.displayName.map fun n => ("displayName", .str n)).toList ++
  (if command.attributes.entries = [] then [] else
    [("attributes", .obj (command.attributes.entries.map fun e =>
      (e.1, .arr [.obj [("value", .str e.2)]])))]) ++
  (if command.relations.entries = [] then [] else
    [("relations", .obj (command.relations.entries.map fun e =>
      (e.1, .arr (e.2.map ImportIdentifier.toDict))))])

structure ImportDocument where
  commands : List ImportCommand

/-- `_exact_import_asset_identifier`: no trim, casefold or other normalization. -/
def exactImportAssetIdentifier (asset : CollibraAssetSpec) :
    Except CollibraAdapterError (String × String) :=
  if isBlank asset.name then .error (importCompileError "import_v2 CREATE identifier is empty")
  else if isBlank asset.domainRef then
    .error (importCompileError "import_v2 CREATE identifier is empty")
  else .ok (asset.name, asset.domainRef)

def requireDesiredAsset (action : SyncAction) : Except CollibraAdapterError CollibraAssetSpec :=
  match action.desiredAsset with
  | none => .error (importCompileError "asset action missing desired spec")
  | some asset => .ok asset

def SyncAction.mutates (action : SyncAction) : Bool :=
  action.actionType = .create ∨ action.actionType = .update

/-- `_require_asset_local_identity`: the action and its desired asset carry one local id. -/
def requireAssetLocalIdentity (action : SyncAction) : Except CollibraAdapterError String :=
  if action.objectKind ≠ .asset then
    .error (importCompileError "asset command missing local identity")
  else if action.mutates = false then
    .error (importCompileError "asset command missing local identity")
  else if action.localId.getD "" = "" then
    .error (importCompileError "import_v2 asset action missing local identity")
  else do
    let asset ← requireDesiredAsset action
    if asset.localId = "" then
      .error (importCompileError "import_v2 asset action missing local identity")
    else if action.localId ≠ some asset.localId then
      .error (importCompileError "import_v2 asset action local_id must equal desired_asset.local_id")
    else return asset.localId

/-- An asset that the plan creates or updates. -/
def SyncAction.mutatesAsset (action : SyncAction) : Bool :=
  action.objectKind = .asset ∧ action.mutates = true

def rejectInconsistentAssetLocalIdentities (plan : SyncPlan) : Except CollibraAdapterError Unit :=
  plan.actions.forM fun action =>
    if action.mutatesAsset then do
      let _ ← requireAssetLocalIdentity action
      return ()
    else .ok ()

/-- `_is_create_asset` -/
def SyncAction.isCreateAsset (action : SyncAction) : Bool :=
  action.objectKind = .asset ∧ action.actionType = .create

/-- One turn of the loop that fails closed when two creates share one name and domain. -/
def noteCreateIdentifier (seen : Dict (String × String) String) (action : SyncAction) :
    Except CollibraAdapterError (Dict (String × String) String) :=
  if action.isCreateAsset then do
    let asset ← requireDesiredAsset action
    let key ← exactImportAssetIdentifier asset
    let localId ← requireAssetLocalIdentity action
    if (seen.get? key).getD localId ≠ localId then
      .error (importCompileError
        "import_v2 cannot represent two CREATE assets with the same name and domain")
    else return seen.set key localId
  else .ok seen

def rejectDuplicateCreateNaturalIdentifiers (plan : SyncPlan) : Except CollibraAdapterError Unit := do
  let _ ← plan.actions.foldlM noteCreateIdentifier Dict.empty
  return ()

/-- One turn of `_asset_lookup`. -/
def noteAsset (found : Dict String SyncAction) (action : SyncAction) :
    Except CollibraAdapterError (Dict String SyncAction) :=
  if action.objectKind ≠ .asset then .ok found
  else if action.mutates then do
    let localId ← requireAssetLocalIdentity action
    return found.set localId action
  else match action.localId with
    | none => .ok found
    | some localId => if localId = "" then .ok found else .ok (found.set localId action)

def assetLookup (plan : SyncPlan) : Except CollibraAdapterError (Dict String SyncAction) :=
  plan.actions.foldlM noteAsset Dict.empty

def addManagedAttribute (allowed : List String) (payload : Dict String String)
    (spec : CollibraAttributeSpec) : Except CollibraAdapterError (Dict String String) :=
  if spec.attributeTypeRef ∉ allowed then
    .error (importCompileError "import_v2 cannot emit unmanaged attribute types")
  else if payload.contains spec.attributeTypeRef then
    .error (importCompileError
      "import_v2 cannot represent multiple values for one attribute type")
  else .ok (payload.set spec.attributeTypeRef spec.value)

/-- `_managed_attributes`: one value for each attribute type, of the allowed types only. -/
def managedAttributes (attributes : List CollibraAttributeSpec) (allowed : List String) :
    Except CollibraAdapterError (Dict String String) :=
  attributes.foldlM (addManagedAttribute allowed) Dict.empty

/-- `_asset_command` for an asset to create. -/
def createCommand (allowed : List String) (asset : CollibraAssetSpec) :
    Except CollibraAdapterError ImportCommand := do
  let identifier ← exactImportAssetIdentifier asset
  let attributes ← managedAttributes asset.attributes allowed
  return {
    identifier := .natural identifier.1 identifier.2, typeRef := some asset.assetTypeRef
    name := none, displayName := asset.displayName, attributes := attributes
    relations := Dict.empty }

/-- The attributes that an update writes: none unless they changed, and then at least one. -/
def changedAttributes (allowed : List String) (action : SyncAction) (asset : CollibraAssetSpec) :
    Except CollibraAdapterError (Dict String String) :=
  if action.changedFields.contains "managed_attributes" then do
    let attributes ← managedAttributes asset.attributes allowed
    if attributes.entries = [] then
      .error (importCompileError "import_v2 cannot represent managed attribute UPDATE")
    else return attributes
  else .ok Dict.empty

/-- `_asset_command` for an asset to update: only the changed fields are written. -/
def updateCommand (allowed : List String) (action : SyncAction) (asset : CollibraAssetSpec) :
    Except CollibraAdapterError ImportCommand :=
  let remoteId := action.remoteId.getD ""
  if remoteId = "" then .error (importCompileError "UPDATE asset missing remote id")
  else do
    let attributes ← changedAttributes allowed action asset
    return {
      identifier := .remote remoteId, typeRef := none
      name := if action.changedFields.contains "name" then some asset.name else none
      displayName := if action.changedFields.contains "display_name" then asset.displayName else none
      attributes := attributes, relations := Dict.empty }

/-- `_asset_command` -/
def assetCommand (allowed : List String) (action : SyncAction) :
    Except CollibraAdapterError ImportCommand := do
  let asset ← requireDesiredAsset action
  match action.actionType with
  | .create => createCommand allowed asset
  | .update => updateCommand allowed action asset
  | _ => .error (importCompileError "unsupported asset action for import_v2")

/-- `_asset_identifier` -/
def assetIdentifier (action : SyncAction) : Except CollibraAdapterError ImportIdentifier :=
  if action.actionType = .create then do
    let asset ← requireDesiredAsset action
    let key ← exactImportAssetIdentifier asset
    return .natural key.1 key.2
  else match action.remoteId with
    | none => .error (importCompileError "relationship endpoint cannot be identified")
    | some remoteId =>
      if remoteId = "" then
        .error (importCompileError "relationship endpoint cannot be identified")
      else .ok (.remote remoteId)

/-- `_relation_only_command`: the first asset action of that local id which knows its remote id. -/
def relationOnlyCommand (plan : SyncPlan) (sourceLocalId : String) :
    Except CollibraAdapterError ImportCommand :=
  match plan.actions.find? (fun a => a.objectKind = .asset ∧ a.localId = some sourceLocalId ∧
      a.remoteId.getD "" ≠ "") with
  | none => .error (importCompileError "relationship source has no remote identifier")
  | some action => .ok ⟨.remote (action.remoteId.getD ""), none, none, none, Dict.empty, Dict.empty⟩

/-- `_add_relation` -/
def ImportCommand.addRelation (command : ImportCommand) (relationTypeRef : String)
    (direction : RelationDirection) (related : ImportIdentifier) : ImportCommand :=
  let key := relationKey relationTypeRef direction
  { command with
    relations := command.relations.set key ((command.relations.get? key).getD [] ++ [related]) }

/-- The commands so far by local id. Their listed order is the order of the document. -/
abbrev Commands := Dict String ImportCommand

/-- Add to the command of `localId`, which must be there, a relation with another asset. -/
def hostRelation (commands : Commands) (localId relationTypeRef : String)
    (direction : RelationDirection) (relatedAction : SyncAction) :
    Except CollibraAdapterError Commands :=
  match commands.get? localId with
  | none => .error (importCompileError "relationship CREATE missing asset command")
  | some command => do
    let related ← assetIdentifier relatedAction
    return commands.set localId (command.addRelation relationTypeRef direction related)

/-- `_ensure_relation_command` -/
def ensureRelationCommand (plan : SyncPlan) (commands : Commands) (localId : String) :
    Except CollibraAdapterError Commands :=
  match commands.get? localId with
  | some _ => .ok commands
  | none => do
    let command ← relationOnlyCommand plan localId
    return commands.set localId command

def lookupEndpoint (assetsByLocal : Dict String SyncAction) (localId : String) :
    Except CollibraAdapterError SyncAction :=
  match assetsByLocal.get? localId with
  | none => .error (importCompileError "relationship endpoint cannot be identified")
  | some action => .ok action

/-- `_attach_relationship`: the relation goes to the command of the later created endpoint. -/
def attachRelationship (plan : SyncPlan) (assetsByLocal : Dict String SyncAction)
    (commands : Commands) (relationship : CollibraRelationshipSpec) :
    Except CollibraAdapterError Commands := do
  let source := relationship.sourceLocalId
  let target := relationship.targetLocalId
  let type := relationship.relationTypeRef
  let sourceAction ← lookupEndpoint assetsByLocal source
  let targetAction ← lookupEndpoint assetsByLocal target
  if sourceAction.isCreateAsset ∧ targetAction.isCreateAsset then
    if source ∉ commands.keys ∨ target ∉ commands.keys then
      .error (importCompileError "relationship CREATE missing asset command")
    else if commands.keys.idxOf target > commands.keys.idxOf source then
      hostRelation commands target type .source sourceAction
    else
      hostRelation commands source type .target targetAction
  else if sourceAction.isCreateAsset then
    hostRelation commands source type .target targetAction
  else if targetAction.isCreateAsset then
    hostRelation commands target type .source sourceAction
  else
    let commands ← ensureRelationCommand plan commands source
    hostRelation commands source type .target targetAction

/-- One turn of the loop over the ordered mutating actions. -/
def compileAction (plan : SyncPlan) (allowed : List String) (assetsByLocal : Dict String SyncAction)
    (commands : Commands) (action : SyncAction) : Except CollibraAdapterError Commands :=
  match action.objectKind with
  | .asset => do
    let command ← assetCommand allowed action
    let localId ← requireAssetLocalIdentity action
    if commands.contains localId then .error (importCompileError "duplicate import identifier")
    else return commands.set localId command
  | .relationship =>
    if action.actionType ≠ .create then
      .error (importCompileError "import_v2 cannot represent relationship UPDATE/DELETE")
    else match action.desiredRelationship with
      | none => .error (importCompileError "relationship action missing spec")
      | some relationship => attachRelationship plan assetsByLocal commands relationship

/-- `compile_import_document` -/
def compileImportDocument (plan : SyncPlan) (config : CollibraMappingConfig) :
    Except CollibraAdapterError ImportDocument :=
  let mutating := plan.actions.filter SyncAction.mutates
  if plan.actions.any (fun a => a.objectKind = .relationship ∧ a.actionType = .update) then
    .error (importCompileError "import_v2 cannot represent relationship UPDATE/DELETE")
  else do
    rejectInconsistentAssetLocalIdentities plan
    rejectDuplicateCreateNaturalIdentifiers plan
    let assetsByLocal ← assetLookup plan
    let commands ← (orderedMutatingActions mutating).foldlM
      (compileAction plan config.attributeTypeRefs.values assetsByLocal) Dict.empty
    return ⟨commands.values⟩

end CollibraGovernance.Collibra
