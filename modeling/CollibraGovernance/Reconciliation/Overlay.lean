import CollibraGovernance.Reconciliation.Assumptions

/-! Overlaying the decided values onto the desired state. -/
namespace CollibraGovernance.Reconciliation
open Library Identity Domain Collibra

structure OverlayResult where
  desired : CollibraDesiredState
  appliedResults : List PropertyConflictResult

/-- `_attr_map`: of attributes of one type the last is kept. -/
def attrMap (attrs : List CollibraAttributeSpec) : Dict String String :=
  Dict.index CollibraAttributeSpec.attributeTypeRef CollibraAttributeSpec.value attrs

def remoteAttrMap (asset : CollibraRemoteAsset) : Dict String String :=
  Dict.index CollibraRemoteAttribute.attributeTypeRef CollibraRemoteAttribute.value asset.managedAttributes

def setOrRemoveAttr (attrs : Dict String String) (typeRef : String) : Option String → Dict String String
  | some value => attrs.set typeRef value
  | none => attrs.erase typeRef

def attrsTuple (attrs : Dict String String) : Except String (List CollibraAttributeSpec) :=
  (sortBy (fun e => toLex e) attrs.entries).mapM (fun e => CollibraAttributeSpec.create e.1 e.2)

section Apply
variable (mappingConfig : CollibraMappingConfig)

/-- `_apply_target_to_asset`: a null target omits the field of a new asset and keeps the one of a remote asset. -/
def applyTargetToAsset (remoteAsset : Option CollibraRemoteAsset) (asset : CollibraAssetSpec)
    (converted : RepresentableTargetValue) : Except String CollibraAssetSpec :=
  match fieldRef mappingConfig converted.field with
  | none =>
    let displayName := match converted.value with
      | some value => some value
      | none => match remoteAsset with
        | none => none
        | some remote => remote.displayName
    CollibraAssetSpec.create asset.localId asset.name asset.assetTypeRef asset.domainRef displayName asset.attributes
  | some typeRef => do
    let attrs := attrMap asset.attributes
    let attrs := match converted.value with
      | some value => setOrRemoveAttr attrs typeRef (some value)
      | none => match remoteAsset with
        | none => setOrRemoveAttr attrs typeRef none
        | some remote => setOrRemoveAttr attrs typeRef ((remoteAttrMap remote).get? typeRef)
    CollibraAssetSpec.create asset.localId asset.name asset.assetTypeRef asset.domainRef asset.displayName
      (← attrsTuple attrs)

/-- The states whose decision may be applied. -/
def safeStates : List ConflictState := [.singleObservation, .agreement, .resolvedByAuthority]

structure OverlayState where
  assetsById : Dict String CollibraAssetSpec
  applied : List PropertyConflictResult

variable (conflictReport : PropertyConflictReport)

/-- The body of the loop over the mapped paths of one indexed object. -/
def overlayPath (localId : String) (identity : GraphNodeIdentity) (remoteAsset : Option CollibraRemoteAsset)
    (state : OverlayState) (path : PropertyPath) : Except String OverlayState :=
  if pathApplicableToIdentity path identity = false then .ok state
  else
    match (resultLookup conflictReport).get? (identity.canonicalBytes, path.toPointer) with
    | none => .ok state
    | some result =>
      let assessment := assessReconciliation result none none
      if assessment.applicable = false ∨ assessment.safe = false then .ok state
      else if result.state ∉ safeStates ∨ result.effectiveValue = none then .ok state
      else
        match convertEffectiveValue path identity result.effectiveValue, state.assetsById.get? localId with
        | none, _ => .ok state
        | some _, none => .error ("KeyError: " ++ localId)
        | some converted, some asset => do
          let asset ← applyTargetToAsset mappingConfig remoteAsset asset converted
          return ⟨state.assetsById.set localId asset, state.applied ++ [result]⟩

def overlayPaths : List PropertyPath := [pathName, pathDescription, pathDataType, pathOwnership]

variable (remoteState : CollibraRemoteState)

/-- `_remote_by_local_id` -/
def remoteByLocalId : Dict String CollibraRemoteAsset :=
  Dict.index CollibraRemoteAsset.localId id remoteState.assets

/-- The body of the loop over the indexed objects; objects that are not desired are skipped. -/
def overlayEntry (state : OverlayState) (entry : String × GraphNodeIdentity) : Except String OverlayState :=
  match state.assetsById.get? entry.1 with
  | none => .ok state
  | some _ => overlayPaths.foldlM (overlayPath mappingConfig conflictReport entry.1 entry.2
      ((remoteByLocalId remoteState).get? entry.1)) state

/-- The asset now held for a desired one. -/
def overlaidAsset (state : OverlayState) (asset : CollibraAssetSpec) : Except String CollibraAssetSpec :=
  match state.assetsById.get? asset.localId with
  | none => .error ("KeyError: " ++ asset.localId)
  | some asset => .ok asset

def applyReconciliationOverlay (baselineDesired : CollibraDesiredState)
    (physicalIndex : PhysicalReconciliationIndex) : Except String OverlayResult := do
  let state ← physicalIndex.byLocalId.entries.foldlM (overlayEntry mappingConfig conflictReport remoteState)
    ⟨Dict.index CollibraAssetSpec.localId id baselineDesired.assets, []⟩
  let orderedAssets ← baselineDesired.assets.mapM (overlaidAsset state)
  return ⟨.create orderedAssets baselineDesired.relationships, state.applied⟩

end Apply
end CollibraGovernance.Reconciliation
