import CollibraGovernance.Collibra.Models
import CollibraGovernance.Library.Dict

/-! The planner: compare a desired state with the managed remote state. -/
namespace CollibraGovernance.Collibra
open Library

def plannerContractVersion : String := "1"

def attributeMap (attributes : List CollibraAttributeSpec) : Dict String String :=
  Dict.index CollibraAttributeSpec.attributeTypeRef CollibraAttributeSpec.value attributes

def remoteAttributeMap (attributes : List CollibraRemoteAttribute) : Dict String String :=
  Dict.index CollibraRemoteAttribute.attributeTypeRef CollibraRemoteAttribute.value attributes

/-- `value or None` on an optional string. -/
def orNone (value : Option String) : Option String := value.filter (fun s => s ≠ "")

/-- `_asset_changed_fields` -/
def assetChangedFields (desired : CollibraAssetSpec) (remote : CollibraRemoteAsset) : List String :=
  (if desired.name ≠ remote.name then ["name"] else []) ++
  (if orNone desired.displayName ≠ orNone remote.displayName then ["display_name"] else []) ++
  (if (attributeMap desired.attributes).Same (remoteAttributeMap remote.managedAttributes) then []
    else ["managed_attributes"])

theorem assetChangedFields_eq_nil {desired : CollibraAssetSpec} {remote : CollibraRemoteAsset} :
    assetChangedFields desired remote = [] ↔ desired.name = remote.name ∧
      orNone desired.displayName = orNone remote.displayName ∧
      (attributeMap desired.attributes).Same (remoteAttributeMap remote.managedAttributes) := by
  simp only [assetChangedFields, List.append_eq_nil_iff, and_assoc, ite_eq_right_iff,
    ite_eq_left_iff, List.cons_ne_nil, imp_false, not_not]

namespace SyncAction

def createAsset (localId : String) (asset : CollibraAssetSpec) : SyncAction where
  actionType := .create
  objectKind := .asset
  localId := some localId
  remoteId := none
  reason := "desired asset has no managed remote match"
  desiredAsset := some asset
  desiredRelationship := none
  changedFields := []
  changedFields_sorted := List.Pairwise.nil
  accepted := by simp [syncActionError]

def unchangedAsset (localId : String) (asset : CollibraAssetSpec) (remote : CollibraRemoteAsset) :
    SyncAction where
  actionType := .unchanged
  objectKind := .asset
  localId := some localId
  remoteId := some remote.remoteId
  reason := "supported asset state equivalent"
  desiredAsset := some asset
  desiredRelationship := none
  changedFields := []
  changedFields_sorted := List.Pairwise.nil
  accepted := by simp [syncActionError]

def updateAsset (localId : String) (asset : CollibraAssetSpec) (remote : CollibraRemoteAsset)
    (changedFields : List String) : SyncAction where
  actionType := .update
  objectKind := .asset
  localId := some localId
  remoteId := some remote.remoteId
  reason := "supported asset metadata differs"
  desiredAsset := some asset
  desiredRelationship := none
  changedFields := sortBy id changedFields
  changedFields_sorted := changedFields_sortBy changedFields
  accepted := by simp [syncActionError]

def remoteOnlyAsset (localId : String) (remote : CollibraRemoteAsset) : SyncAction where
  actionType := .remoteOnly
  objectKind := .asset
  localId := some localId
  remoteId := some remote.remoteId
  reason := "managed remote asset absent from desired state"
  desiredAsset := none
  desiredRelationship := none
  changedFields := []
  changedFields_sorted := List.Pairwise.nil
  accepted := by simp [syncActionError, ne_empty_of_not_blank remote.remoteId_nonblank]

def createRelationship (rel : CollibraRelationshipSpec) : SyncAction where
  actionType := .create
  objectKind := .relationship
  localId := some rel.localKey
  remoteId := none
  reason := "desired relationship missing remotely"
  desiredAsset := none
  desiredRelationship := some rel
  changedFields := []
  changedFields_sorted := List.Pairwise.nil
  accepted := by simp [syncActionError]

def unchangedRelationship (rel : CollibraRelationshipSpec) (remote : CollibraRemoteRelationship) :
    SyncAction where
  actionType := .unchanged
  objectKind := .relationship
  localId := some rel.localKey
  remoteId := some remote.remoteId
  reason := "managed relationship equivalent"
  desiredAsset := none
  desiredRelationship := some rel
  changedFields := []
  changedFields_sorted := List.Pairwise.nil
  accepted := by simp [syncActionError]

def remoteOnlyRelationship (remote : CollibraRemoteRelationship) : SyncAction where
  actionType := .remoteOnly
  objectKind := .relationship
  localId := remote.localKey
  remoteId := some remote.remoteId
  reason := "managed remote relationship absent from desired state"
  desiredAsset := none
  desiredRelationship := none
  changedFields := []
  changedFields_sorted := List.Pairwise.nil
  accepted := by simp [syncActionError, ne_empty_of_not_blank remote.remoteId_nonblank]

end SyncAction

/-- `_relationship_key` of a desired relationship. -/
def desiredKey (rel : CollibraRelationshipSpec) : String × String × String :=
  (rel.sourceLocalId, rel.targetLocalId, rel.relationTypeRef)

/-- `_relationship_key` of a remote relationship. -/
def remoteKey (rel : CollibraRemoteRelationship) : String × String × String :=
  (rel.sourceLocalId, rel.targetLocalId, rel.relationTypeRef)

def remoteAssetIndex (remote : CollibraRemoteState) : Dict String CollibraRemoteAsset :=
  Dict.index CollibraRemoteAsset.localId id remote.assets

def desiredAssetIndex (desired : CollibraDesiredState) : Dict String CollibraAssetSpec :=
  Dict.index CollibraAssetSpec.localId id desired.assets

def remoteRelationshipIndex (remote : CollibraRemoteState) :
    Dict (String × String × String) CollibraRemoteRelationship :=
  Dict.index remoteKey id remote.relationships

def desiredRelationshipIndex (desired : CollibraDesiredState) :
    Dict (String × String × String) CollibraRelationshipSpec :=
  Dict.index desiredKey id desired.relationships

/-- The action of one desired asset. -/
def desiredAssetAction (remoteAssets : Dict String CollibraRemoteAsset)
    (e : String × CollibraAssetSpec) : SyncAction :=
  match remoteAssets.get? e.1 with
  | none => .createAsset e.1 e.2
  | some remote =>
    let changedFields := assetChangedFields e.2 remote
    if changedFields = [] then .unchangedAsset e.1 e.2 remote
    else .updateAsset e.1 e.2 remote changedFields

/-- The action of one desired relationship. -/
def desiredRelationshipAction
    (remoteRelationships : Dict (String × String × String) CollibraRemoteRelationship)
    (e : (String × String × String) × CollibraRelationshipSpec) : SyncAction :=
  match remoteRelationships.get? e.1 with
  | none => .createRelationship e.2
  | some remote => .unchangedRelationship e.2 remote

/-- The actions in the order the planner appends them. -/
def plannedActions (desired : CollibraDesiredState) (remote : CollibraRemoteState) :
    List SyncAction :=
  (desiredAssetIndex desired).entries.map (desiredAssetAction (remoteAssetIndex remote)) ++
  ((remoteAssetIndex remote).entries.filter
      (fun e => !(desiredAssetIndex desired).contains e.1)).map
    (fun e => .remoteOnlyAsset e.1 e.2) ++
  (desiredRelationshipIndex desired).entries.map
    (desiredRelationshipAction (remoteRelationshipIndex remote)) ++
  ((remoteRelationshipIndex remote).entries.filter
      (fun e => !(desiredRelationshipIndex desired).contains e.1)).map
    (fun e => .remoteOnlyRelationship e.2)

/-- Compare desired and managed remote state into an explicit plan. -/
def buildSyncPlan (desired : CollibraDesiredState) (remote : CollibraRemoteState) : SyncPlan :=
  SyncPlan.create (plannedActions desired remote)

end CollibraGovernance.Collibra
