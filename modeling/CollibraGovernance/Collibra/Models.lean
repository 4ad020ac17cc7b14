import CollibraGovernance.Library.Json
import CollibraGovernance.Library.Outcome
import CollibraGovernance.Library.Text

/-! Collibra-oriented desired, remote and plan records. Every constructor check of the source is
a field, so a record that the source would refuse cannot be written down. -/
namespace CollibraGovernance.Collibra
open Library

/-- A single attribute value destined for a Collibra asset. -/
structure CollibraAttributeSpec where
  attributeTypeRef : String
  value : String
  typeRef_nonblank : isBlank attributeTypeRef = false
  deriving DecidableEq

def CollibraAttributeSpec.create (attributeTypeRef value : String) :
    Except String CollibraAttributeSpec := do
  let ref ← requireNonEmpty attributeTypeRef "attribute_type_ref"
  return ⟨ref.1, value, ref.2⟩

theorem CollibraAttributeSpec.create_ok {attributeTypeRef value : String}
    {a : CollibraAttributeSpec} (h : create attributeTypeRef value = .ok a) :
    a.attributeTypeRef = attributeTypeRef ∧ a.value = value := by
  obtain ⟨ref, href, h⟩ := bind_eq_ok.mp h
  cases pure_eq_ok.mp h
  exact ⟨requireNonEmpty_eq_ok href, rfl⟩

/-- A display name may be absent but not blank. -/
def displayNamePresent (displayName : Option String) : Bool :=
  displayName.all (fun d => !isBlank d)

/-- Desired asset. Reconciliation identity is `localId`, never the full name alone. -/
structure CollibraAssetSpec where
  localId : String
  name : String
  assetTypeRef : String
  domainRef : String
  displayName : Option String
  attributes : List CollibraAttributeSpec
  localId_nonblank : isBlank localId = false
  name_nonblank : isBlank name = false
  assetTypeRef_nonblank : isBlank assetTypeRef = false
  domainRef_nonblank : isBlank domainRef = false
  displayName_nonblank : displayNamePresent displayName = true
  attributes_sorted : SortedBy CollibraAttributeSpec.attributeTypeRef attributes
  deriving DecidableEq

def CollibraAssetSpec.create (localId name assetTypeRef domainRef : String)
    (displayName : Option String) (attributes : List CollibraAttributeSpec) :
    Except String CollibraAssetSpec := do
  let localId ← requireNonEmpty localId "local_id"
  let name ← requireNonEmpty name "name"
  let assetTypeRef ← requireNonEmpty assetTypeRef "asset_type_ref"
  let domainRef ← requireNonEmpty domainRef "domain_ref"
  if h : displayNamePresent displayName = true then
    return {
      localId := localId.1, name := name.1, assetTypeRef := assetTypeRef.1
      domainRef := domainRef.1, displayName := displayName
      attributes := sortBy CollibraAttributeSpec.attributeTypeRef attributes
      localId_nonblank := localId.2, name_nonblank := name.2
      assetTypeRef_nonblank := assetTypeRef.2, domainRef_nonblank := domainRef.2
      displayName_nonblank := h
      attributes_sorted := sortBy_sorted _ _ }
  else .error "display_name must not be empty when provided"

theorem CollibraAssetSpec.create_ok {localId name assetTypeRef domainRef : String}
    {displayName : Option String} {attributes : List CollibraAttributeSpec} {a : CollibraAssetSpec}
    (h : create localId name assetTypeRef domainRef displayName attributes = .ok a) :
    a.localId = localId ∧ a.name = name ∧ a.assetTypeRef = assetTypeRef ∧
      a.domainRef = domainRef ∧ a.displayName = displayName ∧
      a.attributes = sortBy CollibraAttributeSpec.attributeTypeRef attributes := by
  obtain ⟨i, hi, h⟩ := bind_eq_ok.mp h
  obtain ⟨n, hn, h⟩ := bind_eq_ok.mp h
  obtain ⟨t, ht, h⟩ := bind_eq_ok.mp h
  obtain ⟨d, hd, h⟩ := bind_eq_ok.mp h
  split at h
  · cases pure_eq_ok.mp h
    exact ⟨requireNonEmpty_eq_ok hi, requireNonEmpty_eq_ok hn, requireNonEmpty_eq_ok ht,
      requireNonEmpty_eq_ok hd, rfl, rfl⟩
  · cases h

/-- Desired relationship between two local governance assets. -/
structure CollibraRelationshipSpec where
  localKey : String
  sourceLocalId : String
  targetLocalId : String
  relationTypeRef : String
  localKey_nonblank : isBlank localKey = false
  sourceLocalId_nonblank : isBlank sourceLocalId = false
  targetLocalId_nonblank : isBlank targetLocalId = false
  relationTypeRef_nonblank : isBlank relationTypeRef = false
  deriving DecidableEq

def CollibraRelationshipSpec.create (localKey sourceLocalId targetLocalId relationTypeRef : String) :
    Except String CollibraRelationshipSpec := do
  let key ← requireNonEmpty localKey "local_key"
  let source ← requireNonEmpty sourceLocalId "source_local_id"
  let target ← requireNonEmpty targetLocalId "target_local_id"
  let type ← requireNonEmpty relationTypeRef "relation_type_ref"
  return ⟨key.1, source.1, target.1, type.1, key.2, source.2, target.2, type.2⟩

theorem CollibraRelationshipSpec.create_ok
    {localKey sourceLocalId targetLocalId relationTypeRef : String} {r : CollibraRelationshipSpec}
    (h : create localKey sourceLocalId targetLocalId relationTypeRef = .ok r) :
    r.localKey = localKey ∧ r.sourceLocalId = sourceLocalId ∧ r.targetLocalId = targetLocalId ∧
      r.relationTypeRef = relationTypeRef := by
  obtain ⟨k, hk, h⟩ := bind_eq_ok.mp h
  obtain ⟨s, hs, h⟩ := bind_eq_ok.mp h
  obtain ⟨t, ht, h⟩ := bind_eq_ok.mp h
  obtain ⟨y, hy, h⟩ := bind_eq_ok.mp h
  cases pure_eq_ok.mp h
  exact ⟨requireNonEmpty_eq_ok hk, requireNonEmpty_eq_ok hs, requireNonEmpty_eq_ok ht,
    requireNonEmpty_eq_ok hy⟩

/-- Deterministic desired catalog state. -/
structure CollibraDesiredState where
  assets : List CollibraAssetSpec
  relationships : List CollibraRelationshipSpec
  assets_sorted : SortedBy CollibraAssetSpec.localId assets
  relationships_sorted : SortedBy CollibraRelationshipSpec.localKey relationships
  deriving DecidableEq

def CollibraDesiredState.create (assets : List CollibraAssetSpec)
    (relationships : List CollibraRelationshipSpec) : CollibraDesiredState :=
  ⟨sortBy CollibraAssetSpec.localId assets, sortBy CollibraRelationshipSpec.localKey relationships,
    sortBy_sorted _ _, sortBy_sorted _ _⟩

/-- Remote attribute value for a managed attribute type. -/
structure CollibraRemoteAttribute where
  attributeTypeRef : String
  value : String
  remoteAttributeId : Option String
  typeRef_nonblank : isBlank attributeTypeRef = false
  deriving DecidableEq

def CollibraRemoteAttribute.create (attributeTypeRef value : String)
    (remoteAttributeId : Option String) : Except String CollibraRemoteAttribute := do
  let ref ← requireNonEmpty attributeTypeRef "attribute_type_ref"
  return ⟨ref.1, value, remoteAttributeId, ref.2⟩

theorem CollibraRemoteAttribute.create_ok {attributeTypeRef value : String}
    {remoteAttributeId : Option String} {a : CollibraRemoteAttribute}
    (h : create attributeTypeRef value remoteAttributeId = .ok a) :
    a.attributeTypeRef = attributeTypeRef ∧ a.value = value := by
  obtain ⟨ref, href, h⟩ := bind_eq_ok.mp h
  cases pure_eq_ok.mp h
  exact ⟨requireNonEmpty_eq_ok href, rfl⟩

/-- Managed remote asset matched by its stable local_id attribute. -/
structure CollibraRemoteAsset where
  remoteId : String
  localId : String
  name : String
  assetTypeRef : String
  domainRef : String
  displayName : Option String
  managedAttributes : List CollibraRemoteAttribute
  remoteId_nonblank : isBlank remoteId = false
  localId_nonblank : isBlank localId = false
  name_nonblank : isBlank name = false
  assetTypeRef_nonblank : isBlank assetTypeRef = false
  domainRef_nonblank : isBlank domainRef = false
  attributes_sorted : SortedBy CollibraRemoteAttribute.attributeTypeRef managedAttributes
  deriving DecidableEq

def CollibraRemoteAsset.create (remoteId localId name assetTypeRef domainRef : String)
    (displayName : Option String) (managedAttributes : List CollibraRemoteAttribute) :
    Except String CollibraRemoteAsset := do
  let remoteId ← requireNonEmpty remoteId "remote_id"
  let localId ← requireNonEmpty localId "local_id"
  let name ← requireNonEmpty name "name"
  let assetTypeRef ← requireNonEmpty assetTypeRef "asset_type_ref"
  let domainRef ← requireNonEmpty domainRef "domain_ref"
  return {
    remoteId := remoteId.1, localId := localId.1, name := name.1
    assetTypeRef := assetTypeRef.1, domainRef := domainRef.1, displayName := displayName
    managedAttributes := sortBy CollibraRemoteAttribute.attributeTypeRef managedAttributes
    remoteId_nonblank := remoteId.2, localId_nonblank := localId.2, name_nonblank := name.2
    assetTypeRef_nonblank := assetTypeRef.2, domainRef_nonblank := domainRef.2
    attributes_sorted := sortBy_sorted _ _ }

theorem CollibraRemoteAsset.create_ok {remoteId localId name assetTypeRef domainRef : String}
    {displayName : Option String} {attributes : List CollibraRemoteAttribute}
    {r : CollibraRemoteAsset}
    (h : create remoteId localId name assetTypeRef domainRef displayName attributes = .ok r) :
    r.remoteId = remoteId ∧ r.localId = localId ∧ r.name = name ∧ r.displayName = displayName ∧
      r.managedAttributes = sortBy CollibraRemoteAttribute.attributeTypeRef attributes := by
  obtain ⟨i, hi, h⟩ := bind_eq_ok.mp h
  obtain ⟨l, hl, h⟩ := bind_eq_ok.mp h
  obtain ⟨n, hn, h⟩ := bind_eq_ok.mp h
  obtain ⟨t, ht, h⟩ := bind_eq_ok.mp h
  obtain ⟨d, hd, h⟩ := bind_eq_ok.mp h
  cases pure_eq_ok.mp h
  exact ⟨requireNonEmpty_eq_ok hi, requireNonEmpty_eq_ok hl, requireNonEmpty_eq_ok hn, rfl, rfl⟩

/-- Managed remote relationship between managed assets. -/
structure CollibraRemoteRelationship where
  remoteId : String
  sourceRemoteId : String
  targetRemoteId : String
  sourceLocalId : String
  targetLocalId : String
  relationTypeRef : String
  localKey : Option String
  remoteId_nonblank : isBlank remoteId = false
  sourceRemoteId_nonblank : isBlank sourceRemoteId = false
  targetRemoteId_nonblank : isBlank targetRemoteId = false
  sourceLocalId_nonblank : isBlank sourceLocalId = false
  targetLocalId_nonblank : isBlank targetLocalId = false
  relationTypeRef_nonblank : isBlank relationTypeRef = false
  deriving DecidableEq

def CollibraRemoteRelationship.create (remoteId sourceRemoteId targetRemoteId sourceLocalId
    targetLocalId relationTypeRef : String) (localKey : Option String) :
    Except String CollibraRemoteRelationship := do
  let remoteId ← requireNonEmpty remoteId "remote_id"
  let sourceRemoteId ← requireNonEmpty sourceRemoteId "source_remote_id"
  let targetRemoteId ← requireNonEmpty targetRemoteId "target_remote_id"
  let sourceLocalId ← requireNonEmpty sourceLocalId "source_local_id"
  let targetLocalId ← requireNonEmpty targetLocalId "target_local_id"
  let relationTypeRef ← requireNonEmpty relationTypeRef "relation_type_ref"
  return ⟨remoteId.1, sourceRemoteId.1, targetRemoteId.1, sourceLocalId.1, targetLocalId.1,
    relationTypeRef.1, localKey, remoteId.2, sourceRemoteId.2, targetRemoteId.2, sourceLocalId.2,
    targetLocalId.2, relationTypeRef.2⟩

/-- Order of remote relationships: a missing local key sorts as the empty string. -/
def remoteRelationshipSortKey (rel : CollibraRemoteRelationship) :
    String ×ₗ String ×ₗ String ×ₗ String ×ₗ String :=
  toLex (rel.localKey.getD "", toLex (rel.sourceLocalId, toLex (rel.targetLocalId,
    toLex (rel.relationTypeRef, rel.remoteId))))

/-- Remote state restricted to managed objects; unmanaged ones are only counted. -/
structure CollibraRemoteState where
  assets : List CollibraRemoteAsset
  relationships : List CollibraRemoteRelationship
  unmanagedAssetsIgnored : Nat
  unmanagedRelationshipsIgnored : Nat
  assets_sorted : SortedBy CollibraRemoteAsset.localId assets
  relationships_sorted : SortedBy remoteRelationshipSortKey relationships
  deriving DecidableEq

def CollibraRemoteState.create (assets : List CollibraRemoteAsset)
    (relationships : List CollibraRemoteRelationship)
    (unmanagedAssetsIgnored unmanagedRelationshipsIgnored : Nat) : CollibraRemoteState :=
  ⟨sortBy CollibraRemoteAsset.localId assets, sortBy remoteRelationshipSortKey relationships,
    unmanagedAssetsIgnored, unmanagedRelationshipsIgnored, sortBy_sorted _ _, sortBy_sorted _ _⟩

inductive SyncActionType where
  | create | update | unchanged | remoteOnly
  deriving DecidableEq, Repr

def SyncActionType.value : SyncActionType → String
  | .create => "create"
  | .update => "update"
  | .unchanged => "unchanged"
  | .remoteOnly => "remote_only"

inductive SyncObjectKind where
  | asset | relationship
  deriving DecidableEq, Repr

def SyncObjectKind.value : SyncObjectKind → String
  | .asset => "asset"
  | .relationship => "relationship"

/-- The constructor checks of a plan entry, in the order they are made. -/
def syncActionError (actionType : SyncActionType) (objectKind : SyncObjectKind)
    (remoteId : Option String) (desiredAsset : Option CollibraAssetSpec)
    (desiredRelationship : Option CollibraRelationshipSpec) : Option String :=
  if actionType = .remoteOnly ∧ remoteId.getD "" = "" then
    some "REMOTE_ONLY actions require remote_id"
  else if actionType = .create ∧ objectKind = .asset ∧ desiredAsset = none then
    some "CREATE asset actions require desired_asset"
  else if actionType = .create ∧ objectKind = .relationship ∧ desiredRelationship = none then
    some "CREATE relationship actions require desired_relationship"
  else if actionType = .update ∧ (remoteId = none ∨ desiredAsset = none) then
    some "UPDATE actions require remote_id and desired_asset"
  else none

theorem changedFields_sortBy (changedFields : List String) :
    SortedBy id (sortBy id changedFields) := sortBy_sorted _ _

/-- One deterministic plan entry. DELETE is intentionally unsupported. -/
structure SyncAction where
  actionType : SyncActionType
  objectKind : SyncObjectKind
  localId : Option String
  remoteId : Option String
  reason : String
  desiredAsset : Option CollibraAssetSpec
  desiredRelationship : Option CollibraRelationshipSpec
  changedFields : List String
  changedFields_sorted : SortedBy id changedFields
  accepted : syncActionError actionType objectKind remoteId desiredAsset desiredRelationship = none
  deriving DecidableEq

def SyncAction.construct (actionType : SyncActionType) (objectKind : SyncObjectKind)
    (localId remoteId : Option String) (reason : String) (desiredAsset : Option CollibraAssetSpec)
    (desiredRelationship : Option CollibraRelationshipSpec) (changedFields : List String) :
    Except String SyncAction :=
  match h : syncActionError actionType objectKind remoteId desiredAsset desiredRelationship with
  | some message => .error message
  | none => .ok ⟨actionType, objectKind, localId, remoteId, reason, desiredAsset,
      desiredRelationship, sortBy id changedFields, changedFields_sortBy changedFields, h⟩

theorem SyncAction.create_asset_isSome (a : SyncAction) (ht : a.actionType = .create)
    (hk : a.objectKind = .asset) : ∃ spec, a.desiredAsset = some spec := by
  have h := a.accepted
  rw [← Option.ne_none_iff_exists']
  intro hn
  simp [syncActionError, ht, hk, hn] at h

theorem SyncAction.create_relationship_isSome (a : SyncAction) (ht : a.actionType = .create)
    (hk : a.objectKind = .relationship) : ∃ spec, a.desiredRelationship = some spec := by
  have h := a.accepted
  rw [← Option.ne_none_iff_exists']
  intro hn
  simp [syncActionError, ht, hk, hn] at h

theorem SyncAction.update_isSome (a : SyncAction) (ht : a.actionType = .update) :
    ∃ spec remoteId, a.desiredAsset = some spec ∧ a.remoteId = some remoteId := by
  have h := a.accepted
  cases hs : a.desiredAsset with
  | none => simp [syncActionError, ht, hs] at h
  | some spec =>
    cases hr : a.remoteId with
    | none => simp [syncActionError, ht, hr] at h
    | some remoteId => exact ⟨spec, remoteId, rfl, rfl⟩

/-- `_sync_action_sort_key` -/
def syncActionSortKey (action : SyncAction) : String ×ₗ String ×ₗ String ×ₗ String :=
  toLex (action.actionType.value, toLex (action.objectKind.value,
    toLex (action.localId.getD "", action.remoteId.getD "")))

/-- Immutable, inspectable synchronization plan. Never includes DELETE. -/
structure SyncPlan where
  actions : List SyncAction
  actions_sorted : SortedBy syncActionSortKey actions
  deriving DecidableEq

namespace SyncPlan

def create (actions : List SyncAction) : SyncPlan :=
  ⟨sortBy syncActionSortKey actions, sortBy_sorted _ _⟩

theorem create_actions_perm (actions : List SyncAction) :
    (create actions).actions.Perm actions := sortBy_perm _ _

@[simp] theorem mem_create {actions : List SyncAction} {a : SyncAction} :
    a ∈ (create actions).actions ↔ a ∈ actions := mem_sortBy

def ofType (plan : SyncPlan) (t : SyncActionType) : List SyncAction :=
  plan.actions.filter (fun a => a.actionType = t)

def creates (plan : SyncPlan) : List SyncAction := plan.ofType .create
def updates (plan : SyncPlan) : List SyncAction := plan.ofType .update
def unchanged (plan : SyncPlan) : List SyncAction := plan.ofType .unchanged
def remoteOnly (plan : SyncPlan) : List SyncAction := plan.ofType .remoteOnly

end SyncPlan

/-- Outcome of a dry run or an apply against an explicit plan. -/
structure SyncResult where
  success : Bool
  dryRun : Bool
  appliedCount : Nat
  unchangedCount : Nat
  failedAction : Option SyncAction
  error : Option String
  plan : SyncPlan
  deriving DecidableEq

end CollibraGovernance.Collibra
