import CollibraGovernance.Collibra.Execute
import CollibraGovernance.Collibra.Mapping
import CollibraGovernance.Library.PyJson

/-! In-process adapter for local demonstration: two dictionaries keyed by remote id. -/
namespace CollibraGovernance.Collibra
open Library

/-- Text of a 128-bit identifier: hexadecimal digits in groups of 8, 4, 4, 4 and 12. -/
def uuidText (u : BitVec 128) : String :=
  let digits := hexDigits 32 u.toNat
  String.ofList (digits.take 8 ++ '-' :: (digits.drop 8).take 4 ++ '-' :: (digits.drop 12).take 4 ++
    '-' :: (digits.drop 16).take 4 ++ '-' :: digits.drop 20)

theorem uuidText_nonblank (u : BitVec 128) : isBlank (uuidText u) = false := by
  rw [isBlank, List.all_eq_false]
  exact ⟨'-', by simp [uuidText], by decide⟩

/-- One stored attribute; the dictionary that holds it is keyed by its type. -/
structure StoredAttribute where
  value : String
  remoteAttributeId : String
  deriving DecidableEq

/-- One stored asset; the dictionary that holds it is keyed by its remote id. -/
structure StoredAsset where
  name : String
  displayName : Option String
  assetTypeRef : String
  domainRef : String
  attributes : Dict String StoredAttribute

structure StoredRelationship where
  sourceRemoteId : String
  targetRemoteId : String
  relationTypeRef : String
  localKey : Option String
  deriving DecidableEq

/-- State of the adapter: the two stores, the injected failure and the id counters. -/
structure MockStore where
  assets : Dict String StoredAsset
  relationships : Dict String StoredRelationship
  failNext : Option String
  attrSeq : Nat
  relSeq : Nat

/-- What stops a read: the transport, or a record that its constructor refuses. -/
inductive ReadError where
  | adapter (error : CollibraAdapterError)
  | value (message : String)
  deriving DecidableEq

namespace MockCollibraAdapter

/-- `_maybe_fail` -/
def maybeFail (operation : String) : Call MockStore Unit := fun s =>
  if s.failNext = some operation then
    (.error (adapterError "injected mock failure" operation ("/mock/" ++ operation)),
      { s with failNext := none })
  else (.ok (), s)

/-- `_next_attr_id` at a given counter value. -/
def attrId (seq : Nat) (remoteId attributeTypeRef : String) : String :=
  "mock-attr-" ++ toString seq ++ ":" ++ remoteId ++ ":" ++ attributeTypeRef

/-- The id the counter gives to a new relationship. -/
def relId (seq : Nat) : String := "mock-rel-" ++ toString seq

section Read
variable (config : CollibraMappingConfig)

/-- The local id under which an asset is managed: right domain, managed type, and a local id
attribute that is not blank. -/
def managedLocalId (asset : StoredAsset) : Option String :=
  if asset.domainRef ≠ config.domainRef then none
  else if asset.assetTypeRef ∉ config.assetTypeRefs.values then none
  else ((asset.attributes.get? config.attributeTypeRefs.localId).map StoredAttribute.value).filter
    (fun value => !isBlank value)

/-- `remote_to_local.get` -/
def remoteToLocal (s : MockStore) (remoteId : String) : Option String :=
  (s.assets.get? remoteId).bind (managedLocalId config)

/-- `_relationship_key` of a stored relationship, when it is managed. -/
def managedKey (s : MockStore) (rel : StoredRelationship) : Option (String × String × String) :=
  if rel.relationTypeRef ∉ config.relationTypeRefs.values then none
  else
    match remoteToLocal config s rel.sourceRemoteId, remoteToLocal config s rel.targetRemoteId with
    | some source, some target => some (source, target, rel.relationTypeRef)
    | _, _ => none

def readAttribute (e : String × StoredAttribute) : Except String CollibraRemoteAttribute :=
  CollibraRemoteAttribute.create e.1 e.2.value (some e.2.remoteAttributeId)

/-- The stored attributes of managed types, in type order. -/
def managedAttributes (asset : StoredAsset) : List (String × StoredAttribute) :=
  (sortBy Prod.fst asset.attributes.entries).filter
    (fun e => e.1 ∈ config.attributeTypeRefs.values)

def readAsset (e : String × StoredAsset × String) : Except String CollibraRemoteAsset := do
  let attributes ← (managedAttributes config e.2.1).mapM readAttribute
  CollibraRemoteAsset.create e.1 e.2.2 e.2.1.name e.2.1.assetTypeRef e.2.1.domainRef
    e.2.1.displayName attributes

def readRelationship (e : String × StoredRelationship × String × String × String) :
    Except String CollibraRemoteRelationship :=
  CollibraRemoteRelationship.create e.1 e.2.1.sourceRemoteId e.2.1.targetRemoteId e.2.2.1 e.2.2.2.1
    e.2.1.relationTypeRef e.2.1.localKey

def managedAssets (s : MockStore) : List (String × StoredAsset × String) :=
  s.assets.entries.filterMap (fun e => (managedLocalId config e.2).map (fun l => (e.1, e.2, l)))

def managedRelationships (s : MockStore) :
    List (String × StoredRelationship × String × String × String) :=
  s.relationships.entries.filterMap (fun e => (managedKey config s e.2).map (fun k => (e.1, e.2, k)))

/-- The managed part of the store, as the planner sees it. -/
def readStore (s : MockStore) : Except String CollibraRemoteState := do
  let assets ← (managedAssets config s).mapM (readAsset config)
  let relationships ← (managedRelationships config s).mapM readRelationship
  return CollibraRemoteState.create assets relationships
    (s.assets.entries.countP (fun e => (managedLocalId config e.2).isNone))
    (s.relationships.entries.countP (fun e => (managedKey config s e.2).isNone))

/-- `read_remote_state` -/
def readRemoteState (s : MockStore) : Except ReadError CollibraRemoteState × MockStore :=
  match maybeFail "read_remote_state" s with
  | (.error e, s) => (.error (.adapter e), s)
  | (.ok _, s) =>
    match readStore config s with
    | .error message => (.error (.value message), s)
    | .ok remote => (.ok remote, s)

end Read

section Write
variable (config : CollibraMappingConfig) (uuid5 : String → BitVec 128)

/-- `mock_remote_id`; the name is hashed within the URL namespace. -/
def mockRemoteId (localId : String) : String := uuidText (uuid5 ("mock-collibra:" ++ localId))

/-- Store every attribute of a new asset, numbering them on. -/
def storeAttributes (remoteId : String) (attributes : List CollibraAttributeSpec) (seq : Nat) :
    Dict String StoredAttribute × Nat :=
  attributes.foldl (fun acc a =>
    (acc.1.set a.attributeTypeRef ⟨a.value, attrId (acc.2 + 1) remoteId a.attributeTypeRef⟩,
      acc.2 + 1))
    (Dict.empty, seq)

/-- `create_asset` -/
def createAsset (asset : CollibraAssetSpec) : Call MockStore String := fun s =>
  match maybeFail "create_asset" s with
  | (.error e, s) => (.error e, s)
  | (.ok _, s) =>
    let remoteId := mockRemoteId uuid5 asset.localId
    if s.assets.contains remoteId then
      (.error (adapterError "mock asset already exists" "create_asset" "/mock/assets"), s)
    else
      let stored := storeAttributes remoteId asset.attributes s.attrSeq
      (.ok remoteId, { s with
        assets := s.assets.set remoteId
          ⟨asset.name, asset.displayName, asset.assetTypeRef, asset.domainRef, stored.1⟩
        attrSeq := stored.2 })

/-- Write one desired attribute over a stored asset; unmanaged types are left alone. -/
def mergeAttribute (remoteId : String) (acc : Dict String StoredAttribute × Nat)
    (a : CollibraAttributeSpec) : Dict String StoredAttribute × Nat :=
  if a.attributeTypeRef ∉ config.attributeTypeRefs.values then acc
  else
    match acc.1.get? a.attributeTypeRef with
    | none =>
      (acc.1.set a.attributeTypeRef ⟨a.value, attrId (acc.2 + 1) remoteId a.attributeTypeRef⟩,
        acc.2 + 1)
    | some existing =>
      if existing.value ≠ a.value then
        (acc.1.set a.attributeTypeRef { existing with value := a.value }, acc.2)
      else acc

/-- `update_asset` -/
def updateAsset (remoteId : String) (asset : CollibraAssetSpec)
    (patchName patchDisplayName : Bool) : Call MockStore Unit := fun s =>
  match maybeFail "update_asset" s with
  | (.error e, s) => (.error e, s)
  | (.ok _, s) =>
    match s.assets.get? remoteId with
    | none =>
      (.error (adapterError "mock asset not found" "update_asset" ("/mock/assets/" ++ remoteId)), s)
    | some stored =>
      let merged := asset.attributes.foldl (mergeAttribute config remoteId)
        (stored.attributes, s.attrSeq)
      (.ok (), { s with
        assets := s.assets.set remoteId { stored with
          name := if patchName then asset.name else stored.name
          displayName := if patchDisplayName then asset.displayName else stored.displayName
          attributes := merged.1 }
        attrSeq := merged.2 })

/-- `create_relationship` -/
def createRelationship (rel : CollibraRelationshipSpec) (source target : String) :
    Call MockStore String := fun s =>
  match maybeFail "create_relationship" s with
  | (.error e, s) => (.error e, s)
  | (.ok _, s) =>
    if ¬ s.assets.contains source ∨ ¬ s.assets.contains target then
      (.error (adapterError "mock relationship endpoints missing" "create_relationship"
        "/mock/relations"), s)
    else
      (.ok (relId s.relSeq), { s with
        relationships := s.relationships.set (relId s.relSeq)
          ⟨source, target, rel.relationTypeRef, some rel.localKey⟩
        relSeq := s.relSeq + 1 })

end Write

/-- The mutating half of the mock, for the executor. -/
def adapter (config : CollibraMappingConfig) (uuid5 : String → BitVec 128) :
    CollibraAdapter MockStore where
  createAsset := createAsset uuid5
  updateAsset := updateAsset config
  createRelationship := createRelationship

end MockCollibraAdapter
end CollibraGovernance.Collibra
