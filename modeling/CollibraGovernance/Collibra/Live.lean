import CollibraGovernance.Collibra.Mock

/-! Adapter for the Core REST API, against a server that stores exactly what it accepted and lists
all of it in stored order. Responses appear after decoding. -/
namespace CollibraGovernance.Collibra
open Library

structure LiveAsset where
  id : String
  name : String
  displayName : Option String
  typeId : String
  domainId : String
  deriving DecidableEq

structure LiveAttribute where
  id : String
  assetId : String
  typeId : String
  value : String
  deriving DecidableEq

structure LiveRelation where
  id : String
  sourceId : String
  targetId : String
  typeId : String
  deriving DecidableEq

structure LiveServer where
  assets : List LiveAsset
  attributes : List LiveAttribute
  relations : List LiveRelation
  deriving DecidableEq

/-- Every id the server has handed out or refers to. -/
def LiveServer.ids (s : LiveServer) : List String :=
  s.assets.map LiveAsset.id ++ s.attributes.map LiveAttribute.id ++
    s.attributes.map LiveAttribute.assetId ++ s.relations.map LiveRelation.id

/-- How the server numbers new records: never with a blank id or one in use. -/
structure IdSource where
  pick : List String → String
  fresh : ∀ used, pick used ∉ used
  nonblank : ∀ used, isBlank (pick used) = false

/-- The server, the create-path calls that will still succeed (`none`: all of them), and the assets
posted so far, each with the local id it was posted for. -/
structure LiveSession where
  server : LiveServer
  remaining : Option Nat
  posted : List (String × String)
  deriving DecidableEq

namespace LiveCollibraAdapter

def defaultPageSize : Nat := 100
def maxPaginationPages : Nat := 10000

/-- `_paginate`: every page until a short one, within the hard page bound. -/
def paginate {α : Type} (path : String) (results : List α) : Except CollibraAdapterError (List α) :=
  if results.length / defaultPageSize + 1 > maxPaginationPages then
    .error ⟨"pagination exceeded hard page bound", "get", none, some path, some "core_rest", none,
      none⟩
  else .ok results

section Read
variable (config : CollibraMappingConfig) (s : LiveServer)

/-- `sorted(set(refs))` -/
def sortedRefs (refs : List String) : List String := sortBy id refs.dedup

/-- `_list_assets_in_scope` -/
def listAssetsInScope : Except CollibraAdapterError (List LiveAsset) := do
  let pages ← (sortedRefs config.assetTypeRefs.values).mapM (fun type =>
    paginate "/rest/2.0/assets"
      (s.assets.filter (fun a => a.domainId = config.domainRef ∧ a.typeId = type)))
  return sortBy LiveAsset.id pages.flatten

/-- One listed attribute, when it belongs to the asset and has a managed type. -/
def readAttribute (assetId : String) (item : LiveAttribute) : Option CollibraRemoteAttribute :=
  if item.assetId ≠ assetId then none
  else if h : item.typeId ∈ config.attributeTypeRefs.values then
    some ⟨item.typeId, item.value, if item.id = "" then none else some item.id,
      config.attributeTypeRefs_nonblank _ h⟩
  else none

/-- `_list_managed_attributes_for_asset`: the last listed attribute of a type wins. -/
def listManagedAttributesForAsset (assetId : String) :
    Except CollibraAdapterError (Dict String CollibraRemoteAttribute) := do
  let results ← paginate "/rest/2.0/attributes" (s.attributes.filter (fun a =>
    a.assetId = assetId ∧ a.typeId ∈ config.attributeTypeRefs.values))
  return Dict.index CollibraRemoteAttribute.attributeTypeRef id
    (results.filterMap (readAttribute config assetId))

/-- `_optional_str` -/
def optionalStr (value : Option String) : Option String := value.filter (fun v => !isBlank v)

/-- One candidate: managed when its local id attribute is not blank. -/
def readAsset (item : LiveAsset) : Except ReadError (Option CollibraRemoteAsset) := do
  let attributes ← (listManagedAttributesForAsset config s item.id).mapError .adapter
  match attributes.get? config.attributeTypeRefs.localId with
  | none => return none
  | some localAttribute =>
    if isBlank localAttribute.value then return none
    else
      let asset ← (CollibraRemoteAsset.create item.id localAttribute.value item.name item.typeId
        item.domainId (optionalStr item.displayName)
        (sortBy CollibraRemoteAttribute.attributeTypeRef attributes.values)).mapError .value
      return some asset

def isCandidate (item : LiveAsset) : Bool :=
  item.id ≠ "" ∧ item.domainId = config.domainRef ∧ item.typeId ∈ config.assetTypeRefs.values

/-- Accumulators of the relation listing: kept items, skipped ones and the ids seen. -/
structure RelationListing where
  collected : List LiveRelation
  unmanaged : Nat
  seen : List String

def keepRelation (acc : RelationListing) (item : LiveRelation) : RelationListing :=
  if item.id ∈ acc.seen then acc
  else { acc with collected := acc.collected ++ [item], seen := acc.seen ++ [item.id] }

/-- `_list_relations_for_managed_sources` -/
def listRelationsForManagedSources (managedRemoteIds : List String) :
    Except CollibraAdapterError RelationListing := do
  let queries := (sortedRefs managedRemoteIds).flatMap (fun source =>
    (sortedRefs config.relationTypeRefs.values).map (fun type => (source, type)))
  let pages ← queries.mapM (fun q => paginate "/rest/2.0/relations"
    (s.relations.filter (fun r => r.sourceId = q.1 ∧ r.typeId = q.2)))
  let listing := pages.flatten.foldl keepRelation ⟨[], 0, []⟩
  return { listing with collected := sortBy LiveRelation.id listing.collected }

def readRelation (remoteToLocal : Dict String String) (item : LiveRelation) :
    Except ReadError (Option CollibraRemoteRelationship) :=
  if item.id = "" ∨ item.typeId ∉ config.relationTypeRefs.values then .ok none
  else
    match remoteToLocal.get? item.sourceId, remoteToLocal.get? item.targetId with
    | some source, some target => do
      let rel ← (CollibraRemoteRelationship.create item.id item.sourceId item.targetId source target
        item.typeId none).mapError .value
      return some rel
    | _, _ => .ok none

/-- `read_remote_state` -/
def readRemoteState : Except ReadError CollibraRemoteState := do
  let rawAssets ← (listAssetsInScope config s).mapError .adapter
  let candidates := rawAssets.filter (isCandidate config)
  let read ← candidates.mapM (readAsset config s)
  let managed := read.filterMap id
  let remoteToLocal := Dict.index CollibraRemoteAsset.remoteId CollibraRemoteAsset.localId managed
  let listing ← (listRelationsForManagedSources config s remoteToLocal.keys).mapError .adapter
  let relations ← listing.collected.mapM (readRelation config remoteToLocal)
  return CollibraRemoteState.create managed (relations.filterMap id)
    (rawAssets.length - managed.length)
    (listing.unmanaged + relations.countP Option.isNone)

end Read

section Write
variable (config : CollibraMappingConfig) (ids : IdSource) (fault : CollibraAdapterError)

/-- One call on the create path, which may be the one that fails. -/
def LiveSession.spend (s : LiveSession) : Option LiveSession :=
  match s.remaining with
  | none => some s
  | some 0 => none
  | some (n + 1) => some { s with remaining := some n }

/-- `POST /attributes` as the server carries it out. -/
def postAttribute (server : LiveServer) (assetId typeId value : String) : LiveServer :=
  { server with
    attributes := server.attributes ++ [⟨ids.pick server.ids, assetId, typeId, value⟩] }

/-- The attribute posts of a new asset, in order, up to a failing one. -/
def createAttributes (remoteId : String) :
    List CollibraAttributeSpec → Call LiveSession Unit
  | [], s => (.ok (), s)
  | a :: rest, s =>
    match LiveSession.spend s with
    | none => (.error fault, s)
    | some s => createAttributes remoteId rest
        { s with server := postAttribute ids s.server remoteId a.attributeTypeRef a.value }

/-- `create_asset`: the asset first, then its attributes one by one. -/
def createAsset (asset : CollibraAssetSpec) : Call LiveSession String := fun s =>
  match LiveSession.spend s with
  | none => (.error fault, s)
  | some s =>
    let remoteId := ids.pick s.server.ids
    let posted : LiveSession := { s with
      server := { s.server with assets := s.server.assets ++
        [⟨remoteId, asset.name, asset.displayName, asset.assetTypeRef, asset.domainRef⟩] }
      posted := s.posted ++ [(asset.localId, remoteId)] }
    match createAttributes ids fault remoteId asset.attributes posted with
    | (.ok _, s) => (.ok remoteId, s)
    | (.error e, s) => (.error e, s)

/-- `PATCH /assets/{id}` -/
def patchAsset (server : LiveServer) (remoteId : String) (name displayName : Option String) :
    Except CollibraAdapterError LiveServer :=
  if server.assets.any (fun a => a.id = remoteId) then
    .ok { server with assets := server.assets.map (fun a =>
      if a.id = remoteId then { a with
        name := name.getD a.name, displayName := displayName <|> a.displayName } else a) }
  else .error ⟨"Collibra API request failed", "patch", some 404,
    some ("/rest/2.0/assets/" ++ remoteId), none, none, none⟩

/-- `PATCH /attributes/{id}` -/
def patchAttribute (server : LiveServer) (attributeId value : String) : LiveServer :=
  { server with attributes := server.attributes.map (fun a =>
    if a.id = attributeId then { a with value := value } else a) }

/-- One attribute of `update_asset`, compared with what the asset had before the update. -/
def updateAttribute (remoteId : String) (existing : Dict String CollibraRemoteAttribute)
    (a : CollibraAttributeSpec) (server : LiveServer) : Except CollibraAdapterError LiveServer :=
  if a.attributeTypeRef ∉ config.attributeTypeRefs.values then .ok server
  else
    match existing.get? a.attributeTypeRef with
    | none => .ok (postAttribute ids server remoteId a.attributeTypeRef a.value)
    | some current =>
      if current.value = a.value then .ok server
      else
        match current.remoteAttributeId with
        | none => .error (adapterError "managed attribute missing remote id for patch"
            "update_asset" "/rest/2.0/attributes")
        | some attributeId => .ok (patchAttribute server attributeId a.value)

def updateAttributes (remoteId : String) (existing : Dict String CollibraRemoteAttribute) :
    List CollibraAttributeSpec → LiveServer → Except CollibraAdapterError Unit × LiveServer
  | [], server => (.ok (), server)
  | a :: rest, server =>
    match updateAttribute config ids remoteId existing a server with
    | .error e => (.error e, server)
    | .ok server => updateAttributes remoteId existing rest server

/-- The name half of `update_asset`; nothing is sent when there is nothing to patch. -/
def updateNames (remoteId : String) (asset : CollibraAssetSpec) (patchName patchDisplayName : Bool)
    (server : LiveServer) : Except CollibraAdapterError LiveServer :=
  let name := if patchName then some asset.name else none
  let displayName := if patchDisplayName then asset.displayName else none
  if name = none ∧ displayName = none then .ok server
  else patchAsset server remoteId name displayName

/-- `update_asset` -/
def updateAsset (remoteId : String) (asset : CollibraAssetSpec)
    (patchName patchDisplayName : Bool) : Call LiveSession Unit := fun s =>
  match updateNames remoteId asset patchName patchDisplayName s.server with
  | .error e => (.error e, s)
  | .ok server =>
    match listManagedAttributesForAsset config server remoteId with
    | .error e => (.error e, { s with server := server })
    | .ok existing =>
      match updateAttributes config ids remoteId existing asset.attributes server with
      | (result, server) => (result, { s with server := server })

/-- `create_relationship` -/
def createRelationship (rel : CollibraRelationshipSpec) (source target : String) :
    Call LiveSession String := fun s =>
  let remoteId := ids.pick s.server.ids
  (.ok remoteId, { s with server := { s.server with relations := s.server.relations ++
    [⟨remoteId, source, target, rel.relationTypeRef⟩] } })

end Write

/-- The mutating half of the live adapter, for the executor; `fault` is what a failing call on the
create path raises. -/
def adapter (config : CollibraMappingConfig) (ids : IdSource) (fault : CollibraAdapterError) :
    CollibraAdapter LiveSession where
  createAsset := createAsset ids fault
  updateAsset := updateAsset config ids
  createRelationship := createRelationship ids

end LiveCollibraAdapter
end CollibraGovernance.Collibra
