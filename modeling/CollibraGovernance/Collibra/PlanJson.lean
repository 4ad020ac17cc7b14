import CollibraGovernance.Collibra.Models
import CollibraGovernance.Library.PyJson

/-! Reading a saved plan back: the `from_dict` constructors. -/
namespace CollibraGovernance.Collibra
open Library

variable (isPrintable : Char → Bool)

def CollibraAttributeSpec.fromDict (payload : Json) : Except String CollibraAttributeSpec := do
  let mapping ← payload.asMapping "attribute payload must be a mapping"
  let ref ← Json.item mapping "attribute_type_ref"
  let value ← Json.item mapping "value"
  CollibraAttributeSpec.create (ref.pyStr isPrintable) (value.pyStr isPrintable)

/-- `None if value is None else str(value)` -/
def optionalStr : Json → Option String
  | .null => none
  | j => some (j.pyStr isPrintable)

def CollibraAssetSpec.fromDict (payload : Json) : Except String CollibraAssetSpec := do
  let mapping ← payload.asMapping "desired_asset payload must be a mapping"
  let raw := Json.get mapping "attributes"
  let attributesRaw ← if raw.truthy then raw.asArray "attributes must be an array" else .ok []
  let attributes ← attributesRaw.mapM (CollibraAttributeSpec.fromDict isPrintable)
  let localId ← Json.item mapping "local_id"
  let name ← Json.item mapping "name"
  let assetTypeRef ← Json.item mapping "asset_type_ref"
  let domainRef ← Json.item mapping "domain_ref"
  CollibraAssetSpec.create (localId.pyStr isPrintable) (name.pyStr isPrintable)
    (assetTypeRef.pyStr isPrintable) (domainRef.pyStr isPrintable)
    (optionalStr isPrintable (Json.get mapping "display_name")) attributes

def CollibraRelationshipSpec.fromDict (payload : Json) : Except String CollibraRelationshipSpec := do
  let mapping ← payload.asMapping "desired_relationship payload must be a mapping"
  let key ← Json.item mapping "local_key"
  let source ← Json.item mapping "source_local_id"
  let target ← Json.item mapping "target_local_id"
  let type ← Json.item mapping "relation_type_ref"
  CollibraRelationshipSpec.create (key.pyStr isPrintable) (source.pyStr isPrintable)
    (target.pyStr isPrintable) (type.pyStr isPrintable)

def SyncActionType.parse : String → Option SyncActionType
  | "create" => some .create
  | "update" => some .update
  | "unchanged" => some .unchanged
  | "remote_only" => some .remoteOnly
  | _ => none

def SyncObjectKind.parse : String → Option SyncObjectKind
  | "asset" => some .asset
  | "relationship" => some .relationship
  | _ => none

theorem SyncActionType.parse_value (t : SyncActionType) : SyncActionType.parse t.value = some t := by
  cases t <;> rfl

theorem SyncObjectKind.parse_value (k : SyncObjectKind) : SyncObjectKind.parse k.value = some k := by
  cases k <;> rfl

/-- An optional nested record. -/
def optionalRecord {α : Type} (parse : Json → Except String α) : Json → Except String (Option α)
  | .null => .ok none
  | j => (parse j).map some

def SyncAction.fromDict (payload : Json) : Except String SyncAction := do
  let mapping ← payload.asMapping "action payload must be a mapping"
  let typeRaw := Json.get mapping "action_type"
  if typeRaw = .str "delete" then .error "DELETE actions are unsupported"
  let some actionType := SyncActionType.parse (typeRaw.pyStr isPrintable)
    | .error ("unsupported action_type: " ++ typeRaw.pyStr isPrintable)
  let kindRaw := Json.get mapping "object_kind"
  let some objectKind := SyncObjectKind.parse (kindRaw.pyStr isPrintable)
    | .error ("unsupported object_kind: " ++ kindRaw.pyStr isPrintable)
  let changedRaw := Json.get mapping "changed_fields"
  let changedFields ←
    if changedRaw.truthy then changedRaw.asArray "changed_fields must be an array" else .ok []
  let desiredAsset ←
    optionalRecord (CollibraAssetSpec.fromDict isPrintable) (Json.get mapping "desired_asset")
  let desiredRelationship ←
    optionalRecord (CollibraRelationshipSpec.fromDict isPrintable)
      (Json.get mapping "desired_relationship")
  SyncAction.construct actionType objectKind
    (optionalStr isPrintable (Json.get mapping "local_id"))
    (optionalStr isPrintable (Json.get mapping "remote_id"))
    ((optionalStr isPrintable (Json.get mapping "reason")).getD "")
    desiredAsset desiredRelationship (changedFields.map (Json.pyStr isPrintable))

def SyncPlan.fromDict (payload : Json) : Except String SyncPlan := do
  let mapping ← payload.asMapping "plan payload must be a mapping"
  let actions ← (Json.get mapping "actions").asArray "actions must be an array"
  return SyncPlan.create (← actions.mapM (SyncAction.fromDict isPrintable))

end CollibraGovernance.Collibra
