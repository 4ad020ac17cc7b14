import CollibraGovernance.Collibra.PlanJson
import CollibraGovernance.Plans.RemoteIdentity

/-! Writing the records of a plan: what is written is read back equal. -/
namespace CollibraGovernance.Collibra
open Library Plans

def CollibraAttributeSpec.toDict (a : CollibraAttributeSpec) : Json :=
  .obj [("attribute_type_ref", .str a.attributeTypeRef), ("value", .str a.value)]

def CollibraAssetSpec.toDict (a : CollibraAssetSpec) : Json :=
  .obj [("asset_type_ref", .str a.assetTypeRef),
    ("attributes", .arr (a.attributes.map CollibraAttributeSpec.toDict)), ("display_name", optStr a.displayName),
    ("domain_ref", .str a.domainRef), ("local_id", .str a.localId), ("name", .str a.name)]

def CollibraRelationshipSpec.toDict (r : CollibraRelationshipSpec) : Json :=
  .obj [("local_key", .str r.localKey), ("relation_type_ref", .str r.relationTypeRef),
    ("source_local_id", .str r.sourceLocalId), ("target_local_id", .str r.targetLocalId)]

def SyncAction.toDict (a : SyncAction) : Json :=
  .obj [("action_type", .str a.actionType.value), ("changed_fields", .arr (a.changedFields.map .str)),
    ("desired_asset", (a.desiredAsset.map CollibraAssetSpec.toDict).getD .null),
    ("desired_relationship", (a.desiredRelationship.map CollibraRelationshipSpec.toDict).getD .null),
    ("local_id", optStr a.localId), ("object_kind", .str a.objectKind.value), ("reason", .str a.reason),
    ("remote_id", optStr a.remoteId)]

def SyncPlan.toDict (p : SyncPlan) : Json := .obj [("actions", .arr (p.actions.map SyncAction.toDict))]

section Normalize

lemma CollibraAttributeSpec.normalize_toDict (a : CollibraAttributeSpec) : a.toDict.normalize = a.toDict := by
  have hkeys : SortedBy id ["attribute_type_ref", "value"] := by decide
  exact Json.normalize_obj_self hkeys (by simp)

lemma CollibraAssetSpec.normalize_toDict (a : CollibraAssetSpec) : a.toDict.normalize = a.toDict := by
  have hkeys : SortedBy id ["asset_type_ref", "attributes", "display_name", "domain_ref", "local_id", "name"] := by
    decide
  exact Json.normalize_obj_self hkeys (by simp [CollibraAttributeSpec.normalize_toDict])

lemma CollibraRelationshipSpec.normalize_toDict (r : CollibraRelationshipSpec) : r.toDict.normalize = r.toDict := by
  have hkeys : SortedBy id ["local_key", "relation_type_ref", "source_local_id", "target_local_id"] := by decide
  exact Json.normalize_obj_self hkeys (by simp)

/-- An action is written with its members in key order. -/
theorem SyncAction.normalize_toDict (a : SyncAction) : a.toDict.normalize = a.toDict := by
  have hkeys : SortedBy id ["action_type", "changed_fields", "desired_asset", "desired_relationship", "local_id",
    "object_kind", "reason", "remote_id"] := by decide
  have hasset : ((a.desiredAsset.map CollibraAssetSpec.toDict).getD .null).normalize =
      (a.desiredAsset.map CollibraAssetSpec.toDict).getD .null := by
    cases a.desiredAsset with
    | none => rfl
    | some spec => exact spec.normalize_toDict
  have hrelationship : ((a.desiredRelationship.map CollibraRelationshipSpec.toDict).getD .null).normalize =
      (a.desiredRelationship.map CollibraRelationshipSpec.toDict).getD .null := by
    cases a.desiredRelationship with
    | none => rfl
    | some spec => exact spec.normalize_toDict
  exact Json.normalize_obj_self hkeys (by simp [hasset, hrelationship])

end Normalize

section Read
variable (isPrintable : Char → Bool)

lemma CollibraAttributeSpec.fromDict_toDict (a : CollibraAttributeSpec) :
    CollibraAttributeSpec.fromDict isPrintable a.toDict = .ok a := by
  simp [toDict, fromDict, Json.asMapping, Json.item, Json.lookup, Json.pyStr, create, ok_bind,
    requireNonEmpty_ok _ a.typeRef_nonblank, pure, Except.pure]

lemma optionalStr_optStr (s : Option String) : optionalStr isPrintable (optStr s) = s := by
  cases s <;> rfl

theorem CollibraAssetSpec.fromDict_toDict (a : CollibraAssetSpec) :
    CollibraAssetSpec.fromDict isPrintable a.toDict = .ok a := by
  have hattributes : (a.attributes.map CollibraAttributeSpec.toDict).mapM
      (CollibraAttributeSpec.fromDict isPrintable) = .ok a.attributes :=
    mapM_map_eq_self (fun x _ => x.fromDict_toDict isPrintable)
  have hcreate : CollibraAssetSpec.create a.localId a.name a.assetTypeRef a.domainRef a.displayName a.attributes =
      .ok a := by
    simp [create, ok_bind, requireNonEmpty_ok _ a.localId_nonblank, requireNonEmpty_ok _ a.name_nonblank,
      requireNonEmpty_ok _ a.assetTypeRef_nonblank, requireNonEmpty_ok _ a.domainRef_nonblank,
      a.displayName_nonblank, sortBy_eq_self a.attributes_sorted, pure, Except.pure]
  cases hlisted : a.attributes with
  | nil =>
    rw [hlisted] at hcreate
    simp [toDict, fromDict, hlisted, Json.asMapping, Json.get, Json.item, Json.lookup, Json.pyStr, Json.truthy,
      optionalStr_optStr, ok_bind, hcreate, pure, Except.pure]
  | cons first rest =>
    rw [hlisted] at hcreate hattributes
    rw [List.map_cons] at hattributes
    simp [toDict, fromDict, hlisted, Json.asMapping, Json.asArray, Json.get, Json.item, Json.lookup, Json.pyStr,
      Json.truthy, optionalStr_optStr, ok_bind, hattributes, hcreate]

theorem CollibraRelationshipSpec.fromDict_toDict (r : CollibraRelationshipSpec) :
    CollibraRelationshipSpec.fromDict isPrintable r.toDict = .ok r := by
  simp [toDict, fromDict, Json.asMapping, Json.item, Json.lookup, Json.pyStr, create, ok_bind,
    requireNonEmpty_ok _ r.localKey_nonblank, requireNonEmpty_ok _ r.sourceLocalId_nonblank,
    requireNonEmpty_ok _ r.targetLocalId_nonblank, requireNonEmpty_ok _ r.relationTypeRef_nonblank, pure, Except.pure]

/-- An optional record is read back when the record is. -/
lemma optionalRecord_toDict {α : Type} {parse : Json → Except String α} {write : α → Json}
    (h : ∀ a, parse (write a) = .ok a) (hne : ∀ a, write a ≠ .null) (a : Option α) :
    optionalRecord parse ((a.map write).getD .null) = .ok a := by
  cases a with
  | none => rfl
  | some a =>
    have hrecord : optionalRecord parse (write a) = (parse (write a)).map some := by
      cases hwrite : write a with
      | null => exact absurd hwrite (hne a)
      | _ => rfl
    rw [Option.map_some, Option.getD_some, hrecord, h]
    rfl

lemma SyncAction.construct_self (a : SyncAction) : SyncAction.construct a.actionType a.objectKind a.localId a.remoteId
    a.reason a.desiredAsset a.desiredRelationship a.changedFields = .ok a := by
  obtain ⟨actionType, objectKind, localId, remoteId, reason, asset, relationship, fields, hsorted, haccepted⟩ := a
  simp only [construct]
  split
  · rename_i message herror
    rw [haccepted] at herror
    cases herror
  · simp only [sortBy_eq_self hsorted]

/-- Every action is read back as it was written. -/
theorem SyncAction.fromDict_toDict (a : SyncAction) : SyncAction.fromDict isPrintable a.toDict = .ok a := by
  have hasset : optionalRecord (CollibraAssetSpec.fromDict isPrintable)
      ((a.desiredAsset.map CollibraAssetSpec.toDict).getD .null) = .ok a.desiredAsset :=
    optionalRecord_toDict (CollibraAssetSpec.fromDict_toDict isPrintable) (by simp [CollibraAssetSpec.toDict]) _
  have hrelationship : optionalRecord (CollibraRelationshipSpec.fromDict isPrintable)
      ((a.desiredRelationship.map CollibraRelationshipSpec.toDict).getD .null) = .ok a.desiredRelationship :=
    optionalRecord_toDict (CollibraRelationshipSpec.fromDict_toDict isPrintable)
      (by simp [CollibraRelationshipSpec.toDict]) _
  have htype : Json.str a.actionType.value ≠ .str "delete" := by cases a.actionType <;> decide
  have hstr : ∀ s : String, (Json.str s).pyStr isPrintable = s := fun _ => rfl
  have hreason : (optionalStr isPrintable (.str a.reason)).getD "" = a.reason := rfl
  have hself := a.construct_self
  have hstrings : (a.changedFields.map Json.str).map (Json.pyStr isPrintable) = a.changedFields := by
    rw [List.map_map]
    exact List.map_id a.changedFields
  rw [toDict, fromDict]
  cases hlisted : a.changedFields with
  | nil =>
    rw [hlisted] at hself
    simp [Json.asMapping, ok_bind, Json.get, Json.lookup, htype, hstr, SyncActionType.parse_value,
      SyncObjectKind.parse_value, hasset, hrelationship, optionalStr_optStr, hreason, Json.truthy, hself]
  | cons first rest =>
    rw [hlisted] at hself hstrings
    rw [List.map_cons] at hstrings
    simp [Json.asMapping, ok_bind, Json.get, Json.lookup, htype, hstr, SyncActionType.parse_value,
      SyncObjectKind.parse_value, hasset, hrelationship, optionalStr_optStr, hreason, Json.truthy, Json.asArray,
      hstrings, hself]

/-- The actions of a plan are read back in their order. -/
theorem SyncPlan.fromDict_toDict (p : SyncPlan) : SyncPlan.fromDict isPrintable p.toDict = .ok p := by
  have hactions : (p.actions.map SyncAction.toDict).mapM (SyncAction.fromDict isPrintable) = .ok p.actions :=
    mapM_map_eq_self (fun a _ => a.fromDict_toDict isPrintable)
  obtain ⟨actions, hsorted⟩ := p
  have hcreate : SyncPlan.create actions = ⟨actions, hsorted⟩ := by
    rw [SyncPlan.create]
    congr 1
    exact sortBy_eq_self hsorted
  rw [toDict, fromDict]
  simp [Json.asMapping, Json.get, Json.asArray, ok_bind, hactions, hcreate, pure, Except.pure]

end Read
end CollibraGovernance.Collibra
