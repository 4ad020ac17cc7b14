import Mathlib.Algebra.Group.Int.Defs
import CollibraGovernance.Library.Refusal
import CollibraGovernance.Plans.SavedPlan

/-! Which documents make the plan loader stop with an exception that is none of its own. -/
namespace CollibraGovernance.Plans
open Library Identity Domain Collibra

/-- One of the keys is missing. -/
def LacksKey (keys : List String) (members : List (String × Json)) : Prop :=
  ∃ key ∈ keys, key ∉ members.map Prod.fst

/-- The errors that are not caught around the reading of the actions. -/
def IsKeyError (message : String) : Prop := "KeyError".toList.isPrefixOf message.toList = true

instance (message : String) : Decidable (IsKeyError message) := inferInstanceAs (Decidable (_ = true))

section Fields

lemma isKeyError_append (key : String) : IsKeyError ("KeyError: " ++ key) := by
  unfold IsKeyError
  rw [String.toList_append]
  rfl

lemma not_isKeyError_unsupported (what : String) :
    ¬ IsKeyError ("unsupported action_type: " ++ what) ∧ ¬ IsKeyError ("unsupported object_kind: " ++ what) := by
  unfold IsKeyError
  rw [String.toList_append, String.toList_append]
  constructor <;> exact Bool.false_ne_true

lemma fails_item {members : List (String × Json)} {key : String} :
    Fails IsKeyError (Json.item members key) ↔ key ∉ members.map Prod.fst := by
  rw [← Json.isSome_lookup]
  unfold Json.item
  cases Json.lookup members key with
  | none => simp [isKeyError_append]
  | some j => simp

lemma item_ok {members : List (String × Json)} {key : String} :
    (∃ j, Json.item members key = .ok j) ↔ key ∈ members.map Prod.fst := by
  rw [← Json.isSome_lookup]
  unfold Json.item
  cases Json.lookup members key <;> simp

lemma fails_asArray {j : Json} {message : String} (h : ¬ IsKeyError message) :
    ¬ Fails IsKeyError (j.asArray message) := by
  cases j <;> simp [Json.asArray, h]

lemma fails_requireNonEmpty {value fieldName : String} (h : ¬ IsKeyError (fieldName ++ " is required")) :
    ¬ Fails IsKeyError (requireNonEmpty value fieldName) := by
  unfold requireNonEmpty
  split_ifs <;> simp [h]

@[simp] lemma not_lacksKey_nil {members : List (String × Json)} : ¬ LacksKey [] members := by
  rintro ⟨key, hkey, -⟩
  cases hkey

/-- Members that are looked up one after the other stop the reading when one of them is missing. -/
lemma fails_items {α : Type} {members : List (String × Json)} {key : String} {rest : List String}
    {next : Json → Except String α} (h : ∀ j, Fails IsKeyError (next j) ↔ LacksKey rest members) :
    Fails IsKeyError (Json.item members key >>= next) ↔ LacksKey (key :: rest) members := by
  rw [fails_bind, fails_item]
  simp only [h, exists_and_right, item_ok, LacksKey, List.exists_mem_cons_iff]
  tauto

end Fields

/-- `raw or []`, which has to be an array. -/
def listed (raw : Json) (message : String) : Except String (List Json) :=
  if raw.truthy then raw.asArray message else .ok []

/-- The items that are read of an optional array: none for a value that counts as false. -/
def Listed (raw : Json) (items : List Json) : Prop :=
  (raw.truthy = true ∧ raw = .arr items) ∨ (raw.truthy = false ∧ items = [])

lemma listed_ok {raw : Json} {message : String} {items : List Json} :
    listed raw message = .ok items ↔ Listed raw items := by
  unfold listed Listed
  cases htruthy : raw.truthy with
  | false => simp [eq_comm]
  | true => cases raw <;> simp [Json.asArray]

lemma fails_listed {raw : Json} {message : String} (h : ¬ IsKeyError message) :
    ¬ Fails IsKeyError (listed raw message) := by
  unfold listed
  rw [fails_ite]
  rintro (⟨-, hfails⟩ | ⟨-, hfails⟩)
  · exact fails_asArray h hfails
  · exact not_fails_ok hfails

section Records
variable (isPrintable : Char → Bool)

/-- An attribute that is a mapping without its type or its value. -/
def AttributeFault (j : Json) : Prop :=
  ∃ members, j = .obj members ∧ LacksKey ["attribute_type_ref", "value"] members

/-- An asset whose first unreadable attribute lacks a key, or which lacks one itself. -/
def AssetFault (j : Json) : Prop :=
  ∃ members items, j = .obj members ∧ Listed (Json.get members "attributes") items ∧
    (FirstFault (CollibraAttributeSpec.fromDict isPrintable) AttributeFault items ∨
      ((∃ attributes, items.mapM (CollibraAttributeSpec.fromDict isPrintable) = .ok attributes) ∧
        LacksKey ["local_id", "name", "asset_type_ref", "domain_ref"] members))

def RelationshipFault (j : Json) : Prop :=
  ∃ members, j = .obj members ∧
    LacksKey ["local_key", "source_local_id", "target_local_id", "relation_type_ref"] members

/-- A plan entry of a known type and kind whose first unreadable record lacks a key. -/
def ActionFault (j : Json) : Prop :=
  ∃ members, j = .obj members ∧
    (SyncActionType.parse ((Json.get members "action_type").pyStr isPrintable)).isSome = true ∧
    (SyncObjectKind.parse ((Json.get members "object_kind").pyStr isPrintable)).isSome = true ∧
    (∃ items, Listed (Json.get members "changed_fields") items) ∧
    (AssetFault isPrintable (Json.get members "desired_asset") ∨
      ((∃ asset, optionalRecord (CollibraAssetSpec.fromDict isPrintable) (Json.get members "desired_asset") =
          .ok asset) ∧
        RelationshipFault (Json.get members "desired_relationship")))

lemma fails_attribute {j : Json} :
    Fails IsKeyError (CollibraAttributeSpec.fromDict isPrintable j) ↔ AttributeFault j := by
  unfold CollibraAttributeSpec.fromDict
  rw [fails_bind]
  cases j with
  | obj members =>
    simp only [Json.asMapping, not_fails_ok, false_or, Except.ok.injEq, exists_eq_left', AttributeFault, Json.obj.injEq]
    refine fails_items (fun ref => fails_items (fun value => iff_of_false ?_ not_lacksKey_nil))
    unfold CollibraAttributeSpec.create
    rw [fails_bind]
    rintro (h | ⟨_, _, h⟩)
    · exact fails_requireNonEmpty (by decide) h
    · exact not_fails_pure h
  | _ =>
    simp only [Json.asMapping, AttributeFault, fails_error, reduceCtorEq, false_and, exists_false, or_false, iff_false]
    decide

lemma fails_asset_create {localId name assetTypeRef domainRef : String} {displayName : Option String}
    {attributes : List CollibraAttributeSpec} :
    ¬ Fails IsKeyError (CollibraAssetSpec.create localId name assetTypeRef domainRef displayName attributes) := by
  unfold CollibraAssetSpec.create
  simp only [fails_bind]
  rintro (h | ⟨_, _, h | ⟨_, _, h | ⟨_, _, h | ⟨_, _, h⟩⟩⟩⟩)
  · exact fails_requireNonEmpty (by decide) h
  · exact fails_requireNonEmpty (by decide) h
  · exact fails_requireNonEmpty (by decide) h
  · exact fails_requireNonEmpty (by decide) h
  · split_ifs at h
    · exact not_fails_pure h
    · rw [fails_error] at h
      exact absurd h (by decide)

lemma asset_fromDict_obj (members : List (String × Json)) :
    CollibraAssetSpec.fromDict isPrintable (.obj members) =
      (listed (Json.get members "attributes") "attributes must be an array" >>= fun items =>
        items.mapM (CollibraAttributeSpec.fromDict isPrintable) >>= fun attributes =>
        Json.item members "local_id" >>= fun localId => Json.item members "name" >>= fun name =>
        Json.item members "asset_type_ref" >>= fun assetTypeRef => Json.item members "domain_ref" >>= fun domainRef =>
        CollibraAssetSpec.create (localId.pyStr isPrintable) (name.pyStr isPrintable)
          (assetTypeRef.pyStr isPrintable) (domainRef.pyStr isPrintable)
          (optionalStr isPrintable (Json.get members "display_name")) attributes) := by
  unfold CollibraAssetSpec.fromDict listed
  simp only [Json.asMapping, ok_bind]
  split_ifs <;> rfl

lemma fails_asset {j : Json} :
    Fails IsKeyError (CollibraAssetSpec.fromDict isPrintable j) ↔ AssetFault isPrintable j := by
  cases j with
  | obj members =>
    have hlisted : ∀ raw, ¬ Fails IsKeyError (listed raw "attributes must be an array") := fun raw =>
      fails_listed (by decide)
    rw [asset_fromDict_obj, fails_bind]
    simp only [hlisted, false_or, listed_ok, AssetFault,
      Json.obj.injEq, exists_and_left, exists_eq_left']
    apply exists_congr
    intro items
    apply and_congr_right
    intro _
    rw [fails_bind, fails_mapM, firstFault_congr (fun _ => fails_attribute isPrintable)]
    apply or_congr Iff.rfl
    rw [← exists_and_right]
    apply exists_congr
    intro attributes
    apply and_congr_right
    intro _
    exact fails_items fun _ => fails_items fun _ => fails_items fun _ => fails_items fun _ =>
      iff_of_false fails_asset_create not_lacksKey_nil
  | _ =>
    refine iff_of_false ?_ (by rintro ⟨_, _, h, -⟩; cases h)
    unfold CollibraAssetSpec.fromDict
    rw [fails_bind]
    rintro (h | ⟨_, h, -⟩)
    · exact absurd (fails_error.mp h) (by decide)
    · cases h

lemma fails_relationship {j : Json} :
    Fails IsKeyError (CollibraRelationshipSpec.fromDict isPrintable j) ↔ RelationshipFault j := by
  unfold CollibraRelationshipSpec.fromDict
  rw [fails_bind]
  cases j with
  | obj members =>
    simp only [Json.asMapping, not_fails_ok, false_or, Except.ok.injEq, exists_eq_left', RelationshipFault,
      Json.obj.injEq]
    refine fails_items fun _ => fails_items fun _ => fails_items fun _ => fails_items fun _ =>
      iff_of_false ?_ not_lacksKey_nil
    unfold CollibraRelationshipSpec.create
    simp only [fails_bind]
    rintro (h | ⟨_, _, h | ⟨_, _, h | ⟨_, _, h | ⟨_, _, h⟩⟩⟩⟩)
    · exact fails_requireNonEmpty (by decide) h
    · exact fails_requireNonEmpty (by decide) h
    · exact fails_requireNonEmpty (by decide) h
    · exact fails_requireNonEmpty (by decide) h
    · exact not_fails_pure h
  | _ =>
    simp only [Json.asMapping, RelationshipFault, fails_error, reduceCtorEq, false_and, exists_false, or_false,
      iff_false]
    decide

/-- An optional record fails as the record does; `null` has no keys to miss. -/
lemma fails_optionalRecord {α : Type} {parse : Json → Except String α} {fault : Json → Prop}
    (h : ∀ j, Fails IsKeyError (parse j) ↔ fault j) (hnull : ¬ fault .null) (j : Json) :
    Fails IsKeyError (optionalRecord parse j) ↔ fault j := by
  cases j with
  | null => exact iff_of_false not_fails_ok hnull
  | _ =>
    unfold optionalRecord
    rw [fails_map, h]

lemma fails_construct {actionType : SyncActionType} {objectKind : SyncObjectKind} {localId remoteId : Option String}
    {reason : String} {desiredAsset : Option CollibraAssetSpec}
    {desiredRelationship : Option CollibraRelationshipSpec} {changedFields : List String} :
    ¬ Fails IsKeyError (SyncAction.construct actionType objectKind localId remoteId reason desiredAsset
      desiredRelationship changedFields) := by
  unfold SyncAction.construct
  split
  · rename_i message hmessage
    rw [fails_error]
    unfold syncActionError at hmessage
    split_ifs at hmessage <;> cases hmessage <;> decide
  · exact not_fails_ok

/-- What is read of an entry once its type and kind are known. -/
def actionFields (actionType : SyncActionType) (objectKind : SyncObjectKind) (members : List (String × Json)) :
    Except String SyncAction := do
  let changedFields ← listed (Json.get members "changed_fields") "changed_fields must be an array"
  let desiredAsset ← optionalRecord (CollibraAssetSpec.fromDict isPrintable) (Json.get members "desired_asset")
  let desiredRelationship ← optionalRecord (CollibraRelationshipSpec.fromDict isPrintable)
    (Json.get members "desired_relationship")
  SyncAction.construct actionType objectKind (optionalStr isPrintable (Json.get members "local_id"))
    (optionalStr isPrintable (Json.get members "remote_id"))
    ((optionalStr isPrintable (Json.get members "reason")).getD "")
    desiredAsset desiredRelationship (changedFields.map (Json.pyStr isPrintable))

lemma action_fromDict_obj (members : List (String × Json)) : SyncAction.fromDict isPrintable (.obj members) =
    if Json.get members "action_type" = .str "delete" then .error "DELETE actions are unsupported" else
    match SyncActionType.parse ((Json.get members "action_type").pyStr isPrintable) with
    | none => .error ("unsupported action_type: " ++ (Json.get members "action_type").pyStr isPrintable)
    | some actionType =>
      match SyncObjectKind.parse ((Json.get members "object_kind").pyStr isPrintable) with
      | none => .error ("unsupported object_kind: " ++ (Json.get members "object_kind").pyStr isPrintable)
      | some objectKind => actionFields isPrintable actionType objectKind members := by
  unfold SyncAction.fromDict actionFields listed
  simp only [Json.asMapping, ok_bind]
  split
  · rfl
  · cases SyncActionType.parse ((Json.get members "action_type").pyStr isPrintable) with
    | none => rfl
    | some actionType =>
      cases SyncObjectKind.parse ((Json.get members "object_kind").pyStr isPrintable) with
      | none => rfl
      | some objectKind => split_ifs <;> rfl

lemma fails_actionFields {actionType : SyncActionType} {objectKind : SyncObjectKind}
    {members : List (String × Json)} :
    Fails IsKeyError (actionFields isPrintable actionType objectKind members) ↔
      (∃ items, Listed (Json.get members "changed_fields") items) ∧
      (AssetFault isPrintable (Json.get members "desired_asset") ∨
        ((∃ asset, optionalRecord (CollibraAssetSpec.fromDict isPrintable) (Json.get members "desired_asset") =
            .ok asset) ∧
          RelationshipFault (Json.get members "desired_relationship"))) := by
  have hasset := fails_optionalRecord (fun j => @fails_asset isPrintable j)
    (by rintro ⟨_, _, h, -⟩; cases h) (Json.get members "desired_asset")
  have hrelationship := fails_optionalRecord (fun j => @fails_relationship isPrintable j)
    (by rintro ⟨_, h, -⟩; cases h) (Json.get members "desired_relationship")
  unfold actionFields
  rw [fails_bind, or_iff_right (fails_listed (by decide)), ← exists_and_right]
  simp only [listed_ok]
  apply exists_congr
  intro items
  apply and_congr_right
  intro _
  rw [fails_bind, hasset, ← exists_and_right]
  apply or_congr Iff.rfl
  apply exists_congr
  intro asset
  apply and_congr_right
  intro _
  rw [fails_bind, hrelationship]
  apply or_iff_left
  rintro ⟨_, -, h⟩
  exact fails_construct h

lemma fails_action {j : Json} :
    Fails IsKeyError (SyncAction.fromDict isPrintable j) ↔ ActionFault isPrintable j := by
  cases j with
  | obj members =>
    rw [action_fromDict_obj]
    simp only [ActionFault, Json.obj.injEq, exists_eq_left']
    cases htype : SyncActionType.parse ((Json.get members "action_type").pyStr isPrintable) with
    | none =>
      rw [fails_ite]
      refine iff_of_false ?_ (by simp)
      rintro (⟨-, h⟩ | ⟨-, h⟩)
      · exact absurd (fails_error.mp h) (by decide)
      · exact (not_isKeyError_unsupported _).1 (fails_error.mp h)
    | some actionType =>
      have hdelete : Json.get members "action_type" ≠ .str "delete" := by
        intro h
        rw [h] at htype
        cases htype
      rw [if_neg hdelete]
      cases hkind : SyncObjectKind.parse ((Json.get members "object_kind").pyStr isPrintable) with
      | none =>
        refine iff_of_false ?_ (by simp)
        intro h
        exact (not_isKeyError_unsupported _).2 (fails_error.mp h)
      | some objectKind =>
        rw [fails_actionFields]
        simp
  | _ =>
    refine iff_of_false ?_ (by rintro ⟨_, h, -⟩; cases h)
    unfold SyncAction.fromDict
    rw [fails_bind]
    rintro (h | ⟨_, h, -⟩)
    · exact absurd (fails_error.mp h) (by decide)
    · cases h

end Records

section Load
variable (sha256 : String → String) (isPrintable : Char → Bool)
  {iterErrors : PlanVersion → Json → List PlanSchemaFailure}

/-- The exceptions that are no `PlanError`. -/
def IsUncaught : PlanFailure → Prop
  | .uncaught _ => True
  | _ => False

/-- A version that cannot be looked up in the table of versions. -/
def UnhashableVersion (members : List (String × Json)) : Prop :=
  (∃ items, Json.get members "plan_version" = .arr items) ∨ ∃ fields, Json.get members "plan_version" = .obj fields

/-- A document that the schema of its version accepts, with the identity of its content, whose first unreadable
entry lacks a key. -/
def UnguardedAction (members : List (String × Json)) : Prop :=
  ∃ version actions, Json.get members "plan_version" = .str version.value ∧
    planSchemaAccepts version (.obj members) = true ∧
    storedIdentityMatches (Json.get members "content_identity")
      (planIdentityOf sha256 version (.obj (members.filter (fun m => m.1 ≠ "content_identity")))) = true ∧
    Json.get members "actions" = .arr actions ∧
    FirstFault (SyncAction.fromDict isPrintable) (ActionFault isPrintable) actions

lemma isUncaught_actionsFailure {message : String} : IsUncaught (actionsFailure message) ↔ IsKeyError message := by
  unfold actionsFailure IsKeyError
  split
  · rename_i h
    exact iff_of_true trivial h
  · rename_i h
    exact iff_of_false id h

lemma fails_plan {actions : Json} :
    Fails IsKeyError (SyncPlan.fromDict isPrintable (.obj [("actions", actions)])) ↔
      ∃ items, actions = .arr items ∧ FirstFault (SyncAction.fromDict isPrintable) (ActionFault isPrintable) items := by
  have hactions : Json.get [("actions", actions)] "actions" = actions :=
    Json.get_of_lookup (Json.lookup_cons_self _ _ _)
  unfold SyncPlan.fromDict
  rw [Json.asMapping, ok_bind, hactions, fails_bind, or_iff_right (fails_asArray (by decide))]
  cases actions with
  | arr items =>
    simp only [Json.asArray, Except.ok.injEq, Json.arr.injEq, exists_eq_left']
    rw [fails_bind, fails_mapM, firstFault_congr (fun _ => fails_action isPrintable)]
    apply or_iff_left
    rintro ⟨_, -, h⟩
    exact not_fails_pure h
  | _ => simp [Json.asArray]

lemma fails_identityOf {payload : Json} : ¬ Fails IsUncaught (identityOf isPrintable payload) := by
  cases payload <;> simp [identityOf, IsUncaught]

lemma fails_loadAssumptions {version : PlanVersion} {members : List (String × Json)} :
    ¬ Fails IsUncaught (loadAssumptions sha256 isPrintable version members) := by
  cases version with
  | v1 => exact not_fails_ok
  | v2 =>
    unfold loadAssumptions
    rw [fails_bind]
    rintro (h | ⟨stored, -, h⟩)
    · exact fails_identityOf isPrintable h
    · split_ifs at h
      · exact fails_error.mp h
      · exact not_fails_pure h

/-- What remains once the entries are read stops with an error of the loader only. -/
lemma fails_validated {version : PlanVersion} {members : List (String × Json)} :
    Fails IsUncaught (fromValidatedDocument sha256 isPrintable version members) ↔
      storedIdentityMatches (Json.get members "content_identity")
        (planIdentityOf sha256 version (.obj (members.filter (fun m => m.1 ≠ "content_identity")))) = true ∧
      ∃ actions, Json.get members "actions" = .arr actions ∧
        FirstFault (SyncAction.fromDict isPrintable) (ActionFault isPrintable) actions := by
  unfold fromValidatedDocument
  cases hstored : storedIdentityMatches (Json.get members "content_identity")
      (planIdentityOf sha256 version (.obj (members.filter (fun m => m.1 ≠ "content_identity")))) with
  | false =>
    simp only [hstored, if_true, Bool.false_eq_true, false_and, iff_false]
    exact fun h => fails_error.mp h
  | true =>
    simp only [hstored, Bool.true_eq_false, if_false, true_and]
    rw [fails_bind, fails_mapError, show (fun e => IsUncaught (actionsFailure e)) = IsKeyError from
      funext fun _ => propext isUncaught_actionsFailure, fails_plan]
    apply or_iff_left
    rintro ⟨syncPlan, -, h⟩
    have hidentity := fun payload => @fails_identityOf isPrintable payload
    exact not_fails_bind (fails_loadAssumptions sha256 isPrintable) (fun _ => not_fails_bind (hidentity _) fun _ =>
      not_fails_bind (hidentity _) fun _ => not_fails_bind (hidentity _) fun _ => not_fails_bind (hidentity _)
      fun _ => not_fails_bind (hidentity _) fun _ => not_fails_bind (hidentity _) fun _ => not_fails_pure) h

lemma fails_unsupportedPlanVersion {α : Type} : ¬ Fails IsUncaught (unsupportedPlanVersion : Loaded α) :=
  fun h => fails_error.mp h

lemma PlanVersion.eq_value {text : String} {version : PlanVersion} (h : PlanVersion.parse text = some version) :
    text = version.value := by
  unfold PlanVersion.parse at h
  split at h <;> cases h <;> rfl

/-- A version in the form of a text is never the reason: it is known, or refused as unsupported. -/
lemma fails_text_version (hvalidator : ∀ v d, iterErrors v d = [] ↔ planSchemaAccepts v d = true)
    {members : List (String × Json)} {text : String} (htext : Json.get members "plan_version" = .str text) :
    Fails IsUncaught (loadSavedPlan sha256 isPrintable iterErrors (.obj members)) ↔
      UnguardedAction sha256 isPrintable members := by
  unfold loadSavedPlan validatePlanStructure UnguardedAction
  simp only [htext, Json.str.injEq]
  cases hversion : PlanVersion.parse text with
  | none =>
    refine iff_of_false fails_unsupportedPlanVersion ?_
    rintro ⟨version, -, rfl, -⟩
    simp at hversion
  | some version =>
    obtain rfl := PlanVersion.eq_value hversion
    have hsame : ∀ v : PlanVersion, version.value = v.value ↔ v = version := by
      intro v
      cases v <;> cases version <;> decide
    simp only [hsame, exists_and_left, exists_eq_left, ← hvalidator version (.obj members)]
    by_cases hfailures : iterErrors version (.obj members) = []
    · simp only [hfailures, List.any_nil, Bool.false_eq_true, if_false, ne_eq, not_true_eq_false, ok_bind, true_and]
      exact fails_validated sha256 isPrintable
    · refine iff_of_false ?_ (fun h => hfailures h.1)
      simp only [ne_eq, hfailures, not_false_eq_true, if_true]
      split_ifs
      · exact fails_unsupportedPlanVersion
      · exact fun h => fails_error.mp h

lemma fails_load_obj (hvalidator : ∀ v d, iterErrors v d = [] ↔ planSchemaAccepts v d = true)
    (members : List (String × Json)) :
    Fails IsUncaught (loadSavedPlan sha256 isPrintable iterErrors (.obj members)) ↔
      UnhashableVersion members ∨ UnguardedAction sha256 isPrintable members := by
  cases hversion : Json.get members "plan_version" with
  | str text =>
    rw [fails_text_version sha256 isPrintable hvalidator hversion]
    simp [UnhashableVersion, hversion]
  | arr items =>
    refine iff_of_true ?_ (Or.inl (Or.inl ⟨items, hversion⟩))
    simp only [loadSavedPlan, validatePlanStructure, hversion]
    exact fails_error.mpr trivial
  | obj fields =>
    refine iff_of_true ?_ (Or.inl (Or.inr ⟨fields, hversion⟩))
    simp only [loadSavedPlan, validatePlanStructure, hversion]
    exact fails_error.mpr trivial
  | _ =>
    simp only [loadSavedPlan, validatePlanStructure, hversion, UnhashableVersion, UnguardedAction, reduceCtorEq,
      exists_false, false_and, or_false, iff_false]
    exact fails_unsupportedPlanVersion

/-- A document on which every exception that can occur is guarded by the loader. -/
def GuardedDocument (document : Json) : Prop :=
  ∀ members, document = .obj members → ¬ UnhashableVersion members ∧ ¬ UnguardedAction sha256 isPrintable members

lemma not_fails_load_iff (hvalidator : ∀ v d, iterErrors v d = [] ↔ planSchemaAccepts v d = true)
    {document : Json} : ¬ Fails IsUncaught (loadSavedPlan sha256 isPrintable iterErrors document) ↔
      GuardedDocument sha256 isPrintable document := by
  cases document with
  | obj members =>
    rw [fails_load_obj sha256 isPrintable hvalidator, not_or]
    simp [GuardedDocument]
  | _ =>
    refine iff_of_true ?_ (fun _ h => by cases h)
    exact fun h => fails_error.mp h

end Load

section File

mutual
/-- The integers of a document. -/
def integersOf : Json → List Int
  | .int i => [i]
  | .arr items => integersOfItems items
  | .obj members => integersOfMembers members
  | _ => []

def integersOfItems : List Json → List Int
  | [] => []
  | j :: js => integersOf j ++ integersOfItems js

def integersOfMembers : List (String × Json) → List Int
  | [] => []
  | (_, j) :: ms => integersOf j ++ integersOfMembers ms
end

mutual
/-- How deep the containers of a document are nested. -/
def nestingOf : Json → Nat
  | .arr items => nestingOfItems items + 1
  | .obj members => nestingOfMembers members + 1
  | _ => 0

def nestingOfItems : List Json → Nat
  | [] => 0
  | j :: js => max (nestingOf j) (nestingOfItems js)

def nestingOfMembers : List (String × Json) → Nat
  | [] => 0
  | (_, j) :: ms => max (nestingOf j) (nestingOfMembers ms)
end

variable (limits : Limits)

/-- Every integer of the document has at most as many digits as the interpreter converts, and containers are nested
no deeper than it goes. -/
structure Within (document : Json) : Prop where
  digits : ∀ i ∈ integersOf document, i.natAbs < 10 ^ limits.digits
  depth : nestingOf document ≤ limits.depth

lemma checkItems_ok {items : List Json} (h : ∀ j ∈ items, ∀ depth, checkLimits limits depth j = .ok () ↔
      (∀ i ∈ integersOf j, i.natAbs < 10 ^ limits.digits) ∧ nestingOf j ≤ depth) (depth : Nat) :
    checkItems limits depth items = .ok () ↔
      (∀ i ∈ integersOfItems items, i.natAbs < 10 ^ limits.digits) ∧ nestingOfItems items ≤ depth := by
  induction items with
  | nil => simp [checkItems, integersOfItems, nestingOfItems]
  | cons j js ih =>
    have hj := h j (List.mem_cons_self ..) depth
    have hjs := ih (fun x hx => h x (List.mem_cons_of_mem _ hx))
    rw [checkItems, bind_eq_ok]
    simp only [exists_const, hj, hjs, integersOfItems, nestingOfItems, List.forall_mem_append, max_le_iff]
    tauto

lemma checkMembers_ok {members : List (String × Json)}
    (h : ∀ m ∈ members, ∀ depth, checkLimits limits depth m.2 = .ok () ↔
      (∀ i ∈ integersOf m.2, i.natAbs < 10 ^ limits.digits) ∧ nestingOf m.2 ≤ depth) (depth : Nat) :
    checkMembers limits depth members = .ok () ↔
      (∀ i ∈ integersOfMembers members, i.natAbs < 10 ^ limits.digits) ∧ nestingOfMembers members ≤ depth := by
  induction members with
  | nil => simp [checkMembers, integersOfMembers, nestingOfMembers]
  | cons m ms ih =>
    obtain ⟨k, j⟩ := m
    have hj := h (k, j) (List.mem_cons_self ..) depth
    have hms := ih (fun x hx => h x (List.mem_cons_of_mem _ hx))
    rw [checkMembers, bind_eq_ok]
    simp only at hj
    simp only [exists_const, hj, hms, integersOfMembers, nestingOfMembers, List.forall_mem_append, max_le_iff]
    tauto

/-- A document is read without an exception exactly when it is within the limits. -/
lemma checkLimits_ok (j : Json) (depth : Nat) : checkLimits limits depth j = .ok () ↔
    (∀ i ∈ integersOf j, i.natAbs < 10 ^ limits.digits) ∧ nestingOf j ≤ depth := by
  induction j using Json.induct generalizing depth with
  | null => simp [checkLimits, integersOf, nestingOf]
  | bool b => simp [checkLimits, integersOf, nestingOf]
  | int i =>
    rw [checkLimits]
    split_ifs with h
    · simp [integersOf, nestingOf, h]
    · simpa [integersOf, nestingOf] using h
  | float f => simp [checkLimits, integersOf, nestingOf]
  | str s => simp [checkLimits, integersOf, nestingOf]
  | arr items ih =>
    cases depth with
    | zero => simp [checkLimits, nestingOf]
    | succ depth =>
      rw [checkLimits, checkItems_ok limits ih, integersOf, nestingOf, Nat.add_le_add_iff_right]
  | obj members ih =>
    cases depth with
    | zero => simp [checkLimits, nestingOf]
    | succ depth =>
      rw [checkLimits, checkMembers_ok limits ih, integersOf, nestingOf, Nat.add_le_add_iff_right]

lemma not_fails_checkLimits {j : Json} :
    ¬ Fails IsUncaught ((checkLimits limits limits.depth j).mapError PlanFailure.uncaught) ↔ Within limits j := by
  have hwithin : Within limits j ↔ checkLimits limits limits.depth j = .ok () := by
    rw [checkLimits_ok]
    constructor
    · intro h
      exact ⟨h.digits, h.depth⟩
    · intro h
      exact ⟨h.1, h.2⟩
  rw [hwithin]
  cases checkLimits limits limits.depth j with
  | error message =>
    refine iff_of_false (not_not.mpr ⟨_, rfl, trivial⟩) ?_
    intro h
    cases h
  | ok u => exact iff_of_true not_fails_ok rfl

variable (sha256 : String → String) (isPrintable : Char → Bool)
  {iterErrors : PlanVersion → Json → List PlanSchemaFailure}

/-- An integer that has too many digits for the interpreter stops the reading with a plain `ValueError`. -/
lemma long_integer_uncaught {i : Int} (hi : 10 ^ limits.digits ≤ i.natAbs) :
    loadSavedPlanFile sha256 isPrintable iterErrors limits (.document (.int i)) = .error (.uncaught
      ("ValueError: Exceeds the limit (" ++ toString limits.digits ++ " digits) for integer string conversion")) := by
  rw [loadSavedPlanFile, jsonLoads, checkLimits, if_pos hi]
  rfl

/-- A file on which every exception that can occur is guarded by the loader. -/
def GuardedFile : PlanFile → Prop
  | .unreadable => True
  | .undecodable => False
  | .malformed read => Within limits read
  | .document document => Within limits document ∧ GuardedDocument sha256 isPrintable (jsonValue document)

end File

/-- A validator that reports something of exactly the documents its schema refuses. -/
def schemaValidator (version : PlanVersion) (document : Json) : List PlanSchemaFailure :=
  if planSchemaAccepts version document then [] else [⟨⟨"type", []⟩, ""⟩]

lemma schemaValidator_iff (version : PlanVersion) (document : Json) :
    schemaValidator version document = [] ↔ planSchemaAccepts version document = true := by
  unfold schemaValidator
  split_ifs with h <;> simp [h]

def sameDigest (_ : String) : String := String.ofList (List.replicate 64 'a')

def identityDocument : Json := .obj [("algorithm", .str "sha256"), ("digest", .str (sameDigest "")),
  ("hashing_contract_version", .str "1")]

/-- A plan with the identity of its content, whose entry creates the given asset. -/
def creationPlan (asset : List (String × Json)) : Json :=
  .obj [("plan_schema", .str planSchema), ("plan_version", .str "1"), ("planner_contract_version", .str "1"),
    ("scanner_contract_version", .str "1"), ("config_identity", identityDocument),
    ("snapshot_identity", identityDocument), ("policy_identity", identityDocument),
    ("mapping_identity", identityDocument),
    ("target_context", .obj [("provider", .str "collibra"), ("mode", .str "mock")]),
    ("target_context_identity", identityDocument), ("remote_state_identity", identityDocument),
    ("actions", .arr [.obj [("action_type", .str "create"), ("object_kind", .str "asset"),
      ("changed_fields", .arr [.str "name"]), ("reason", .str "missing"), ("desired_asset", .obj asset)]]),
    ("content_identity", identityDocument)]

/-- How a file is loaded under the default limits. -/
def loadFile (file : PlanFile) : Loaded SavedGovernancePlan :=
  loadSavedPlanFile sameDigest (fun _ => true) schemaValidator defaultLimits file

end CollibraGovernance.Plans
