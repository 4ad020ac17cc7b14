import CollibraGovernance.Collibra.PlannedMutations
import CollibraGovernance.Reconciliation.Boundary

/-! What a plan behind the gate writes: safe decisions, and baseline values where nothing was decided. -/
namespace CollibraGovernance.Reconciliation
open Library Identity Domain Collibra

/-- A planned value of a property is proven: a safe decision gives it, or nothing was decided and it is the one of the
baseline. -/
inductive Proven (config : CollibraMappingConfig) (report : PropertyConflictReport) (baseline : CollibraAssetSpec)
    (i : GraphNodeIdentity) (path : PropertyPath) (field : TargetField) (planned : Option String) : Prop
  | decided {r : PropertyConflictResult} {c : RepresentableTargetValue} (result : decisionOf report i path = some r)
    (safe : (assessReconciliation r none none).safe = true)
    (converted : convertEffectiveValue path i r.effectiveValue = some c) (value : planned = c.value) :
    Proven config report baseline i path field planned
  | undecided (result : decisionOf report i path = none) (value : planned = getAssetAttr config baseline field) :
    Proven config report baseline i path field planned

section Paths
variable {i : GraphNodeIdentity} {path : PropertyPath}

lemma mapped_applicable (hpath : path ∈ mappedPropertyPathsForKind i.kind.val) :
    pathApplicableToIdentity path i = true := by
  simp only [mappedPropertyPathsForKind, List.mem_append, List.mem_cons, List.not_mem_nil, or_false,
    List.mem_ite_nil_right] at hpath
  rcases hpath with ((rfl | rfl) | ⟨hkind, rfl⟩) | ⟨hkind, rfl⟩
  · rfl
  · rfl
  · exact hkind
  · exact hkind

lemma mapped_pathOf (hpath : path ∈ mappedPropertyPathsForKind i.kind.val) {field : TargetField}
    (hfield : targetFieldForPath path = some field) : path = pathOf field := by
  simp only [mappedPropertyPathsForKind, List.mem_append, List.mem_cons, List.not_mem_nil, or_false,
    List.mem_ite_nil_right] at hpath
  have hall : ∀ f, path = pathOf f → path = pathOf field := by
    intro f hf
    rw [hf, targetFieldForPath_pathOf, Option.some.injEq] at hfield
    rw [hf, hfield]
  rcases hpath with ((h | h) | ⟨-, h⟩) | ⟨-, h⟩
  · exact hall .displayName h
  · exact hall .description h
  · exact hall .dataType h
  · exact hall .owner h

lemma decisionOf_some {report : PropertyConflictReport} {r : PropertyConflictResult}
    (h : decisionOf report i path = some r) : r.objectIdentity = i ∧ r.propertyPath = path := by
  have hmem := List.mem_of_getLast? h
  simpa using (List.mem_filter.mp hmem).2

/-- What is decided about a mapped property applies. -/
lemma decision_applicable {report : PropertyConflictReport} {r : PropertyConflictResult} {field : TargetField}
    (h : decisionOf report i path = some r) (hpath : path ∈ mappedPropertyPathsForKind i.kind.val)
    (hfield : targetFieldForPath path = some field) : (assessReconciliation r none none).applicable = true := by
  obtain ⟨rfl, rfl⟩ := decisionOf_some h
  unfold assessReconciliation
  simp only [Option.getD_none]
  rw [if_neg (by simp [hfield, mapped_applicable hpath])]
  cases r.state
  case unresolvedConflict => rfl
  case invalidOrAmbiguousAuthority => rfl
  all_goals cases convertEffectiveValue r.propertyPath r.objectIdentity r.effectiveValue <;> rfl

end Paths

section Plan
variable {isPrintable : Char → Bool} {config : CollibraMappingConfig} {report : PropertyConflictReport}
  {remoteState : CollibraRemoteState} {baseline desired : CollibraDesiredState} {index : PhysicalReconciliationIndex}

/-- An asset action that plans an asset is the one of that desired asset. -/
lemma planned_asset {action : SyncAction} {a' : CollibraAssetSpec}
    (haction : action ∈ (buildSyncPlan desired remoteState).actions) (hkind : action.objectKind = .asset)
    (hasset : action.desiredAsset = some a') : a' ∈ desired.assets ∧ action.localId = some a'.localId ∧
      (desiredAssetIndex desired).get? a'.localId = some a' ∧
      action = desiredAssetAction (remoteAssetIndex remoteState) (a'.localId, a') := by
  rw [(buildSyncPlan_perm _ _).mem_iff, List.mem_append] at haction
  cases haction with
  | inr h =>
    rw [objectKind_of_mem_relationshipActions h] at hkind
    cases hkind
  | inl h =>
    rcases List.mem_append.mp h with h | h <;> obtain ⟨e, he, rfl⟩ := List.mem_map.mp h
    · rw [desiredAssetAction_desiredAsset, Option.some.injEq] at hasset
      obtain ⟨hmem, hid⟩ := mem_desiredAssetIndex he
      subst hasset
      refine ⟨hmem, ?_, ?_, ?_⟩
      · rw [desiredAssetAction_localId, hid]
      · rw [hid]
        exact Dict.get?_eq_some.mpr he
      · rw [hid]
    · cases hasset

lemma remoteOnly_ne {remoteAssets : Dict String CollibraRemoteAsset} {e : String × CollibraAssetSpec} :
    (desiredAssetAction remoteAssets e).actionType ≠ .remoteOnly := by
  unfold desiredAssetAction
  split
  · exact SyncActionType.noConfusion
  · dsimp only
    split <;> exact SyncActionType.noConfusion

/-- The remote asset of an action: none exactly when the asset is created. -/
lemma create_iff {e : String × CollibraAssetSpec} :
    (desiredAssetAction (remoteAssetIndex remoteState) e).actionType = .create ↔ remoteOf remoteState e.1 = none := by
  change _ ↔ (remoteAssetIndex remoteState).get? e.1 = none
  unfold desiredAssetAction
  cases (remoteAssetIndex remoteState).get? e.1 with
  | none => exact ⟨fun _ => rfl, fun _ => rfl⟩
  | some r =>
    dsimp only
    split <;> simp [SyncAction.unchangedAsset, SyncAction.updateAsset]

/-- A planned value is written when its asset is created, or updated where the remote value is another. -/
def Writes (config : CollibraMappingConfig) (remote : Option CollibraRemoteAsset) (actionType : SyncActionType)
    (a' : CollibraAssetSpec) (field : TargetField) : Prop :=
  actionType = .create ∨ actionType = .update ∧ getAssetAttr config a' field ≠ getRemoteAttr config remote field

/-- What is written is among the roles an action assumes its property in. -/
lemma actionRoles_of_writes {actionType : SyncActionType} {a a' : CollibraAssetSpec}
    {remote : Option CollibraRemoteAsset} {path : PropertyPath} {field : TargetField}
    (hfield : targetFieldForPath path = some field) (h : Writes config remote actionType a' field) :
    ∃ role roles, actionRoles config actionType a a' remote path = role :: roles := by
  rcases h with rfl | ⟨rfl, hdiff⟩
  · exact ⟨_, _, rfl⟩
  · cases hroles : actionRoles config .update a a' remote path with
    | nil => simp [actionRoles, hfield, hdiff] at hroles
    | cons role roles => exact ⟨role, roles, rfl⟩

/-- What an action writes of an indexed asset is assumed with its decision. -/
lemma assumed_of_writes {action : SyncAction} {a a' : CollibraAssetSpec} {i : GraphNodeIdentity} {path : PropertyPath}
    {field : TargetField} (hids : (baseline.assets.map CollibraAssetSpec.localId).Nodup) (ha : a ∈ baseline.assets)
    (hid : a'.localId = a.localId) (haction : action ∈ (buildSyncPlan desired remoteState).actions)
    (hkind : action.objectKind = .asset) (hasset : action.desiredAsset = some a')
    (hindex : index.get a'.localId = some i) (hpath : path ∈ mappedPropertyPathsForKind i.kind.val)
    (hfield : targetFieldForPath path = some field)
    (hwrites : Writes config (remoteOf remoteState a'.localId) action.actionType a' field) :
    ∃ entry ∈ assumedActions baseline desired remoteState report config index (buildSyncPlan desired remoteState),
      ∃ p ∈ entry.properties, p.object = i ∧ p.property = path ∧ p.decision = decisionOf report i path := by
  obtain ⟨-, hlocal, hget, heq⟩ := planned_asset haction hkind hasset
  obtain ⟨role, roles, hroles⟩ := actionRoles_of_writes (a := a) hfield hwrites
  have hproperty : (⟨i, path, role :: roles, decisionOf report i path⟩ : AssumptionProperty) ∈
      actionProperties report config action.actionType i a a' (remoteOf remoteState a'.localId) := by
    refine List.mem_filterMap.mpr ⟨path, hpath, ?_⟩
    rw [hroles, resultLookup_get?]
  have hbaseline : (Dict.index CollibraAssetSpec.localId id baseline.assets).get? a'.localId = some a := by
    rw [hid]
    exact Dict.get?_index_of_nodup hids ha
  have hnonempty : orNone (some a'.localId) = some a'.localId := by
    rw [orNone, Option.filter_some, if_pos (by simpa using ne_empty_of_not_blank a'.localId_nonblank)]
  have hentry : ∃ entry, actionEntry baseline desired remoteState report config index action = some entry ∧
      ∀ p, p ∈ actionProperties report config action.actionType i a a' (remoteOf remoteState a'.localId) →
        p ∈ entry.properties := by
    rw [actionEntry, if_neg (by simp [heq, remoteOnly_ne]), hlocal, hnonempty]
    change ∃ entry, (index.get a'.localId).bind _ = some entry ∧ _
    rw [hindex, Option.bind_some]
    change ∃ entry, ((Dict.index CollibraAssetSpec.localId id baseline.assets).get? a'.localId).bind _ = some entry ∧ _
    rw [hbaseline, Option.bind_some]
    change ∃ entry, ((desiredAssetIndex desired).get? a'.localId).bind _ = some entry ∧ _
    rw [hget, Option.bind_some]
    dsimp only [remoteOf, remoteByLocalId] at hproperty ⊢
    generalize actionProperties report config action.actionType i a a'
      ((Dict.index CollibraRemoteAsset.localId id remoteState.assets).get? a'.localId) = properties at hproperty ⊢
    cases properties with
    | nil => exact absurd hproperty List.not_mem_nil
    | cons p ps =>
      refine ⟨_, rfl, ?_⟩
      intro q hq
      exact mem_sortBy.mpr hq
  obtain ⟨entry, hentry, hproperties⟩ := hentry
  refine ⟨entry, mem_sortBy.mpr (List.mem_filterMap.mpr ⟨action, haction, hentry⟩), _, hproperties _ hproperty,
    rfl, rfl, rfl⟩

/-- No remote asset lists an attribute type twice. -/
def RemoteDistinct (remoteState : CollibraRemoteState) : Prop :=
  ∀ r ∈ remoteState.assets, (r.managedAttributes.map CollibraRemoteAttribute.attributeTypeRef).Nodup

/-- The value a null target keeps is the remote one. -/
lemma keptValue_eq (hremote : RemoteDistinct remoteState) (localId : String) (field : TargetField) :
    keptValue config (remoteOf remoteState localId) field =
      getRemoteAttr config (remoteOf remoteState localId) field := by
  cases hr : remoteOf remoteState localId with
  | none => rfl
  | some r =>
    obtain ⟨x, hx, -, rfl⟩ := Dict.exists_of_mem_index (Dict.get?_eq_some.mp hr)
    rw [keptValue, getRemoteAttr, Option.bind_some]
    cases hfield : fieldRef config field with
    | none => rfl
    | some ref =>
      dsimp only [id]
      rw [remoteAttrMap, Dict.get?, Dict.entries_index_of_nodup (hremote x hx), List.find?_map, Option.map_map]
      rfl

variable {out : OverlayResult}

/-- Behind the gate every written value of a mapped property is proven. -/
theorem reconciliation_writes_proven (hrefs : DistinctRefs config)
    (hids : (baseline.assets.map CollibraAssetSpec.localId).Nodup)
    (hdistinct : ∀ a ∈ baseline.assets, DistinctTypes a.attributes) (hremote : RemoteDistinct remoteState)
    (hout : applyReconciliationOverlay config report remoteState baseline index = .ok out)
    (hsafe : validateAssumptionsSafety isPrintable report (buildReconciliationAssumptions baseline out.desired
      remoteState report config index (buildSyncPlan out.desired remoteState)) = .ok ()) :
    ∀ action ∈ (buildSyncPlan out.desired remoteState).actions, action.objectKind = .asset →
      ∀ a', action.desiredAsset = some a' → ∀ i, index.get a'.localId = some i →
        ∀ path ∈ mappedPropertyPathsForKind i.kind.val, ∀ field, targetFieldForPath path = some field →
          Writes config (remoteOf remoteState a'.localId) action.actionType a' field →
            ∃ a ∈ baseline.assets, a.localId = a'.localId ∧
              Proven config report a i path field (getAssetAttr config a' field) := by
  intro action haction hkind a' hasset i hindex path hpath field hfield hwrites
  obtain ⟨hmem, -, -, heq⟩ := planned_asset haction hkind hasset
  obtain ⟨a, ha, hoverlaid⟩ := (forall₂_mem (overlay_set config report hrefs hids hdistinct hout).2).1 a' hmem
  have hset := hoverlaid.indexed i (hoverlaid.localId ▸ hindex)
  have hvalue := hset.fields field
  refine ⟨a, ha, hoverlaid.localId.symm, ?_⟩
  obtain rfl := mapped_pathOf hpath hfield
  rw [decidedValue, safeTarget] at hvalue
  cases hdecision : decisionOf report i (pathOf field) with
  | none =>
    rw [hdecision] at hvalue
    exact .undecided hdecision hvalue
  | some r =>
    have hsafe' : (assessReconciliation r none none).safe = true := by
      obtain ⟨entry, hentry, p, hp, hobject, hproperty, hrecorded⟩ := @assumed_of_writes config report _ _ _ _ _ _ _
        _ _ _ hids ha hoverlaid.localId haction hkind hasset hindex hpath hfield hwrites
      refine validate_safe hsafe entry hentry p hp ?_ r ?_ (decision_applicable hdecision hpath hfield)
      · rw [hrecorded, hdecision]
        exact Option.some_ne_none r
      · rw [hobject, hproperty, hdecision]
    obtain ⟨-, hconverts⟩ := assessReconciliation_safe hsafe'
    obtain ⟨hobject, hproperty⟩ := decisionOf_some hdecision
    rw [hobject, hproperty] at hconverts
    obtain ⟨c, hc⟩ := Option.isSome_iff_exists.mp hconverts
    rw [hdecision, Option.bind_some, if_pos hsafe', hc] at hvalue
    refine .decided hdecision hsafe' hc (hvalue.trans ?_)
    obtain ⟨target, value⟩ := c
    cases value with
    | some v => rfl
    | none =>
      -- a null target keeps the remote value, which an update does not write
      change keptValue config (remoteOf remoteState a.localId) field = none
      rw [← hoverlaid.localId]
      rcases hwrites with hcreate | ⟨-, hdiff⟩
      · rw [heq, create_iff] at hcreate
        dsimp only at hcreate
        rw [hcreate]
        rfl
      · refine absurd ?_ hdiff
        rw [← keptValue_eq hremote, hoverlaid.localId]
        exact hvalue

end Plan

section Sole

/-- A stored database whose description was observed, and which loses its owner, passes the gate as one update. -/
theorem stored_passes : (applyReconciliationOverlay mockMappingConfig (.of [soleDescription, noOwner]) storedRemote
    (.create [ownedAsset] []) soleIndex).toOption.any (fun out =>
      (validateAssumptionsSafety (fun _ => true) (.of [soleDescription, noOwner]) (buildReconciliationAssumptions
        (.create [ownedAsset] []) out.desired storedRemote (.of [soleDescription, noOwner]) mockMappingConfig soleIndex
        (buildSyncPlan out.desired storedRemote))).toOption.isSome &&
      (buildSyncPlan out.desired storedRemote).actions.any (fun action => action.actionType = .update ∧
        action.changedFields = ["managed_attributes"])) = true := by
  decide +kernel

lemma stored_distinct : RemoteDistinct storedRemote := by
  unfold RemoteDistinct
  decide

theorem stored_writes_proven : ∃ out, applyReconciliationOverlay mockMappingConfig (.of [soleDescription, noOwner])
      storedRemote (.create [ownedAsset] []) soleIndex = .ok out ∧
    (∃ action ∈ (buildSyncPlan out.desired storedRemote).actions, action.actionType = .update ∧
      action.changedFields = ["managed_attributes"]) ∧
    ∀ action ∈ (buildSyncPlan out.desired storedRemote).actions, action.objectKind = .asset →
      ∀ a', action.desiredAsset = some a' → ∀ i, soleIndex.get a'.localId = some i →
        ∀ path ∈ mappedPropertyPathsForKind i.kind.val, ∀ field, targetFieldForPath path = some field →
          Writes mockMappingConfig (remoteOf storedRemote a'.localId) action.actionType a' field →
            ∃ a ∈ [ownedAsset], a.localId = a'.localId ∧
              Proven mockMappingConfig (.of [soleDescription, noOwner]) a i path field
                (getAssetAttr mockMappingConfig a' field) := by
  obtain ⟨out, hout, hpasses⟩ := (Option.any_eq_true _ _).mp stored_passes
  rw [toOption_eq_some] at hout
  rw [Bool.and_eq_true, List.any_eq_true] at hpasses
  obtain ⟨hsafe, action, haction, hupdate⟩ := hpasses
  obtain ⟨u, hsafe⟩ := exists_ok hsafe
  exact ⟨out, hout, ⟨action, haction, of_decide_eq_true hupdate⟩,
    reconciliation_writes_proven (distinctRefs_of_nodup (by decide)) (by decide) (by decide) stored_distinct hout hsafe⟩

/-- What was left open about the description of the database. -/
def openDescription : PropertyConflictResult :=
  { soleDescription with state := .unresolvedConflict, reason := .noAuthorityRule, effectiveValue := none }

def describedAttributes : List CollibraAttributeSpec := [⟨"mock:attribute-type:description", "t", description_nonblank⟩]
def splitAttributes : List CollibraRemoteAttribute :=
  [⟨"mock:attribute-type:description", "t", none, description_nonblank⟩,
    ⟨"mock:attribute-type:description", "u", none, description_nonblank⟩]

theorem described_sorted : SortedBy CollibraAttributeSpec.attributeTypeRef describedAttributes := by decide
theorem split_sorted : SortedBy CollibraRemoteAttribute.attributeTypeRef splitAttributes := by decide

def describedAsset : CollibraAssetSpec :=
  { soleAsset with attributes := describedAttributes, attributes_sorted := described_sorted }

/-- A remote database that lists two descriptions. -/
def splitRemote : CollibraRemoteState :=
  .create [⟨"r", "d", "d", "d", "d", none, splitAttributes, by decide, sole_nonblank, sole_nonblank, sole_nonblank,
    sole_nonblank, split_sorted⟩] [] 0 0

/-- Over a remote asset that lists an attribute type twice, an update nothing proves passes the gate. -/
theorem open_description_passes : (applyReconciliationOverlay mockMappingConfig (.of [openDescription]) splitRemote
    (.create [describedAsset] []) soleIndex).toOption.any (fun out =>
      (validateAssumptionsSafety (fun _ => true) (.of [openDescription]) (buildReconciliationAssumptions
        (.create [describedAsset] []) out.desired splitRemote (.of [openDescription]) mockMappingConfig soleIndex
        (buildSyncPlan out.desired splitRemote))).toOption.isSome &&
      (buildSyncPlan out.desired splitRemote).actions.any (fun action => action.actionType = .update ∧
        action.changedFields = ["managed_attributes"] ∧ action.desiredAsset = some describedAsset)) = true := by
  decide +kernel

/-- The planner updates the description, which it compares with the last one listed; the gate compares it with the
first one, and does not ask for a decision. -/
theorem repeated_remote_value_overwritten : ∃ out, applyReconciliationOverlay mockMappingConfig (.of [openDescription])
      splitRemote (.create [describedAsset] []) soleIndex = .ok out ∧
    validateAssumptionsSafety (fun _ => true) (.of [openDescription]) (buildReconciliationAssumptions
      (.create [describedAsset] []) out.desired splitRemote (.of [openDescription]) mockMappingConfig soleIndex
      (buildSyncPlan out.desired splitRemote)) = .ok () ∧
    (∃ action ∈ (buildSyncPlan out.desired splitRemote).actions, action.actionType = .update ∧
      action.changedFields = ["managed_attributes"] ∧ action.desiredAsset = some describedAsset) ∧
    getAssetAttr mockMappingConfig describedAsset .description = some "t" ∧
    (remoteAttributeMap splitAttributes).get? "mock:attribute-type:description" = some "u" ∧
    soleIndex.get describedAsset.localId = some soleIdentity ∧
    ∀ a, ¬ Proven mockMappingConfig (.of [openDescription]) a soleIdentity pathDescription .description (some "t") := by
  obtain ⟨out, hout, hpasses⟩ := (Option.any_eq_true _ _).mp open_description_passes
  rw [toOption_eq_some] at hout
  rw [Bool.and_eq_true, List.any_eq_true] at hpasses
  obtain ⟨hsafe, action, haction, hupdate⟩ := hpasses
  obtain ⟨u, hsafe⟩ := exists_ok hsafe
  have hopen : decisionOf (.of [openDescription]) soleIdentity pathDescription = some openDescription := by
    rw [decisionOf, PropertyConflictReport.of]
    simp [sortBy, openDescription, soleDescription]
  refine ⟨out, hout, hsafe, ⟨action, haction, of_decide_eq_true hupdate⟩, by decide, by decide, by decide, ?_⟩
  intro a h
  cases h with
  | decided hresult hsafe =>
    rw [hopen, Option.some.injEq] at hresult
    subst hresult
    exact absurd hsafe (by decide)
  | undecided hresult =>
    rw [hopen] at hresult
    cases hresult

end Sole
end CollibraGovernance.Reconciliation
