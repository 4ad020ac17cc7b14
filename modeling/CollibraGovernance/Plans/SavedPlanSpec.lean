import CollibraGovernance.Plans.SavedPlan

/-! A saved plan is loaded back: the schemas accept what is written, and its identities are its own. -/
namespace CollibraGovernance.Plans
open Library Identity Domain Collibra Comparison Observations Reconciliation Snapshots

section Assumptions

lemma valueGroupSchema_toDict (o : PropertyObservation) : valueGroupSchema o.toValueGroupDict = true := by
  simp [valueGroupSchema, PropertyObservation.toValueGroupDict, JsonSchema.object, JsonSchema.anything, Json.lookup,
    provenanceSchema_of o.observed]

lemma conflictDecisionSchema_of (r : PropertyConflictResult) :
    conflictDecisionSchema (decisionFromResult r) = true := by
  have hgroups : JsonSchema.array valueGroupSchema
      (.arr (r.valueGroups.map PropertyObservation.toValueGroupDict)) = true := by
    refine JsonSchema.array_iff.mpr ⟨_, rfl, ?_⟩
    intro j hj
    obtain ⟨o, -, rfl⟩ := List.mem_map.mp hj
    exact valueGroupSchema_toDict o
  have hreason : JsonSchema.texts ["SINGLE_OBSERVATION", "AGREEMENT", "RESOLVED_BY_AUTHORITY", "NO_AUTHORITY_RULE",
      "AUTHORITATIVE_SOURCE_NOT_OBSERVED", "AUTHORITATIVE_SOURCE_CONFLICTED", "INVALID_OR_AMBIGUOUS_AUTHORITY"]
        (.str r.reason.value) = true := by
    cases r.reason <;> decide
  have hstate : JsonSchema.texts ["SINGLE_OBSERVATION", "AGREEMENT", "RESOLVED_BY_AUTHORITY", "UNRESOLVED_CONFLICT",
      "INVALID_OR_AMBIGUOUS_AUTHORITY"] (.str r.state.value) = true := by
    cases r.state <;> decide
  cases heffective : r.effectiveValue <;> cases hwinning : r.winningRuleKey <;>
    simp [conflictDecisionSchema, decisionFromResult, heffective, hwinning, JsonSchema.object, JsonSchema.anything,
      Json.lookup, hgroups, hreason, hstate, winningRuleKeySchema_toDict]

/-- The schema admits the object of the property, and the property is there for a reason. -/
structure ProperAssumption (p : AssumptionProperty) : Prop where
  object : admitted p.object = true
  roles : p.roles ≠ []
  distinct : p.roles.Nodup

/-- An action that assumes something proper of an object with a local id. -/
structure ProperAction (a : AssumptionAction) : Prop where
  actionType : a.actionType ≠ .remoteOnly
  localId : a.localId ≠ ""
  properties : a.properties ≠ []
  proper : ∀ p ∈ a.properties, ProperAssumption p

lemma role_value_inj : Function.Injective AssumptionRole.value := by
  intro a b h
  cases a <;> cases b <;> first | rfl | exact absurd h (by decide)

lemma rolesSchema_of {roles : List AssumptionRole} (hne : roles ≠ []) (hdistinct : roles.Nodup) :
    rolesSchema (.arr (roles.map (fun r => .str r.value))) = true := by
  have hsized : JsonSchema.sized 1 none (JsonSchema.texts ["mutation", "overlay"])
      (.arr (roles.map (fun r => .str r.value))) = true := by
    refine JsonSchema.sized_iff.mpr ⟨?_, by simp, ?_⟩
    · rw [List.length_map]
      exact List.length_pos_iff.mpr hne
    · intro j hj
      obtain ⟨r, -, rfl⟩ := List.mem_map.mp hj
      cases r <;> decide
  have hunique : JsonSchema.uniqueItems (.arr (roles.map (fun r => .str r.value))) = true := by
    refine decide_eq_true ?_
    rw [List.map_map]
    refine hdistinct.map ?_
    intro a b h
    exact role_value_inj (Json.str.inj h)
  rw [rolesSchema, hsized, hunique]
  rfl

lemma assumptionPropertySchema_of {p : AssumptionProperty} (h : ProperAssumption p) :
    assumptionPropertySchema p.toDict = true := by
  have hobject := (graphNodeIdentitySchema_toDict p.object).trans h.object
  have hroles := rolesSchema_of h.roles h.distinct
  have hdecision : optionalSchema conflictDecisionSchema ((p.decision.map decisionFromResult).getD .null) = true := by
    rw [optionalSchema, JsonSchema.oneOf_pair]
    cases p.decision with
    | none => exact Or.inl ⟨rfl, rfl⟩
    | some r => exact Or.inr ⟨rfl, conflictDecisionSchema_of r⟩
  simp [assumptionPropertySchema, AssumptionProperty.toDict, JsonSchema.object, Json.lookup, hobject, hroles,
    hdecision, text_of_ne (toPointer_ne p.property)]

lemma assumptionActionSchema_of {a : AssumptionAction} (h : ProperAction a) :
    assumptionActionSchema a.toDict = true := by
  have htype : JsonSchema.texts ["create", "update", "unchanged"] (.str a.actionType.value) = true := by
    cases hkind : a.actionType with
    | remoteOnly => exact absurd hkind h.actionType
    | _ => rfl
  have hproperties : JsonSchema.sized 1 none assumptionPropertySchema
      (.arr (a.properties.map AssumptionProperty.toDict)) = true := by
    refine JsonSchema.sized_iff.mpr ⟨?_, by simp, ?_⟩
    · rw [List.length_map]
      exact List.length_pos_iff.mpr h.properties
    · intro j hj
      obtain ⟨p, hp, rfl⟩ := List.mem_map.mp hj
      exact assumptionPropertySchema_of (h.proper p hp)
  simp [assumptionActionSchema, AssumptionAction.toDict, JsonSchema.object, JsonSchema.texts, Json.lookup,
    text_of_ne h.localId, hproperties]
  simpa [JsonSchema.texts] using htype

/-- The schema accepts assumptions whose actions are proper. -/
theorem assumptionsSchema_of {actions : List AssumptionAction} (h : ∀ a ∈ actions, ProperAction a) :
    assumptionsSchema (assumptionsDict actions) = true := by
  have hactions : JsonSchema.array assumptionActionSchema (.arr (actions.map AssumptionAction.toDict)) = true := by
    refine JsonSchema.array_iff.mpr ⟨_, rfl, ?_⟩
    intro j hj
    obtain ⟨a, ha, rfl⟩ := List.mem_map.mp hj
    exact assumptionActionSchema_of (h a ha)
  simp [assumptionsSchema, assumptionsDict, JsonSchema.object, JsonSchema.texts, Json.lookup,
    reconciliationAssumptionsVersion, hactions]

end Assumptions

section Built
variable {baselineDesired reconciledDesired : CollibraDesiredState} {remoteState : CollibraRemoteState}
  {conflictReport : PropertyConflictReport} {mappingConfig : CollibraMappingConfig}
  {physicalIndex : PhysicalReconciliationIndex}

/-- Every identity of an index is one the schema admits. -/
theorem admitted_of_index {model : GovernanceModel} {nameSpace : String}
    (h : buildPhysicalReconciliationIndex model nameSpace = .ok physicalIndex) {localId : String}
    {identity : GraphNodeIdentity} (hget : physicalIndex.get localId = some identity) : admitted identity = true := by
  rw [buildPhysicalReconciliationIndex] at h
  split_ifs at h with hnonblank
  obtain ⟨mapping, hmapping, h⟩ := bind_eq_ok.mp h
  cases pure_eq_ok.mp h
  have hmem := mem_of_foldlM_put hmapping _ (Dict.get?_eq_some.mp hget)
  rw [Dict.entries_empty] at hmem
  have hnode := (mem_physicalNodes _).mp (hmem.resolve_left List.not_mem_nil)
  have hkinds : nodeKindDataSource ∈ admittedKinds ∧ nodeKindDataset ∈ admittedKinds ∧
      nodeKindTable ∈ admittedKinds ∧ nodeKindColumn ∈ admittedKinds := by decide
  obtain ⟨hsource, hdataset, htable, hcolumn⟩ := hkinds
  obtain ⟨d, -, hnode | ⟨s, -, hnode | ⟨t, -, hnode | ⟨c, -, hnode⟩⟩⟩⟩ := hnode <;>
    simp only [Prod.mk.injEq] at hnode <;> rw [hnode.2] <;>
    simp [columnChain, tableChain, schemaChain, databaseChain, admitted, hsource, hdataset, htable, hcolumn]

lemma actionRoles_nodup (actionType : SyncActionType) (baseline reconciled : CollibraAssetSpec)
    (remote : Option CollibraRemoteAsset) (path : PropertyPath) :
    (actionRoles mappingConfig actionType baseline reconciled remote path).Nodup := by
  have hmutation : [AssumptionRole.mutation].Nodup := by decide
  have hlisted : ∀ mutation overlay : Prop, ∀ [Decidable mutation] [Decidable overlay],
      ((if mutation then [AssumptionRole.mutation] else []) ++
        (if overlay then [AssumptionRole.overlay] else [])).Nodup := by
    intro mutation overlay _ _
    split_ifs <;> decide
  cases actionType with
  | create => exact hmutation
  | remoteOnly => exact List.nodup_nil
  | _ =>
    simp only [actionRoles]
    cases targetFieldForPath path with
    | none => exact List.nodup_nil
    | some field => exact hlisted _ _

lemma properAssumption_of_mem (actionType : SyncActionType) {identity : GraphNodeIdentity}
    (hidentity : admitted identity = true) {baseline reconciled : CollibraAssetSpec}
    {remote : Option CollibraRemoteAsset} : ∀ p ∈ actionProperties conflictReport mappingConfig actionType identity
      baseline reconciled remote, ProperAssumption p := by
  intro p hp
  obtain ⟨path, -, hentry⟩ := List.mem_filterMap.mp hp
  have hdistinct : (actionRoles mappingConfig actionType baseline reconciled remote path).Nodup :=
    actionRoles_nodup actionType baseline reconciled remote path
  cases hroles : actionRoles mappingConfig actionType baseline reconciled remote path with
  | nil =>
    rw [hroles] at hentry
    cases hentry
  | cons role rest =>
    rw [hroles] at hentry hdistinct
    cases hentry
    exact ⟨hidentity, List.cons_ne_nil _ _, hdistinct⟩

/-- What is assumed for an action over indexed objects is proper. -/
theorem properAction_of_entry (hindex : ∀ id i, physicalIndex.get id = some i → admitted i = true)
    {action : SyncAction} {entry : AssumptionAction}
    (h : actionEntry baselineDesired reconciledDesired remoteState conflictReport mappingConfig physicalIndex action =
      some entry) : ProperAction entry := by
  rw [actionEntry] at h
  split_ifs at h with hskip
  obtain ⟨localId, hlocalId, h⟩ := Option.bind_eq_some_iff.mp h
  obtain ⟨identity, hidentity, h⟩ := Option.bind_eq_some_iff.mp h
  obtain ⟨baseline, -, h⟩ := Option.bind_eq_some_iff.mp h
  obtain ⟨reconciled, -, h⟩ := Option.bind_eq_some_iff.mp h
  have hproper : ∀ p ∈ actionProperties conflictReport mappingConfig action.actionType identity baseline reconciled
      ((Dict.index CollibraRemoteAsset.localId id remoteState.assets).get? localId), ProperAssumption p :=
    properAssumption_of_mem action.actionType (hindex _ _ hidentity)
  have hne : localId ≠ "" := by
    have hfilter := (Option.filter_eq_some_iff.mp hlocalId).2
    simpa using hfilter
  dsimp only at h
  cases hlisted : actionProperties conflictReport mappingConfig action.actionType identity baseline reconciled
      ((Dict.index CollibraRemoteAsset.localId id remoteState.assets).get? localId) with
  | nil =>
    rw [hlisted] at h
    cases h
  | cons first rest =>
    rw [hlisted] at h hproper
    cases h
    refine ⟨fun htype => hskip (Or.inr htype), hne, ?_, ?_⟩
    · intro hnil
      have hlength := congrArg List.length hnil
      rw [length_sortBy] at hlength
      cases hlength
    · intro p hp
      exact hproper p (mem_sortBy.mp hp)

/-- The schema accepts the assumptions of every plan over indexed objects. -/
theorem assumptionsSchema_build (hindex : ∀ id i, physicalIndex.get id = some i → admitted i = true)
    (syncPlan : SyncPlan) : assumptionsSchema (buildReconciliationAssumptions baselineDesired reconciledDesired
      remoteState conflictReport mappingConfig physicalIndex syncPlan) = true := by
  apply assumptionsSchema_of
  intro a ha
  obtain ⟨action, -, hentry⟩ := List.mem_filterMap.mp (mem_sortBy.mp ha)
  exact properAction_of_entry hindex hentry

end Built
section OrderFree

lemma orderFree_optional {schema : Json → Bool} (h : JsonSchema.OrderFree schema) :
    JsonSchema.OrderFree (optionalSchema schema) := by
  apply JsonSchema.orderFree_oneOf
  simp only [List.forall_mem_cons, List.not_mem_nil, false_implies, implies_true, and_true]
  exact ⟨JsonSchema.orderFree_isNull, h⟩

lemma orderFree_graphNodeIdentity : JsonSchema.OrderFree graphNodeIdentitySchema := by
  refine JsonSchema.orderFree_recursive descends_graphNodeIdentityStep ?_
  intro parent hparent
  apply JsonSchema.orderFree_object
  simp only [List.forall_mem_cons, List.not_mem_nil, false_implies, implies_true, and_true]
  exact ⟨JsonSchema.orderFree_text _, JsonSchema.orderFree_texts _, JsonSchema.orderFree_text _,
    orderFree_optional hparent⟩

lemma orderFree_valueGroup : JsonSchema.OrderFree valueGroupSchema := by
  have hrecord : JsonSchema.OrderFree provenanceRecordSchema := by
    apply JsonSchema.orderFree_object
    simp only [List.forall_mem_cons, List.not_mem_nil, false_implies, implies_true, and_true]
    exact ⟨JsonSchema.orderFree_text _, JsonSchema.orderFree_text _,
      orderFree_optional (JsonSchema.orderFree_text _), JsonSchema.orderFree_texts _⟩
  apply JsonSchema.orderFree_object
  simp only [List.forall_mem_cons, List.not_mem_nil, false_implies, implies_true, and_true]
  exact ⟨JsonSchema.orderFree_anything, JsonSchema.orderFree_sized _ _ hrecord⟩

lemma orderFree_conflictDecision : JsonSchema.OrderFree conflictDecisionSchema := by
  apply JsonSchema.orderFree_object
  simp only [List.forall_mem_cons, List.not_mem_nil, false_implies, implies_true, and_true]
  exact ⟨JsonSchema.orderFree_texts _, JsonSchema.orderFree_texts _, JsonSchema.orderFree_array orderFree_valueGroup,
    JsonSchema.orderFree_anything, orderFree_winningRuleKey⟩

lemma orderFree_assumptionProperty : JsonSchema.OrderFree assumptionPropertySchema := by
  have hroles : JsonSchema.OrderFree rolesSchema :=
    JsonSchema.orderFree_and (JsonSchema.orderFree_sized _ _ (JsonSchema.orderFree_texts _))
      JsonSchema.orderFree_uniqueItems
  apply JsonSchema.orderFree_object
  simp only [List.forall_mem_cons, List.not_mem_nil, false_implies, implies_true, and_true]
  exact ⟨orderFree_graphNodeIdentity, JsonSchema.orderFree_text _, hroles,
    orderFree_optional orderFree_conflictDecision⟩

/-- Assumptions are accepted in any order of their members. -/
theorem orderFree_assumptions : JsonSchema.OrderFree assumptionsSchema := by
  have haction : JsonSchema.OrderFree assumptionActionSchema := by
    apply JsonSchema.orderFree_object
    simp only [List.forall_mem_cons, List.not_mem_nil, false_implies, implies_true, and_true]
    exact ⟨JsonSchema.orderFree_texts _, JsonSchema.orderFree_text _, JsonSchema.orderFree_texts _,
      JsonSchema.orderFree_sized _ _ orderFree_assumptionProperty⟩
  apply JsonSchema.orderFree_object
  simp only [List.forall_mem_cons, List.not_mem_nil, false_implies, implies_true, and_true]
  exact ⟨JsonSchema.orderFree_texts _, JsonSchema.orderFree_texts _, JsonSchema.orderFree_array haction⟩

end OrderFree

/-- An identity that was computed, of whatever document. -/
def Computed (sha256 : String → String) (c : ContentIdentity) : Prop :=
  ∃ domainPrefix payload, c = sha256Identity sha256 domainPrefix payload

/-- What a plan of each version assumes. -/
def ProperlyAssumed (sha256 : String → String) (p : SavedGovernancePlan) : Prop :=
  match p.planVersion with
  | .v1 => p.reconciliationAssumptions = none ∧ p.reconciliationAssumptionsIdentity = none
  | .v2 => ∃ assumptions, assumptionsSchema assumptions = true ∧ p.reconciliationAssumptions = some assumptions ∧
      p.reconciliationAssumptionsIdentity = some (assumptionsContentIdentity sha256 assumptions)

/-- A plan whose parts are those of a built one. -/
structure ProperPlan (sha256 : String → String) (p : SavedGovernancePlan) : Prop where
  config : Computed sha256 p.configIdentity
  snapshot : Computed sha256 p.snapshotIdentity
  policy : Computed sha256 p.policyIdentity
  mapping : Computed sha256 p.mappingIdentity
  target : Computed sha256 p.targetContextIdentity
  remote : Computed sha256 p.remoteStateIdentity
  mode : ["mock", "live"].contains p.targetContext.mode = true
  provider : p.targetContext.provider = "collibra"
  planner : p.plannerContractVersion ≠ ""
  scanner : p.scannerContractVersion ≠ ""
  planSchema : p.planSchema = planSchema
  assumed : ProperlyAssumed sha256 p

/-- The plan with its assumptions as they are written, in key order. -/
def SavedGovernancePlan.written (p : SavedGovernancePlan) : SavedGovernancePlan :=
  { p with reconciliationAssumptions := p.reconciliationAssumptions.map Json.normalize }

section Document
variable {sha256 : String → String} {isPrintable : Char → Bool}
  {iterErrors : PlanVersion → Json → List PlanSchemaFailure} {p : SavedGovernancePlan}

lemma identitySchema_of (hdigest : HexDigest sha256) {c : ContentIdentity} (h : Computed sha256 c) :
    contentIdentitySchema c.toDict = true := by
  obtain ⟨domainPrefix, payload, rfl⟩ := h
  exact contentIdentitySchema_of hdigest rfl rfl ⟨_, rfl⟩

lemma computed_planIdentityOf (version : PlanVersion) (payload : Json) :
    Computed sha256 (planIdentityOf sha256 version payload) := by
  cases version with
  | v1 => exact ⟨_, _, rfl⟩
  | v2 => exact ⟨_, _, rfl⟩

lemma planIdentityOf_congr (version : PlanVersion) {a b : Json} (h : a.normalize = b.normalize) :
    planIdentityOf sha256 version a = planIdentityOf sha256 version b := by
  cases version with
  | v1 => exact sha256Identity_congr h
  | v2 => exact sha256Identity_congr h

lemma normalize_targetContext (t : TargetContext) : t.toDict.normalize = t.toDict := by
  have hkeys : SortedBy id ["mode", "provider"] := by decide
  exact Json.normalize_obj_self hkeys (by simp)

lemma normalize_actions (actions : List SyncAction) :
    (Json.arr (actions.map SyncAction.toDict)).normalize = .arr (actions.map SyncAction.toDict) := by
  rw [Json.normalize_arr, List.map_map]
  exact congrArg Json.arr (List.map_congr_left (fun a _ => a.normalize_toDict))

def commonKeys : List String :=
  ["actions", "config_identity", "mapping_identity", "plan_schema", "plan_version", "planner_contract_version",
    "policy_identity", "remote_state_identity", "scanner_contract_version", "snapshot_identity", "target_context",
    "target_context_identity"]

lemma commonMembers_keys (p : SavedGovernancePlan) : p.commonMembers.map Prod.fst = commonKeys := rfl

/-- The members both versions carry are written as they are. -/
lemma commonMembers_normal (p : SavedGovernancePlan) : ∀ m ∈ p.commonMembers, m.2.normalize = m.2 := by
  simp only [SavedGovernancePlan.commonMembers, List.forall_mem_cons, normalize_actions, normalize_contentIdentity,
    normalize_targetContext, Json.normalize_str, List.not_mem_nil, false_implies, implies_true, and_true]

lemma commonMembers_normalize (p : SavedGovernancePlan) :
    p.commonMembers.map (fun m => (m.1, m.2.normalize)) = p.commonMembers := by
  have hself : p.commonMembers.map (fun m => (m.1, m.2.normalize)) = p.commonMembers.map id :=
    List.map_congr_left (fun m hm => Prod.ext rfl (commonMembers_normal p m hm))
  rw [hself, List.map_id]

/-- What both versions carry is found in what is written, whatever follows it. -/
lemma get_common (rest : List (String × Json)) {key : String} (hkey : key ∈ commonKeys) :
    Json.get (Json.sortedMembers (p.commonMembers ++ rest)) key = Json.get p.commonMembers key := by
  obtain ⟨j, hj⟩ := Option.isSome_iff_exists.mp (Json.isSome_lookup.mpr (commonMembers_keys p ▸ hkey))
  have hfound : Json.lookup (p.commonMembers ++ rest) key = some j := by
    rw [Json.lookup, Option.map_eq_some_iff] at hj ⊢
    obtain ⟨m, hm, hvalue⟩ := hj
    exact ⟨m, by rw [List.find?_append, hm, Option.some_or], hvalue⟩
  rw [Json.get_sortedMembers, Json.get_of_lookup hfound, Json.get_of_lookup hj]
  exact commonMembers_normal p _ (Json.mem_of_lookup hj)

/-- The two forms of what is hashed. -/
lemma ProperPlan.members (h : ProperPlan sha256 p) :
    (p.planVersion = .v1 ∧ p.reconciliationAssumptions = none ∧ p.reconciliationAssumptionsIdentity = none ∧
      p.canonicalMembersWithoutIdentity = .ok p.commonMembers) ∨
    (p.planVersion = .v2 ∧ ∃ assumptions, assumptionsSchema assumptions = true ∧
      p.reconciliationAssumptions = some assumptions ∧
      p.reconciliationAssumptionsIdentity = some (assumptionsContentIdentity sha256 assumptions) ∧
      p.canonicalMembersWithoutIdentity = .ok (p.commonMembers ++ [("reconciliation_assumptions", assumptions),
        ("reconciliation_assumptions_identity", (assumptionsContentIdentity sha256 assumptions).toDict)])) := by
  have hassumed := h.assumed
  rw [ProperlyAssumed] at hassumed
  cases hversion : p.planVersion with
  | v1 =>
    rw [hversion] at hassumed
    refine Or.inl ⟨rfl, hassumed.1, hassumed.2, ?_⟩
    rw [SavedGovernancePlan.canonicalMembersWithoutIdentity, hversion]
  | v2 =>
    rw [hversion] at hassumed
    obtain ⟨assumptions, haccepted, hassumptions, hidentity⟩ := hassumed
    refine Or.inr ⟨rfl, assumptions, haccepted, hassumptions, hidentity, ?_⟩
    rw [SavedGovernancePlan.canonicalMembersWithoutIdentity, hversion, hassumptions, hidentity]

/-- The schema of its version accepts what is written of a plan. -/
theorem planSchemaAccepts_of (hdigest : HexDigest sha256) (h : ProperPlan sha256 p)
    {members : List (String × Json)} (hmembers : p.canonicalMembersWithoutIdentity = .ok members)
    {c : ContentIdentity} (hc : Computed sha256 c) :
    planSchemaAccepts p.planVersion (.obj (Json.sortedMembers (members ++ [("content_identity", c.toDict)]))) =
      true := by
  have hactions : JsonSchema.array isObject (.arr (p.syncPlan.actions.map SyncAction.toDict)) = true := by
    refine JsonSchema.array_iff.mpr ⟨_, rfl, ?_⟩
    intro j hj
    obtain ⟨a, -, rfl⟩ := List.mem_map.mp hj
    rfl
  have hcontext : targetContextSchema p.targetContext.toDict = true := by
    simp [targetContextSchema, TargetContext.toDict, JsonSchema.object, Json.lookup, JsonSchema.texts, h.provider]
    simpa using h.mode
  have hcontent := identitySchema_of hdigest hc
  have hconfig := identitySchema_of hdigest h.config
  have hsnapshot := identitySchema_of hdigest h.snapshot
  have hpolicy := identitySchema_of hdigest h.policy
  have hmapping := identitySchema_of hdigest h.mapping
  have htarget := identitySchema_of hdigest h.target
  have hremote := identitySchema_of hdigest h.remote
  have hplanner := text_of_ne h.planner
  have hscanner := text_of_ne h.scanner
  rw [planSchemaAccepts, JsonSchema.object_perm (Json.sortedMembers_perm _), List.map_append, List.map_cons,
    List.map_nil, normalize_contentIdentity]
  obtain ⟨hversion, -, -, hform⟩ | ⟨hversion, assumptions, haccepted, -, -, hform⟩ := h.members
  · rw [hmembers, Except.ok.injEq] at hform
    rw [hform, commonMembers_normalize, hversion]
    simp [planProperties, SavedGovernancePlan.commonMembers, JsonSchema.object, Json.lookup, JsonSchema.texts,
      h.planSchema, hversion, hactions, hcontext, hcontent, hconfig, hsnapshot, hpolicy, hmapping, htarget, hremote,
      hplanner, hscanner]
  · have hidentity : contentIdentitySchema (assumptionsContentIdentity sha256 assumptions).toDict = true :=
      identitySchema_of hdigest ⟨_, _, rfl⟩
    have hassumptions := (orderFree_assumptions assumptions).trans haccepted
    rw [hmembers, Except.ok.injEq] at hform
    rw [hform, List.map_append, commonMembers_normalize, hversion]
    simp [planProperties, SavedGovernancePlan.commonMembers, JsonSchema.object, Json.lookup, JsonSchema.texts,
      h.planSchema, hversion, hactions, hcontext, hcontent, hconfig, hsnapshot, hpolicy, hmapping, htarget, hremote,
      hplanner, hscanner, hidentity, hassumptions, normalize_contentIdentity]

section Load
variable {members : List (String × Json)} {c : ContentIdentity}

lemma storedIdentityMatches_toDict (c : ContentIdentity) : storedIdentityMatches c.toDict c = true := by
  simp [storedIdentityMatches, ContentIdentity.toDict, Json.get, Json.lookup]

lemma identityOf_toDict (c : ContentIdentity) : identityOf isPrintable c.toDict = .ok c := rfl

/-- The written document of a plan, told by what its version adds to the members of both. -/
lemma ProperPlan.added (h : ProperPlan sha256 p) (hmembers : p.canonicalMembersWithoutIdentity = .ok members) :
    ∃ rest, members = p.commonMembers ++ rest ∧ (members.map Prod.fst ++ ["content_identity"]).Nodup := by
  obtain ⟨-, -, -, hform⟩ | ⟨-, assumptions, -, -, -, hform⟩ := h.members
  · rw [hmembers, Except.ok.injEq] at hform
    refine ⟨[], by rw [hform, List.append_nil], ?_⟩
    rw [hform, commonMembers_keys]
    decide
  · rw [hmembers, Except.ok.injEq] at hform
    refine ⟨_, hform, ?_⟩
    have hkeys : (commonKeys ++ ["reconciliation_assumptions", "reconciliation_assumptions_identity"] ++
        ["content_identity"]).Nodup := by decide
    rw [hform, List.map_append, commonMembers_keys]
    exact hkeys

theorem validatePlanStructure_ok (hdigest : HexDigest sha256)
    (hvalidator : ∀ v d, iterErrors v d = [] ↔ planSchemaAccepts v d = true) (h : ProperPlan sha256 p)
    (hmembers : p.canonicalMembersWithoutIdentity = .ok members) (hc : Computed sha256 c) :
    validatePlanStructure iterErrors (.obj (Json.sortedMembers (members ++ [("content_identity", c.toDict)]))) =
      .ok (p.planVersion, Json.sortedMembers (members ++ [("content_identity", c.toDict)])) := by
  have haccepted := (hvalidator _ _).mpr (planSchemaAccepts_of hdigest h hmembers hc)
  obtain ⟨rest, rfl, -⟩ := h.added hmembers
  have hversion : Json.get (Json.sortedMembers (p.commonMembers ++ rest ++ [("content_identity", c.toDict)]))
      "plan_version" = .str p.planVersion.value := by
    rw [List.append_assoc, get_common _ (by decide)]
    simp [SavedGovernancePlan.commonMembers, Json.get, Json.lookup]
  rw [validatePlanStructure, hversion]
  simp only [PlanVersion.parse_value, haccepted, List.any_nil, Bool.false_eq_true, if_false, ne_eq, not_true_eq_false]

/-- The assumptions come back in key order, with their own identity. -/
lemma loadAssumptions_ok (h : ProperPlan sha256 p) (hmembers : p.canonicalMembersWithoutIdentity = .ok members) :
    loadAssumptions sha256 isPrintable p.planVersion
        (Json.sortedMembers (members ++ [("content_identity", c.toDict)])) =
      .ok (p.reconciliationAssumptions.map Json.normalize, p.reconciliationAssumptionsIdentity) := by
  obtain ⟨hversion, hnone, hnone', -⟩ | ⟨hversion, assumptions, -, hsome, hsome', hform⟩ := h.members
  · rw [hversion, hnone, hnone']
    rfl
  · rw [hmembers, Except.ok.injEq] at hform
    have hassumptions : Json.get (Json.sortedMembers (members ++ [("content_identity", c.toDict)]))
        "reconciliation_assumptions" = assumptions.normalize := by
      rw [Json.get_sortedMembers, hform]
      simp [SavedGovernancePlan.commonMembers, Json.get, Json.lookup]
    have hidentity : Json.get (Json.sortedMembers (members ++ [("content_identity", c.toDict)]))
        "reconciliation_assumptions_identity" = (assumptionsContentIdentity sha256 assumptions).toDict := by
      rw [Json.get_sortedMembers, hform]
      simp [SavedGovernancePlan.commonMembers, Json.get, Json.lookup, normalize_contentIdentity]
    have hsame : assumptionsContentIdentity sha256 assumptions.normalize = assumptionsContentIdentity sha256 assumptions :=
      sha256Identity_congr (Json.normalize_idem assumptions)
    rw [hversion, loadAssumptions]
    simp only [hassumptions, hidentity, identityOf_toDict, ok_bind, hsame, ne_eq, not_true_eq_false, if_false, hsome,
      hsome', Option.map_some]
    rfl

/-- What is written of a proper plan is loaded back. -/
theorem loadSavedPlan_ok (hdigest : HexDigest sha256)
    (hvalidator : ∀ v d, iterErrors v d = [] ↔ planSchemaAccepts v d = true) (h : ProperPlan sha256 p) :
    ∃ document, p.toDict sha256 = .ok document ∧
      loadSavedPlan sha256 isPrintable iterErrors document.normalize = .ok p.written := by
  obtain ⟨members, hmembers⟩ : ∃ members, p.canonicalMembersWithoutIdentity = .ok members := by
    obtain ⟨-, -, -, hform⟩ | ⟨-, assumptions, -, -, -, hform⟩ := h.members
    · exact ⟨_, hform⟩
    · exact ⟨_, hform⟩
  obtain ⟨c, hc⟩ : ∃ c, c = planIdentityOf sha256 p.planVersion (.obj members) := ⟨_, rfl⟩
  have hcomputed : Computed sha256 c := hc ▸ computed_planIdentityOf _ _
  refine ⟨.obj (members ++ [("content_identity", c.toDict)]), ?_, ?_⟩
  · rw [SavedGovernancePlan.toDict, SavedGovernancePlan.contentIdentity, hmembers, hc]
    rfl
  have hvalid := validatePlanStructure_ok hdigest hvalidator h hmembers hcomputed
  have hassumed : loadAssumptions sha256 isPrintable p.planVersion
      (Json.sortedMembers (members ++ [("content_identity", c.toDict)])) =
        .ok (p.reconciliationAssumptions.map Json.normalize, p.reconciliationAssumptionsIdentity) :=
    loadAssumptions_ok h hmembers
  obtain ⟨rest, hrest, hnodup⟩ := h.added hmembers
  have hnodup : ((members ++ [("content_identity", c.toDict)]).map Prod.fst).Nodup := by
    rw [List.map_append]
    exact hnodup
  have hsame : planIdentityOf sha256 p.planVersion (.obj ((Json.sortedMembers
      (members ++ [("content_identity", c.toDict)])).filter (fun m => m.1 ≠ "content_identity"))) = c :=
    (planIdentityOf_congr _ (Json.normalize_without hnodup)).trans hc.symm
  have hstored : Json.get (Json.sortedMembers (members ++ [("content_identity", c.toDict)])) "content_identity" =
      c.toDict := by
    rw [Json.get_sortedMembers, Json.get_of_lookup, normalize_contentIdentity]
    exact (Json.lookup_eq_some_iff hnodup).mpr (by simp)
  have hget : ∀ key ∈ commonKeys,
      Json.get (Json.sortedMembers (members ++ [("content_identity", c.toDict)])) key =
        Json.get p.commonMembers key := by
    intro key hkey
    rw [hrest, List.append_assoc]
    exact get_common _ hkey
  have hactions : SyncPlan.fromDict isPrintable (.obj [("actions", .arr (p.syncPlan.actions.map SyncAction.toDict))]) =
      .ok p.syncPlan := p.syncPlan.fromDict_toDict isPrintable
  have hcontext : membersOf p.targetContext.toDict =
      [("mode", .str p.targetContext.mode), ("provider", .str p.targetContext.provider)] := rfl
  have hpost : SavedGovernancePlan.postInit sha256 p.written = p.written := by
    obtain ⟨hversion, -⟩ | ⟨hversion, assumptions, -, hsome, hsome', -⟩ := h.members
    · rw [SavedGovernancePlan.postInit, SavedGovernancePlan.written, hversion]
    · rw [SavedGovernancePlan.postInit, SavedGovernancePlan.written, hversion]
      simp [hsome, hsome']
  rw [Json.normalize_obj_eq, loadSavedPlan, hvalid, ok_bind]
  simp (disch := decide) only [fromValidatedDocument, hsame, hstored, storedIdentityMatches_toDict, hassumed, hget,
    Bool.true_eq_false, if_false]
  simp [SavedGovernancePlan.commonMembers, Json.get, Json.lookup, hactions, hcontext, identityOf_toDict, ok_bind,
    Json.pyStr]
  exact congrArg Except.ok hpost

lemma canonicalMembers_two {assumptions : Json} {identity : ContentIdentity} (hversion : p.planVersion = .v2)
    (hassumptions : p.reconciliationAssumptions = some assumptions)
    (hidentity : p.reconciliationAssumptionsIdentity = some identity) :
    p.canonicalMembersWithoutIdentity = .ok (p.commonMembers ++ [("reconciliation_assumptions", assumptions),
      ("reconciliation_assumptions_identity", identity.toDict)]) := by
  rw [SavedGovernancePlan.canonicalMembersWithoutIdentity, hversion, hassumptions, hidentity]

/-- The order of what a proper plan assumes does not show in its identity. -/
lemma contentIdentity_written (h : ProperPlan sha256 p) :
    p.written.contentIdentity sha256 = p.contentIdentity sha256 := by
  have hcommon : p.written.commonMembers = p.commonMembers := rfl
  rw [SavedGovernancePlan.contentIdentity, SavedGovernancePlan.contentIdentity]
  obtain ⟨hversion, hnone, -, hform⟩ | ⟨hversion, assumptions, -, hassumptions, hidentity, hform⟩ := h.members
  · have hwritten : p.written = p := by
      rw [SavedGovernancePlan.written, hnone, Option.map_none, ← hnone]
    rw [hwritten]
  · have hassumed : p.written.reconciliationAssumptions = some assumptions.normalize := by
      rw [SavedGovernancePlan.written, hassumptions, Option.map_some]
    have hwritten : p.written.canonicalMembersWithoutIdentity = .ok (p.written.commonMembers ++
        [("reconciliation_assumptions", assumptions.normalize),
          ("reconciliation_assumptions_identity", (assumptionsContentIdentity sha256 assumptions).toDict)]) :=
      canonicalMembers_two hversion hassumed hidentity
    have hsame : (Json.obj (p.commonMembers ++ [("reconciliation_assumptions", assumptions.normalize),
          ("reconciliation_assumptions_identity", (assumptionsContentIdentity sha256 assumptions).toDict)])).normalize =
        (Json.obj (p.commonMembers ++ [("reconciliation_assumptions", assumptions),
          ("reconciliation_assumptions_identity", (assumptionsContentIdentity sha256 assumptions).toDict)])).normalize := by
      simp only [Json.normalize_obj, List.map_append, List.map_cons, List.map_nil, Json.normalize_idem]
    rw [hwritten, hform, hcommon, ok_bind, ok_bind, planIdentityOf_congr _ hsame]
    rfl

end Load

section Saved
variable {baselineDesired reconciledDesired : CollibraDesiredState} {remoteState : CollibraRemoteState}
  {mappingConfig : CollibraMappingConfig} {physicalIndex : PhysicalReconciliationIndex}

lemma emptyAssumptions_accepted : assumptionsSchema emptyAssumptions = true :=
  assumptionsSchema_of (by simp)

/-- A built plan is proper when what it is told to assume is accepted. -/
lemma properPlan_build {config remote : ContentIdentity} (hconfig : Computed sha256 config)
    (hremote : Computed sha256 remote) {assumptions : Option Json}
    (haccepted : ∀ a ∈ assumptions, assumptionsSchema a = true) (target : TargetContextProjection)
    (syncPlan : SyncPlan) (snapshot : GovernanceSnapshot) (policySet : Json) :
    ProperPlan sha256 (buildSavedPlan sha256 target syncPlan config snapshot policySet mappingConfig remote
      assumptions) := by
  have hmode : ["mock", "live"].contains (targetContextPublic target).mode = true := by
    rw [targetContextPublic]
    cases target.mode <;> rfl
  have hassumed : assumptionsSchema (assumptions.getD emptyAssumptions) = true := by
    cases assumptions with
    | none => exact emptyAssumptions_accepted
    | some a => exact haccepted a rfl
  have hversion : plannerContractVersion ≠ "" := by decide
  have hscanner : scannerContractVersion ≠ "" := by decide
  exact ⟨hconfig, ⟨_, _, rfl⟩, ⟨_, _, rfl⟩, ⟨_, _, rfl⟩, ⟨_, _, rfl⟩, hremote, hmode, rfl, hversion, hscanner, rfl,
    _, hassumed, rfl, rfl⟩

lemma ProperPlan.firstVersion (h : ProperPlan sha256 p) : ProperPlan sha256 p.firstVersion :=
  ⟨h.config, h.snapshot, h.policy, h.mapping, h.target, h.remote, h.mode, h.provider, h.planner, h.scanner,
    h.planSchema, rfl, rfl⟩

/-- A built plan, with or without assumptions, is loaded back equal up to the order of the members of what it
assumes, with the same identity and the same actions; and so is the same plan of the first version. -/
theorem saved_plan_reloads (hdigest : HexDigest sha256)
    (hvalidator : ∀ v d, iterErrors v d = [] ↔ planSchemaAccepts v d = true) {model : GovernanceModel}
    {nameSpace : String} (hindex : buildPhysicalReconciliationIndex model nameSpace = .ok physicalIndex)
    {config remote : ContentIdentity} (hconfig : Computed sha256 config) (hremote : Computed sha256 remote)
    (conflictReport : PropertyConflictReport) (target : TargetContextProjection) (syncPlan : SyncPlan)
    (snapshot : GovernanceSnapshot) (policySet : Json) (reconciled first : Bool) :
    let built := buildSavedPlan sha256 target syncPlan config snapshot policySet mappingConfig remote
      (if reconciled then some (buildReconciliationAssumptions baselineDesired reconciledDesired remoteState
        conflictReport mappingConfig physicalIndex syncPlan) else none)
    let saved := if first then built.firstVersion else built
    ∃ document loaded, saved.toDict sha256 = .ok document ∧
      loadSavedPlan sha256 isPrintable iterErrors document.normalize = .ok loaded ∧ loaded = saved.written ∧
      loaded.contentIdentity sha256 = saved.contentIdentity sha256 ∧
      loaded.syncPlan.actions = saved.syncPlan.actions := by
  intro built saved
  have hbuilt : ProperPlan sha256 built := by
    refine properPlan_build hconfig hremote ?_ target syncPlan snapshot policySet
    intro a ha
    cases reconciled with
    | false => cases ha
    | true =>
      cases ha
      exact assumptionsSchema_build (fun _ _ hget => admitted_of_index hindex hget) syncPlan
  have hsaved : ProperPlan sha256 saved := by
    cases first with
    | false => exact hbuilt
    | true => exact hbuilt.firstVersion
  obtain ⟨document, hdocument, hloaded⟩ := @loadSavedPlan_ok _ isPrintable _ _ hdigest hvalidator hsaved
  exact ⟨document, _, hdocument, hloaded, rfl, contentIdentity_written hsaved, rfl⟩

end Saved

end Document

/-- The plan that first puts a shop into the catalog, with what it assumes. -/
theorem shop_plan_reloads : ∃ physicalIndex desired document loaded,
    buildPhysicalReconciliationIndex customerShop "shop" = .ok physicalIndex ∧
    mapToDesiredState customerShop mockMappingConfig = .ok desired ∧
    (buildSavedPlan constantDigest ⟨.mock, .coreRest⟩ (buildSyncPlan desired (.create [] [] 0 0))
      (configIdentity constantDigest .null) (shopSnapshot customerShop) .null mockMappingConfig
      (remoteStateIdentity constantDigest (remoteStateIdentityProjection (.create [] [] 0 0)))
      (some (buildReconciliationAssumptions desired desired (.create [] [] 0 0)
        (analyzePropertyConflicts (.of []) ordersStatistics) mockMappingConfig physicalIndex
        (buildSyncPlan desired (.create [] [] 0 0))))).toDict constantDigest = .ok document ∧
    loadSavedPlan constantDigest (fun _ => true)
      (fun version d => if planSchemaAccepts version d then [] else [⟨⟨"type", []⟩, ""⟩]) document.normalize =
        .ok loaded ∧
    loaded.syncPlan.actions = (buildSyncPlan desired (.create [] [] 0 0)).actions := by
  have hindexed : (buildPhysicalReconciliationIndex customerShop "shop").toOption.isSome = true := by decide +kernel
  have hmapped : (mapToDesiredState customerShop mockMappingConfig).toOption.isSome = true := by decide +kernel
  obtain ⟨physicalIndex, hindex⟩ := exists_ok hindexed
  obtain ⟨desired, hdesired⟩ := exists_ok hmapped
  have hvalidator : ∀ version d, (if planSchemaAccepts version d then [] else
      [(⟨⟨"type", []⟩, ""⟩ : PlanSchemaFailure)]) = [] ↔ planSchemaAccepts version d = true := by
    intro version d
    split_ifs with h <;> simp [h]
  have hconfig : Computed constantDigest (configIdentity constantDigest .null) := ⟨_, _, rfl⟩
  have hremote : Computed constantDigest (remoteStateIdentity constantDigest
      (remoteStateIdentityProjection (.create [] [] 0 0))) := ⟨_, _, rfl⟩
  obtain ⟨document, loaded, hdocument, hloaded, -, -, hactions⟩ := @saved_plan_reloads constantDigest (fun _ => true)
    _ desired desired (.create [] [] 0 0) mockMappingConfig _ constantDigest_hex hvalidator _ _ hindex _ _ hconfig hremote
    (analyzePropertyConflicts (.of []) ordersStatistics) ⟨.mock, .coreRest⟩
    (buildSyncPlan desired (.create [] [] 0 0)) (shopSnapshot customerShop) .null true false
  exact ⟨physicalIndex, desired, document, loaded, hindex, hdesired, hdocument, hloaded, hactions⟩
end CollibraGovernance.Plans
