import CollibraGovernance.Reconciliation.Recompute

/-! Recomputed assumptions are the saved ones exactly when the decisions inside the boundary are. -/
namespace CollibraGovernance.Reconciliation
open Library Identity Domain Collibra

section Decisions

/-- The decision of a report about a property; a later result replaces an earlier one. -/
def decisionOf (report : PropertyConflictReport) (i : GraphNodeIdentity) (p : PropertyPath) :
    Option PropertyConflictResult :=
  (report.results.filter (fun r => r.objectIdentity = i ∧ r.propertyPath = p)).getLast?

lemma resultLookup_get? (report : PropertyConflictReport) (i : GraphNodeIdentity) (p : PropertyPath) :
    (resultLookup report).get? (i.canonicalBytes, p.toPointer) = decisionOf report i p := by
  rw [resultLookup, Dict.get?_index, decisionOf, Option.map_id]
  simp only [Prod.mk.injEq, GraphNodeIdentity.canonicalBytes_inj.eq_iff, PropertyPath.toPointer_inj.eq_iff, id]

/-- What is decided: the outcome, the effective value and the candidate values with who reports them. -/
structure Decided where
  state : ConflictState
  reason : ConflictReason
  effectiveValue : Option CanonicalValue
  candidates : List (CanonicalValue × List ProvenanceRecord)

def decided (r : PropertyConflictResult) : Decided :=
  ⟨r.state, r.reason, r.effectiveValue, r.valueGroups.map (fun o => (o.value, o.provenance))⟩

lemma state_value_inj : Function.Injective ConflictState.value := by
  intro a b h
  cases a <;> cases b <;> first | rfl | (revert h; decide)

lemma reason_value_inj : Function.Injective ConflictReason.value := by
  intro a b h
  cases a <;> cases b <;> first | rfl | (revert h; decide)

lemma provenance_of_normalize {r s : ProvenanceRecord} (h : r.toDict.normalize = s.toDict.normalize) : r = s := by
  have hkeys : SortedBy id ["observation_mode", "provider_type", "source_ref", "source_version"] := by decide
  rw [ProvenanceRecord.toDict, ProvenanceRecord.toDict, Json.normalize_obj_of_sorted (by exact hkeys),
    Json.normalize_obj_of_sorted (by exact hkeys)] at h
  simp only [List.map_cons, List.map_nil, Json.normalize_str, ProvenanceRecord.versionJson_normalize,
    Json.obj.injEq, List.cons.injEq, Prod.mk.injEq, Json.str.injEq, true_and] at h
  obtain ⟨hmode, hprovider, hsource, hversion, -⟩ := h
  have hmode := ObservationMode.value_inj hmode
  have hprovider := Stripped.ext hprovider
  have hsource := Stripped.ext hsource
  have hversion := ProvenanceRecord.versionJson_inj hversion
  obtain ⟨provider, source, version, mode⟩ := r
  cases hmode
  cases hprovider
  cases hsource
  cases hversion
  rfl

lemma candidate_of_normalize {o o' : PropertyObservation}
    (h : o.toValueGroupDict.normalize = o'.toValueGroupDict.normalize) :
    (o.value, o.provenance) = (o'.value, o'.provenance) := by
  have hkeys : SortedBy id ["provenance", "value"] := by decide
  rw [PropertyObservation.toValueGroupDict, PropertyObservation.toValueGroupDict,
    Json.normalize_obj_of_sorted (by exact hkeys), Json.normalize_obj_of_sorted (by exact hkeys)] at h
  simp only [List.map_cons, List.map_nil, Json.normalize_arr, List.map_map, CanonicalValue.canonical,
    Json.obj.injEq, List.cons.injEq, Prod.mk.injEq, Json.arr.injEq, true_and, and_true] at h
  have hinj : Function.Injective (Json.normalize ∘ ProvenanceRecord.toDict) := fun _ _ => provenance_of_normalize
  rw [CanonicalValue.ext h.2, hinj.list_map h.1]

/-- The members of the document of a decision. -/
lemma decision_lookup (r : PropertyConflictResult) : ∃ members, decisionFromResult r = .obj members ∧
    Json.lookup members "state" = some (.str r.state.value) ∧
    Json.lookup members "reason" = some (.str r.reason.value) ∧
    Json.lookup members "value_groups" = some (.arr (r.valueGroups.map PropertyObservation.toValueGroupDict)) ∧
    Json.lookup members "effective_value" = r.effectiveValue.map CanonicalValue.val := by
  refine ⟨_, rfl, ?_, ?_, ?_, ?_⟩
  · simp [Json.lookup]
  · simp [Json.lookup]
  · simp [Json.lookup]
  · cases r.effectiveValue <;> cases r.winningRuleKey <;> simp [Json.lookup]

/-- The document of a decision tells what was decided. -/
theorem decided_of_normalize {r s : PropertyConflictResult}
    (h : (decisionFromResult r).normalize = (decisionFromResult s).normalize) : decided r = decided s := by
  obtain ⟨ms, hs, hstate, hreason, hgroups, hvalue⟩ := decision_lookup s
  obtain ⟨ms', hr, hstate', hreason', hgroups', hvalue'⟩ := decision_lookup r
  rw [hs] at h
  obtain ⟨members, hmembers, hsame⟩ := exists_obj_of_normalize h
  rw [hr, Json.obj.injEq] at hmembers
  subst hmembers
  have hstate'' := hsame "state"
  have hreason'' := hsame "reason"
  have hgroups'' := hsame "value_groups"
  have hvalue'' := hsame "effective_value"
  rw [hstate, hstate', Option.map_some, Option.map_some, Option.some.injEq, Json.normalize_str,
    Json.normalize_str, Json.str.injEq] at hstate''
  rw [hreason, hreason', Option.map_some, Option.map_some, Option.some.injEq, Json.normalize_str,
    Json.normalize_str, Json.str.injEq] at hreason''
  rw [hgroups, hgroups', Option.map_some, Option.map_some, Option.some.injEq, Json.normalize_arr,
    Json.normalize_arr, Json.arr.injEq, List.map_map, List.map_map] at hgroups''
  have hcandidates : r.valueGroups.map (fun o => (o.value, o.provenance)) =
      s.valueGroups.map (fun o => (o.value, o.provenance)) := by
    refine List.forall₂_eq_eq_eq ▸ ?_
    rw [List.forall₂_map_left_iff, List.forall₂_map_right_iff]
    have hall := List.forall₂_eq_eq_eq (α := Json) ▸ hgroups''
    rw [List.forall₂_map_left_iff, List.forall₂_map_right_iff] at hall
    exact hall.imp (fun _ _ => candidate_of_normalize)
  have heffective : r.effectiveValue = s.effectiveValue := by
    have hval : Function.Injective (Json.normalize ∘ CanonicalValue.val) := by
      intro a b hab
      simp only [Function.comp_apply, CanonicalValue.canonical] at hab
      exact CanonicalValue.ext hab
    rw [hvalue, hvalue', Option.map_map, Option.map_map] at hvalue''
    exact Option.map_injective hval hvalue''
  rw [decided, decided, state_value_inj hstate'', reason_value_inj hreason'', hcandidates, heffective]

end Decisions

/-! A recomputation reads the boundary back and decides it anew. -/

section Reread
variable (isPrintable : Char → Bool) (report : PropertyConflictReport)

/-- The same property of the boundary under the decision of a report. -/
def AssumptionProperty.redecided (p : AssumptionProperty) : AssumptionProperty :=
  { p with decision := decisionOf report p.object p.property }

def AssumptionAction.redecided (a : AssumptionAction) : AssumptionAction :=
  { a with properties := a.properties.map (AssumptionProperty.redecided report) }

lemma identityFromSavedObject_of {i : GraphNodeIdentity} {j : Json} (h : j.normalize = i.toDict.normalize) :
    identityFromSavedObject isPrintable j = .ok i := by
  induction i generalizing j with
  | root n k l hk =>
    obtain ⟨members, rfl, hsame⟩ := exists_obj_of_normalize h
    have hparent : Json.get members "parent" = .null := eq_null_of_normalize (get_of_same hsame "parent" (v := .null) rfl)
    rw [identityFromSavedObject, item_str_of_same hsame "namespace" (s := n.val) rfl, ok_bind,
      item_str_of_same hsame "kind" (s := k.val) rfl, ok_bind, item_str_of_same hsame "logical_id" (s := l.val) rfl, ok_bind,
      if_pos hparent, ok_bind]
    simp [Json.pyStr, GraphNodeIdentity.create, requireNonEmptyStr_stripped, ok_bind, hk, pure, Except.pure]
  | child n k l p ih =>
    obtain ⟨members, rfl, hsame⟩ := exists_obj_of_normalize h
    have hget : (Json.get members "parent").normalize = p.toDict.normalize := get_of_same hsame "parent" rfl
    have hparent : Json.get members "parent" ≠ .null := by
      intro hnull
      rw [hnull, GraphNodeIdentity.normalize_toDict] at hget
      cases p <;> cases hget
    rw [identityFromSavedObject, item_str_of_same hsame "namespace" (s := n.val) rfl, ok_bind,
      item_str_of_same hsame "kind" (s := k.val) rfl, ok_bind, item_str_of_same hsame "logical_id" (s := l.val) rfl, ok_bind,
      if_neg hparent, ih hget]
    simp [Json.pyStr, GraphNodeIdentity.create, requireNonEmptyStr_stripped, ok_bind, pure, Except.pure, Except.map]

lemma recomputedProperty_of {p : AssumptionProperty} {j : Json} (h : j.normalize = p.toDict.normalize) :
    ∃ out, recomputedProperty isPrintable report j = .ok (p.sortKey, out) ∧
      out.normalize = (p.redecided report).toDict.normalize := by
  obtain ⟨members, rfl, hsame⟩ := exists_obj_of_normalize h
  obtain ⟨object, hobject, hnormal⟩ := item_of_same hsame "object" (v := p.object.toDict) rfl
  obtain ⟨roles, hroles, hnormal'⟩ := item_of_same hsame "roles"
    (v := .arr (p.roles.map (fun r => .str r.value))) rfl
  have hpointer := item_str_of_same hsame "property" (s := p.property.toPointer) rfl
  rw [Json.normalize_arr] at hnormal'
  obtain ⟨own, rfl, hown⟩ := exists_arr_of_normalize hnormal'
  have hkeys : SortedBy id ["decision", "object", "property", "roles"] := by decide
  refine ⟨.obj [("decision", (((resultLookup report).get? (p.object.canonicalBytes, p.property.toPointer)).map
    decisionFromResult).getD .null), ("object", object), ("property", .str p.property.toPointer),
    ("roles", .arr own)], ?_, ?_⟩
  · rw [recomputedProperty, Json.asMapping, ok_bind, hobject, ok_bind,
      identityFromSavedObject_of isPrintable hnormal, ok_bind, hpointer, ok_bind, hroles, ok_bind, Json.asArray,
      ok_bind]
    rfl
  · rw [resultLookup_get?, AssumptionProperty.toDict, Json.normalize_obj_of_sorted (by exact hkeys),
      Json.normalize_obj_of_sorted (by exact hkeys)]
    simp only [List.map_cons, List.map_nil, Json.normalize_arr, hnormal, hown]
    rfl

/-- A list whose items are each reread under their keys is reread whole, in its order. -/
lemma reread_list {α κ : Type} [LinearOrder κ] {f : Json → Except String (κ × Json)} {doc d : α → Json}
    {key : α → κ} {as : List α} {items : List Json} (hitems : items.map Json.normalize = as.map (Json.normalize ∘ doc))
    (hsorted : SortedBy key as)
    (hread : ∀ a ∈ as, ∀ j : Json, j.normalize = (doc a).normalize →
      ∃ out, f j = .ok (key a, out) ∧ out.normalize = (d a).normalize) :
    ∃ outs, items.mapM f = .ok outs ∧
      ((sortBy Prod.fst outs).map Prod.snd).map Json.normalize = as.map (Json.normalize ∘ d) := by
  have hall : ∃ outs, items.mapM f = .ok outs ∧
      outs.map (fun o => (o.1, o.2.normalize)) = as.map (fun a => (key a, (d a).normalize)) := by
    clear hsorted
    induction as generalizing items with
    | nil =>
      rw [List.map_nil, List.map_eq_nil_iff] at hitems
      subst hitems
      exact ⟨[], rfl, rfl⟩
    | cons a as ih =>
      obtain ⟨j, rest, rfl, hj, hrest⟩ := List.map_eq_cons_iff.mp hitems
      obtain ⟨out, hout, hnormal⟩ := hread a (List.mem_cons_self ..) j hj
      obtain ⟨outs, houts, hnormals⟩ := ih hrest (fun b hb => hread b (List.mem_cons_of_mem _ hb))
      refine ⟨(key a, out) :: outs, ?_, ?_⟩
      · rw [List.mapM_cons, hout, ok_bind, houts]
        rfl
      · rw [List.map_cons, List.map_cons, hnormals, hnormal]
  obtain ⟨outs, houts, hnormals⟩ := hall
  refine ⟨outs, houts, ?_⟩
  have hsortedOuts : SortedBy Prod.fst outs := by
    have hmap : SortedBy Prod.fst (outs.map (fun o => (o.1, o.2.normalize))) := by
      rw [hnormals, SortedBy.map (fun _ => rfl)]
      exact hsorted
    rw [SortedBy, List.pairwise_map] at hmap
    exact hmap
  have hdocs := congrArg (List.map Prod.snd) hnormals
  rw [List.map_map, List.map_map] at hdocs
  rw [sortBy_eq_self hsortedOuts, List.map_map]
  exact hdocs

lemma recomputedAction_of {a : AssumptionAction} (hsorted : SortedBy AssumptionProperty.sortKey a.properties)
    {j : Json} (h : j.normalize = a.toDict.normalize) :
    ∃ out, recomputedAction isPrintable report j = .ok (toLex ("asset", a.sortKey), out) ∧
      out.normalize = (a.redecided report).toDict.normalize := by
  obtain ⟨members, rfl, hsame⟩ := exists_obj_of_normalize h
  have htype := item_str_of_same hsame "action_type" (s := a.actionType.value) rfl
  have hid := item_str_of_same hsame "local_id" (s := a.localId) rfl
  have hkind := item_str_of_same hsame "object_kind" (s := "asset") rfl
  have hget := get_of_same hsame "properties" (v := .arr (a.properties.map AssumptionProperty.toDict)) rfl
  rw [Json.normalize_arr] at hget
  obtain ⟨saved, hsaved, hitems⟩ := exists_arr_of_normalize hget
  rw [List.map_map] at hitems
  obtain ⟨outs, houts, hnormals⟩ := reread_list (d := fun p => (p.redecided report).toDict) hitems hsorted
    (fun p _ j hj => recomputedProperty_of isPrintable report hj)
  have hkeys : SortedBy id ["action_type", "local_id", "object_kind", "properties"] := by decide
  refine ⟨.obj [("action_type", .str a.actionType.value), ("local_id", .str a.localId), ("object_kind", .str "asset"),
    ("properties", .arr ((sortBy Prod.fst outs).map Prod.snd))], ?_, ?_⟩
  · rw [recomputedAction, Json.asMapping, ok_bind, hsaved, itemsOf_arr, ok_bind, houts, ok_bind, htype, ok_bind,
      hid, ok_bind, hkind, ok_bind]
    rfl
  · rw [AssumptionAction.toDict, Json.normalize_obj_of_sorted (by exact hkeys),
      Json.normalize_obj_of_sorted (by exact hkeys)]
    simp only [List.map_cons, List.map_nil, Json.normalize_arr, hnormals, AssumptionAction.redecided, List.map_map]
    rfl

/-- The recomputed assumptions are those of the saved boundary under the current decisions. -/
theorem recompute_of {actions : List AssumptionAction} (hactions : SortedBy AssumptionAction.sortKey actions)
    (hproperties : ∀ a ∈ actions, SortedBy AssumptionProperty.sortKey a.properties) {saved : Json}
    (h : saved.normalize = (assumptionsDict actions).normalize) :
    ∃ out, recomputeAssumptionsOnSavedBoundary isPrintable report saved = .ok out ∧
      out.normalize = (assumptionsDict (actions.map (AssumptionAction.redecided report))).normalize := by
  obtain ⟨members, rfl, hsame⟩ := exists_obj_of_normalize h
  have hget := get_of_same hsame "actions" (v := .arr (actions.map AssumptionAction.toDict)) rfl
  rw [Json.normalize_arr] at hget
  obtain ⟨items, hitems, hnormal⟩ := exists_arr_of_normalize hget
  rw [List.map_map] at hnormal
  have hsorted : SortedBy (fun a : AssumptionAction => toLex ("asset", a.sortKey)) actions := by
    refine hactions.imp ?_
    intro a b hab
    exact Prod.Lex.toLex_le_toLex.mpr (Or.inr ⟨rfl, hab⟩)
  obtain ⟨outs, houts, hnormals⟩ := reread_list (d := fun a => (a.redecided report).toDict) hnormal hsorted
    (fun a ha j hj => recomputedAction_of isPrintable report (hproperties a ha) hj)
  have hkeys : SortedBy id ["actions", "assumptions_schema", "assumptions_version"] := by decide
  refine ⟨.obj [("actions", .arr ((sortBy Prod.fst outs).map Prod.snd)),
    ("assumptions_schema", .str reconciliationAssumptionsSchema),
    ("assumptions_version", .str reconciliationAssumptionsVersion)], ?_, ?_⟩
  · rw [recomputeAssumptionsOnSavedBoundary, Json.asMapping, ok_bind, hitems, itemsOf_arr, ok_bind, houts, ok_bind]
    rfl
  · rw [assumptionsDict, Json.normalize_obj_of_sorted (by exact hkeys), Json.normalize_obj_of_sorted (by exact hkeys)]
    simp only [List.map_cons, List.map_nil, Json.normalize_arr, hnormals, List.map_map]
    rfl

/-- Assumptions that are written alike decide alike about every property of the boundary. -/
theorem decided_of_assumptionsDict {actions : List AssumptionAction}
    (h : (assumptionsDict (actions.map (AssumptionAction.redecided report))).normalize =
      (assumptionsDict actions).normalize) :
    ∀ a ∈ actions, ∀ p ∈ a.properties,
      (decisionOf report p.object p.property).map decided = p.decision.map decided := by
  have hactions : SortedBy id ["actions", "assumptions_schema", "assumptions_version"] := by decide
  have haction : SortedBy id ["action_type", "local_id", "object_kind", "properties"] := by decide
  have hproperty : SortedBy id ["decision", "object", "property", "roles"] := by decide
  rw [assumptionsDict, assumptionsDict, Json.normalize_obj_of_sorted (by exact hactions),
    Json.normalize_obj_of_sorted (by exact hactions)] at h
  simp only [List.map_cons, List.map_nil, Json.normalize_arr, List.map_map, Json.obj.injEq, List.cons.injEq,
    Prod.mk.injEq, Json.arr.injEq, true_and, and_true] at h
  intro a ha p hp
  have hdoc := List.map_inj_left.mp h a ha
  simp only [Function.comp_apply] at hdoc
  rw [AssumptionAction.toDict, AssumptionAction.toDict, Json.normalize_obj_of_sorted (by exact haction),
    Json.normalize_obj_of_sorted (by exact haction)] at hdoc
  simp only [AssumptionAction.redecided, List.map_cons, List.map_nil, Json.normalize_arr, List.map_map,
    Json.obj.injEq, List.cons.injEq, Prod.mk.injEq, Json.arr.injEq, true_and, and_true] at hdoc
  have hprop := List.map_inj_left.mp hdoc p hp
  simp only [Function.comp_apply] at hprop
  rw [AssumptionProperty.toDict, AssumptionProperty.toDict, Json.normalize_obj_of_sorted (by exact hproperty),
    Json.normalize_obj_of_sorted (by exact hproperty)] at hprop
  simp only [List.map_cons, Json.obj.injEq, List.cons.injEq, Prod.mk.injEq, true_and] at hprop
  have hdecision := hprop.1
  simp only [AssumptionProperty.redecided] at hdecision
  have hne : ∀ r : PropertyConflictResult, (decisionFromResult r).normalize ≠ .null := by
    intro r hnull
    rw [decisionFromResult, Json.normalize_obj] at hnull
    cases hnull
  cases hnew : decisionOf report p.object p.property with
  | none =>
    cases hold : p.decision with
    | none => rfl
    | some s =>
      rw [hnew, hold] at hdecision
      exact absurd hdecision.symm (hne s)
  | some r =>
    cases hold : p.decision with
    | none =>
      rw [hnew, hold] at hdecision
      exact absurd hdecision (hne r)
    | some s =>
      rw [hnew, hold] at hdecision
      exact congrArg some (decided_of_normalize hdecision)

end Reread

section Exact
variable (isPrintable : Char → Bool) (baselineDesired reconciledDesired : CollibraDesiredState)
  (remoteState : CollibraRemoteState) (mappingConfig : CollibraMappingConfig)
  (physicalIndex : PhysicalReconciliationIndex) (syncPlan : SyncPlan) (report : PropertyConflictReport)

lemma mem_assumedActions {a : AssumptionAction} (h : a ∈ assumedActions baselineDesired reconciledDesired remoteState
    report mappingConfig physicalIndex syncPlan) :
    SortedBy AssumptionProperty.sortKey a.properties ∧
      ∀ p ∈ a.properties, p.decision = decisionOf report p.object p.property := by
  rw [assumedActions, mem_sortBy, List.mem_filterMap] at h
  obtain ⟨action, -, hentry⟩ := h
  rw [actionEntry] at hentry
  split_ifs at hentry
  obtain ⟨localId, -, hentry⟩ := Option.bind_eq_some_iff.mp hentry
  obtain ⟨identity, -, hentry⟩ := Option.bind_eq_some_iff.mp hentry
  obtain ⟨baseline, -, hentry⟩ := Option.bind_eq_some_iff.mp hentry
  obtain ⟨reconciled, -, hentry⟩ := Option.bind_eq_some_iff.mp hentry
  dsimp only at hentry
  split at hentry
  · cases hentry
  · cases hentry
    refine ⟨sortBy_sorted _ _, ?_⟩
    intro p hp
    rw [mem_sortBy, actionProperties, List.mem_filterMap] at hp
    obtain ⟨path, -, hp⟩ := hp
    split at hp
    · cases hp
    · cases hp
      exact resultLookup_get? report identity path

/-- Under the report they were built with, assumptions are decided as they are. -/
lemma redecided_assumedActions : (assumedActions baselineDesired reconciledDesired remoteState report mappingConfig
      physicalIndex syncPlan).map (AssumptionAction.redecided report) =
    assumedActions baselineDesired reconciledDesired remoteState report mappingConfig physicalIndex syncPlan := by
  have hself : ∀ a ∈ assumedActions baselineDesired reconciledDesired remoteState report mappingConfig physicalIndex
      syncPlan, a.redecided report = a := by
    intro a ha
    have hdecisions := (mem_assumedActions _ _ _ _ _ _ _ ha).2
    have hproperties : a.properties.map (AssumptionProperty.redecided report) = a.properties := by
      rw [List.map_congr_left (g := id), List.map_id]
      intro p hp
      rw [AssumptionProperty.redecided, ← hdecisions p hp]
      rfl
    rw [AssumptionAction.redecided, hproperties]
  rw [List.map_congr_left hself, List.map_id']

variable (sha256 : String → String)

/-- What is hashed of assumptions. -/
def assumptionsText (assumptions : Json) : String :=
  "gov-reconciliation-assumptions-v1\n" ++ assumptions.canonicalJson

/-- Recomputing the assumptions of a plan, saved in whatever member order, gives them back under an unchanged
report, and gives others under a report that decides some property of the boundary otherwise; where the two
hashed texts do not collide, their identities differ as well. -/
theorem recompute_exact (saved : Json)
    (hsaved : saved.normalize = (buildReconciliationAssumptions baselineDesired reconciledDesired remoteState report
      mappingConfig physicalIndex syncPlan).normalize) :
    (∃ out, recomputeAssumptionsOnSavedBoundary isPrintable report saved = .ok out ∧
        out.normalize = saved.normalize ∧
        assumptionsContentIdentity sha256 out = assumptionsContentIdentity sha256 saved) ∧
      ∀ report' : PropertyConflictReport,
        (∃ a ∈ assumedActions baselineDesired reconciledDesired remoteState report mappingConfig physicalIndex
            syncPlan, ∃ p ∈ a.properties, (decisionOf report p.object p.property).map decided ≠
              (decisionOf report' p.object p.property).map decided) →
        ∃ out, recomputeAssumptionsOnSavedBoundary isPrintable report' saved = .ok out ∧
          out.normalize ≠ saved.normalize ∧
          ((sha256 (assumptionsText out) = sha256 (assumptionsText saved) →
              assumptionsText out = assumptionsText saved) →
            assumptionsContentIdentity sha256 out ≠ assumptionsContentIdentity sha256 saved) := by
  have hbuilt := fun r => recompute_of isPrintable r (sortBy_sorted AssumptionAction.sortKey _)
    (fun a ha => (mem_assumedActions baselineDesired reconciledDesired remoteState mappingConfig physicalIndex syncPlan
      report ha).1) hsaved
  refine ⟨?_, ?_⟩
  · obtain ⟨out, hout, hnormal⟩ := hbuilt report
    rw [← assumedActions, redecided_assumedActions, ← buildReconciliationAssumptions, ← hsaved] at hnormal
    exact ⟨out, hout, hnormal, sha256Identity_congr hnormal⟩
  · rintro report' ⟨a, ha, p, hp, hdiffers⟩
    obtain ⟨out, hout, hnormal⟩ := hbuilt report'
    have hne : out.normalize ≠ saved.normalize := by
      intro hsame
      rw [hnormal, hsaved] at hsame
      have hdecided := decided_of_assumptionsDict report' hsame a ha p hp
      rw [(mem_assumedActions _ _ _ _ _ _ _ ha).2 p hp] at hdecided
      exact hdiffers hdecided.symm
    exact ⟨out, hout, hne, fun hsep hidentity => hne (normalize_eq_of_identity hsep hidentity)⟩

end Exact

section Sole
/-! A planned database about which something is observed only after the plan was made. -/

theorem sole_nonblank : isBlank "d" = false := by decide

theorem sole_displayName : displayNamePresent none = true := rfl
theorem sole_attributes : SortedBy CollibraAttributeSpec.attributeTypeRef [] := List.Pairwise.nil
theorem sole_changed : SortedBy (id : String → String) [] := List.Pairwise.nil
theorem sole_groups : SortedBy PropertyObservation.valueFingerprint [] := List.Pairwise.nil

def soleAsset : CollibraAssetSpec :=
  ⟨"d", "d", "d", "d", none, [], sole_nonblank, sole_nonblank, sole_nonblank, sole_nonblank, sole_displayName,
    sole_attributes⟩

theorem sole_accepted : syncActionError .create .asset none (some soleAsset) none = none := rfl

def soleAction : SyncAction :=
  ⟨.create, .asset, some "d", none, "", some soleAsset, none, [], sole_changed, sole_accepted⟩

def soleIdentity : GraphNodeIdentity := databaseChain (.of "d" sole_nonblank) (.of "d" sole_nonblank)

def soleIndex : PhysicalReconciliationIndex := ⟨Dict.empty.set "d" soleIdentity, .of "d" sole_nonblank⟩

def soleResult : PropertyConflictResult :=
  ⟨soleIdentity, pathName, .unresolvedConflict, .noAuthorityRule, [], none, none, sole_groups⟩

def soleProperties : List AssumptionProperty :=
  [⟨soleIdentity, pathName, [.mutation], none⟩, ⟨soleIdentity, pathDescription, [.mutation], none⟩,
    ⟨soleIdentity, pathOwnership, [.mutation], none⟩]

def soleAssumptions : Json := buildReconciliationAssumptions (.create [soleAsset] []) (.create [soleAsset] [])
  (.create [] [] 0 0) (.of []) mockMappingConfig soleIndex (.create [soleAction])

lemma mem_soleActions : (⟨.create, "d", sortBy AssumptionProperty.sortKey soleProperties⟩ : AssumptionAction) ∈
    assumedActions (.create [soleAsset] []) (.create [soleAsset] []) (.create [] [] 0 0) (.of []) mockMappingConfig
      soleIndex (.create [soleAction]) := by
  have hentry : actionEntry (.create [soleAsset] []) (.create [soleAsset] []) (.create [] [] 0 0) (.of [])
      mockMappingConfig soleIndex soleAction =
        some ⟨.create, "d", sortBy AssumptionProperty.sortKey soleProperties⟩ := rfl
  rw [assumedActions, mem_sortBy, List.mem_filterMap]
  exact ⟨soleAction, SyncPlan.mem_create.mpr (List.mem_singleton_self _), hentry⟩

theorem recompute_exact_sole :
    (∃ out, recomputeAssumptionsOnSavedBoundary (fun _ => true) (.of []) soleAssumptions = .ok out ∧
        out.normalize = soleAssumptions.normalize) ∧
      ∃ out, recomputeAssumptionsOnSavedBoundary (fun _ => true) (.of [soleResult]) soleAssumptions = .ok out ∧
        out.normalize ≠ soleAssumptions.normalize := by
  obtain ⟨⟨out, hout, hsame, -⟩, hdiffers⟩ := recompute_exact (fun _ => true) (.create [soleAsset] [])
    (.create [soleAsset] []) (.create [] [] 0 0) mockMappingConfig soleIndex (.create [soleAction]) (.of []) id
    soleAssumptions rfl
  refine ⟨⟨out, hout, hsame⟩, ?_⟩
  have hname : (⟨soleIdentity, pathName, [.mutation], none⟩ : AssumptionProperty) ∈
      sortBy AssumptionProperty.sortKey soleProperties := mem_sortBy.mpr (List.mem_cons_self ..)
  have hnew : decisionOf (.of [soleResult]) soleIdentity pathName = some soleResult := by
    rw [decisionOf, PropertyConflictReport.of]
    simp [sortBy, soleResult]
  have hdecided : (decisionOf (.of []) soleIdentity pathName).map decided ≠
      (decisionOf (.of [soleResult]) soleIdentity pathName).map decided := by
    rw [hnew]
    exact (Option.some_ne_none _).symm
  obtain ⟨out', hout', hne, -⟩ := hdiffers (.of [soleResult]) ⟨_, mem_soleActions, _, hname, hdecided⟩
  exact ⟨out', hout', hne⟩

end Sole
end CollibraGovernance.Reconciliation
