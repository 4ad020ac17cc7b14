import CollibraGovernance.Collibra.PlannedMutations
import CollibraGovernance.Collibra.MappedModel
import CollibraGovernance.Scanner.UniqueIds

/-! A fresh plan finds every endpoint, and creates what is referred to before what refers to it. -/
namespace CollibraGovernance.Collibra
open Library Domain

section Closed
variable {model : GovernanceModel} {config : CollibraMappingConfig} {desired : CollibraDesiredState}

/-- Which element of a model directly contains which. -/
def containments (m : GovernanceModel) : List (String × String) :=
  m.databases.flatMap (fun d => d.schemas.flatMap (fun s => (d.id, s.id) ::
    s.tables.flatMap (fun t => (s.id, t.id) :: t.columns.map (fun c => (t.id, c.id)))))

/-- Relationships are mapped between mapped tables. -/
lemma mapRelationship_mapped {st st' : MappingState} {r : Relationship}
    (h : mapRelationship config st r = .ok st') :
    r.fromTableId ∈ st.assetIds ∧ r.toTableId ∈ st.assetIds ∧ st'.assetIds = st.assetIds := by
  unfold mapRelationship at h
  split_ifs at h with hfrom hto
  obtain ⟨rel, -, h⟩ := bind_eq_ok.mp h
  cases h
  exact ⟨hfrom, hto, rfl⟩

lemma mapRelationships_mapped {rels : List Relationship} {st st' : MappingState}
    (h : rels.foldlM (mapRelationship config) st = .ok st') :
    ∀ r ∈ rels, r.fromTableId ∈ st.assetIds ∧ r.toTableId ∈ st.assetIds := by
  induction rels generalizing st with
  | nil =>
    intro r hr
    cases hr
  | cons r rest ih =>
    rw [List.foldlM_cons] at h
    obtain ⟨st₁, hfirst, hrest⟩ := bind_eq_ok.mp h
    obtain ⟨hfrom, hto, hids⟩ := mapRelationship_mapped hfirst
    intro x hx
    rcases List.mem_cons.mp hx with rfl | hx
    · exact ⟨hfrom, hto⟩
    · rw [← hids]
      exact ih hrest x hx

/-- Both ends of a mapped model's relationships are elements of it. -/
lemma relationships_mapped (h : mapToDesiredState model config = .ok desired) :
    ∀ r ∈ model.relationships, r.fromTableId ∈ elementIds model ∧ r.toTableId ∈ elementIds model := by
  obtain ⟨st, hdatabases, h⟩ := bind_eq_ok.mp h
  obtain ⟨st', hrelationships, -⟩ := bind_eq_ok.mp h
  have hids := (Extends.foldlM databaseElementIds (databaseLinks config)
    (fun _ _ _ => mapDatabase_extends) hdatabases).assetIds
  have hall := mapRelationships_mapped hrelationships
  rw [hids, MappingState.initial, List.nil_append] at hall
  exact hall

lemma containments_elements {p : String × String} (h : p ∈ containments model) :
    p.1 ∈ elementIds model ∧ p.2 ∈ elementIds model := by
  simp only [containments, List.mem_flatMap, List.mem_cons, List.mem_map] at h
  simp only [elementIds, databaseElementIds, schemaElementIds, tableElementIds, List.mem_flatMap,
    List.mem_cons, List.mem_map]
  obtain ⟨d, hd, s, hs, rfl | ⟨t, ht, rfl | ⟨c, hc, rfl⟩⟩⟩ := h
  · exact ⟨⟨d, hd, Or.inl rfl⟩, d, hd, Or.inr ⟨s, hs, Or.inl rfl⟩⟩
  · exact ⟨⟨d, hd, Or.inr ⟨s, hs, Or.inl rfl⟩⟩, d, hd, Or.inr ⟨s, hs, Or.inr ⟨t, ht, Or.inl rfl⟩⟩⟩
  · exact ⟨⟨d, hd, Or.inr ⟨s, hs, Or.inr ⟨t, ht, Or.inl rfl⟩⟩⟩,
      d, hd, Or.inr ⟨s, hs, Or.inr ⟨t, ht, Or.inr ⟨c, hc, rfl⟩⟩⟩⟩

lemma containmentLinks_elements {l : Link} (h : l ∈ containmentLinks config model) :
    (l.2.1, l.2.2.1) ∈ containments model := by
  simp only [containmentLinks, databaseLinks, schemaLinks, tableLinks, List.mem_flatMap, List.mem_cons,
    List.mem_map] at h
  simp only [containments, List.mem_flatMap, List.mem_cons, List.mem_map]
  obtain ⟨d, hd, s, hs, rfl | ⟨t, ht, rfl | ⟨c, hc, rfl⟩⟩⟩ := h
  · exact ⟨d, hd, s, hs, Or.inl rfl⟩
  · exact ⟨d, hd, s, hs, Or.inr ⟨t, ht, Or.inl rfl⟩⟩
  · exact ⟨d, hd, s, hs, Or.inr ⟨t, ht, Or.inr ⟨c, hc, rfl⟩⟩⟩

/-- The mapping is closed: every relationship runs between desired assets. -/
theorem endpoints_desired (h : mapToDesiredState model config = .ok desired)
    {rel : CollibraRelationshipSpec} (hrel : rel ∈ desired.relationships) :
    (∃ a ∈ desired.assets, a.localId = rel.sourceLocalId) ∧
      ∃ a ∈ desired.assets, a.localId = rel.targetLocalId := by
  have hrepresents := mapToDesiredState_represents h
  have hasset : ∀ id, id ∈ elementIds model → ∃ a ∈ desired.assets, a.localId = id :=
    fun id hid => List.mem_map.mp (hrepresents.assets.mem_iff.mpr hid)
  have hlink := hrepresents.relationships.mem_iff.mp (List.mem_map_of_mem (f := relationshipLink) hrel)
  rcases List.mem_append.mp hlink with hcontains | hforeign
  · obtain ⟨hs, ht⟩ := containments_elements (containmentLinks_elements hcontains)
    exact ⟨hasset _ hs, hasset _ ht⟩
  · obtain ⟨r, hr, hsame⟩ := List.mem_map.mp hforeign
    obtain ⟨hs, ht⟩ := relationships_mapped h r hr
    have hsource : r.fromTableId = rel.sourceLocalId := congrArg (fun l : Link => l.2.1) hsame
    have htarget : r.toTableId = rel.targetLocalId := congrArg (fun l : Link => l.2.2.1) hsame
    exact ⟨hasset _ (hsource ▸ hs), hasset _ (htarget ▸ ht)⟩

end Closed

section Seed

/-- An action about an existing asset makes its id known. -/
lemma mem_seed {plan : SyncPlan} {a : SyncAction} {l id : String} (ha : a ∈ plan.actions)
    (hkind : a.objectKind = .asset) (htype : a.actionType ≠ .create) (hlocal : a.localId = some l)
    (hremote : a.remoteId = some id) (hl : l ≠ "") (hid : id ≠ "") :
    l ∈ (seedRemoteIdsFromPlan plan).keys := by
  unfold seedRemoteIdsFromPlan
  generalize plan.actions = actions at ha ⊢
  induction actions using List.reverseRecOn with
  | nil => cases ha
  | append_singleton actions b ih =>
    rw [List.foldl_append, List.foldl_cons, List.foldl_nil]
    rcases List.mem_append.mp ha with ha | hb
    · have hkept := ih ha
      cases b.localId with
      | none => exact hkept
      | some l' =>
        cases b.remoteId with
        | none => exact hkept
        | some id' =>
          dsimp only
          split_ifs
          · exact Dict.mem_keys_set.mpr (Or.inr hkept)
          · exact hkept
    · cases List.mem_singleton.mp hb
      simp only [hlocal, hremote, hkind, ne_eq, hl, hid, htype, not_false_eq_true, and_self, if_true]
      exact Dict.mem_keys_set.mpr (Or.inl rfl)

end Seed

section Resolvable
variable {desired : CollibraDesiredState} {remote : CollibraRemoteState}

/-- Every desired asset is known, created or updated. -/
lemma resolvable_of_desired (hids : (desired.assets.map CollibraAssetSpec.localId).Nodup)
    {a : CollibraAssetSpec} (ha : a ∈ desired.assets) :
    Resolvable (buildSyncPlan desired remote) a.localId := by
  have hplanned : ∀ x ∈ plannedMutations desired remote, x.resolves = some a.localId →
      Resolvable (buildSyncPlan desired remote) a.localId :=
    fun x hx hresolves => Or.inr ⟨x, (mem_orderedMutatingActions.mp hx).1, hresolves⟩
  cases hr : (remoteAssetIndex remote).get? a.localId with
  | none =>
    obtain ⟨x, hx, hq⟩ := exists_create hids ha hr
    exact hplanned x hx (by rw [SyncAction.resolves, hq])
  | some r =>
    by_cases hdiff : assetChangedFields a r = []
    · have hmem : desiredAssetAction (remoteAssetIndex remote) (a.localId, a) ∈
          (buildSyncPlan desired remote).actions := by
        rw [(buildSyncPlan_perm desired remote).mem_iff]
        exact List.mem_append_left _ (assetAction_mem hids ha)
      have haction : desiredAssetAction (remoteAssetIndex remote) (a.localId, a) =
          .unchangedAsset a.localId a r := by
        simp only [desiredAssetAction, hr, hdiff, if_true]
      rw [haction] at hmem
      exact Or.inl (mem_seed hmem rfl (by simp [SyncAction.unchangedAsset]) rfl rfl
        (ne_empty_of_not_blank a.localId_nonblank) (ne_empty_of_not_blank r.remoteId_nonblank))
    · obtain ⟨x, hx, hq⟩ := exists_update hids ha hr hdiff
      exact hplanned x hx (by rw [SyncAction.resolves, hq])

variable {model : GovernanceModel} {config : CollibraMappingConfig}

/-- A plan of a mapped model can resolve every endpoint. -/
theorem endpointsResolvable_of_mapped (h : mapToDesiredState model config = .ok desired) :
    EndpointsResolvable (buildSyncPlan desired remote) := by
  have hrepresents := mapToDesiredState_represents h
  have hids := hrepresents.assets.nodup_iff.mpr hrepresents.ids_nodup
  intro a ha rel hreq
  obtain ⟨q, hq, hplanned⟩ := @plannedMutations_planned desired remote a
    (mem_orderedMutatingActions.mpr ⟨ha, by rw [hreq]; rfl⟩)
  rw [hreq] at hq
  cases hq
  cases hplanned with
  | link hrel _ =>
    obtain ⟨⟨x, hx, hsource⟩, y, hy, htarget⟩ := endpoints_desired h hrel
    exact ⟨hsource ▸ resolvable_of_desired hids hx, htarget ▸ resolvable_of_desired hids hy⟩

end Resolvable

section Order
variable {desired : CollibraDesiredState} {remote : CollibraRemoteState}

/-- The place of the prefix of an id in the order of creates. -/
def idKind (localId : String) : Nat :=
  assetCreateOrder.findIdx (fun p => p.toList.isPrefixOf localId.toList)

/-- The mutation may stand after the other one. -/
def MayFollow : Mutation → Mutation → Prop
  | .createRelationship .., .createAsset _ => False
  | .createAsset a, .createAsset a' => idKind a.localId ≤ idKind a'.localId
  | _, _ => True

/-- A planned create carries the id of its asset. -/
lemma created_localId {a : SyncAction} {asset : CollibraAssetSpec} (ha : a ∈ plannedMutations desired remote)
    (hreq : a.request = some (.createAsset asset)) : a.localId = some asset.localId := by
  obtain ⟨hmem, -⟩ := mem_plannedMutations.mp ha
  obtain ⟨htype, hkind, hasset⟩ := request_createAsset.mp hreq
  rcases List.mem_append.mp hmem with hmem | hmem
  · rcases List.mem_append.mp hmem with hmem | hmem <;> obtain ⟨e, he, rfl⟩ := List.mem_map.mp hmem
    · rw [desiredAssetAction_desiredAsset, Option.some_inj] at hasset
      rw [desiredAssetAction_localId, ← hasset, (mem_desiredAssetIndex he).2]
    · cases htype
  · rw [objectKind_of_mem_relationshipActions hmem] at hkind
    cases hkind

lemma idKind_le_of_assetRank {a b : SyncAction} {l l' : String} (ha : a.localId = some l)
    (hb : b.localId = some l') (h : assetRank a ≤ assetRank b) : idKind l ≤ idKind l' := by
  rw [assetRank, assetRank, ha, hb] at h
  exact Prod.Lex.monotone_fst _ _ h

/-- The executor's order puts creates first, by the prefixes of their ids, and relationships last. -/
lemma plannedMutations_order : (plannedMutations desired remote).Pairwise
    (fun a b => ∀ m m', Realizes a m → Realizes b m' → MayFollow m m') := by
  have hlater : ∀ {a b : SyncAction} {m m' : Mutation}, Realizes a m → Realizes b m' →
      (b.actionType ≠ .create ∨ b.objectKind ≠ .asset) → MayFollow m m' := by
    intro a b m m' _ hb hnot
    cases m' with
    | createAsset asset => exact absurd hb.2.1 (hnot.resolve_left (not_not.mpr hb.1))
    | updateAsset => cases m <;> trivial
    | createRelationship => cases m <;> trivial
  have hcreates : (sortBy assetRank (ofKind .create .asset
      (mutatingActions (buildSyncPlan desired remote)))).Pairwise
        (fun a b => ∀ m m', Realizes a m → Realizes b m' → MayFollow m m') := by
    refine (sortBy_sorted assetRank _).imp_of_mem ?_
    intro a b ha hb hle m m' hm hm'
    have hplanned : ∀ x, x ∈ sortBy assetRank (ofKind .create .asset
        (mutatingActions (buildSyncPlan desired remote))) → x ∈ plannedMutations desired remote :=
      fun x hx => List.mem_append_left _ (List.mem_append_left _ hx)
    have hkind : ∀ x, x ∈ sortBy assetRank (ofKind .create .asset
        (mutatingActions (buildSyncPlan desired remote))) → x.actionType = .create ∧ x.objectKind = .asset :=
      fun x hx => (mem_ofKind.mp (mem_sortBy.mp hx)).2
    cases m with
    | createAsset asset =>
      cases m' with
      | createAsset asset' =>
        exact idKind_le_of_assetRank (created_localId (hplanned a ha) (request_createAsset.mpr hm))
          (created_localId (hplanned b hb) (request_createAsset.mpr hm')) hle
      | updateAsset => trivial
      | createRelationship => trivial
    | updateAsset =>
      have htype := hm.1
      rw [(hkind a ha).1] at htype
      cases htype
    | createRelationship =>
      have hobject := hm.2.1
      rw [(hkind a ha).2] at hobject
      cases hobject
  have hof : ∀ {t k} {x : SyncAction}, (t ≠ .create ∨ k ≠ .asset) →
      x ∈ ofKind t k (mutatingActions (buildSyncPlan desired remote)) →
        (x.actionType ≠ .create ∨ x.objectKind ≠ .asset) := by
    intro t k x hnot hx
    obtain ⟨-, rfl, rfl⟩ := mem_ofKind.mp hx
    exact hnot
  rw [plannedMutations, orderedMutatingActions, List.pairwise_append, List.pairwise_append]
  refine ⟨⟨hcreates, ?_, ?_⟩, ?_, ?_⟩
  · refine List.pairwise_of_forall_mem_list ?_
    intro a _ b hb m m' hm hm'
    exact hlater hm hm' (hof (Or.inl (by decide)) (mem_sortBy.mp hb))
  · intro a _ b hb m m' hm hm'
    exact hlater hm hm' (hof (Or.inl (by decide)) (mem_sortBy.mp hb))
  · refine List.pairwise_of_forall_mem_list ?_
    intro a _ b hb m m' hm hm'
    exact hlater hm hm' (hof (Or.inr (by decide)) (mem_sortBy.mp hb))
  · intro a _ b hb m m' hm hm'
    exact hlater hm hm' (hof (Or.inr (by decide)) (mem_sortBy.mp hb))

lemma exists_of_mem_realizes {actions : List SyncAction} {log : List Mutation}
    (hlog : List.Forall₂ Realizes actions log) {m : Mutation} (hm : m ∈ log) :
    ∃ a ∈ actions, Realizes a m := by
  induction hlog with
  | nil => cases hm
  | @cons a m₀ rest log hfirst hrest ih =>
    rcases List.mem_cons.mp hm with rfl | hm
    · exact ⟨a, List.mem_cons_self .., hfirst⟩
    · obtain ⟨b, hb, hrealizes⟩ := ih hm
      exact ⟨b, List.mem_cons_of_mem _ hb, hrealizes⟩

/-- What holds along the actions holds along the mutations that realize them. -/
lemma pairwise_of_realizes {actions : List SyncAction} {log : List Mutation}
    (hlog : List.Forall₂ Realizes actions log)
    (h : actions.Pairwise (fun a b => ∀ m m', Realizes a m → Realizes b m' → MayFollow m m')) :
    log.Pairwise MayFollow := by
  induction hlog with
  | nil => exact List.Pairwise.nil
  | @cons a m rest log hm hrest ih =>
    obtain ⟨hfirst, hlater⟩ := List.pairwise_cons.mp h
    refine List.pairwise_cons.mpr ⟨?_, ih hlater⟩
    intro m' hm'
    obtain ⟨b, hb, hrealizes⟩ := exists_of_mem_realizes hrest hm'
    exact hfirst b hb m m' hm hrealizes

variable {log before after : List Mutation}

/-- No asset is created after a relationship. -/
lemma created_before_relationship (h : log.Pairwise MayFollow) {rel : CollibraRelationshipSpec}
    {source target : String} (hlog : log = before ++ .createRelationship rel source target :: after)
    {asset : CollibraAssetSpec} (hasset : .createAsset asset ∈ log) : .createAsset asset ∈ before := by
  rw [hlog, List.pairwise_append] at h
  rw [hlog] at hasset
  rcases List.mem_append.mp hasset with hbefore | hlater
  · exact hbefore
  · rcases List.mem_cons.mp hlater with heq | hafter
    · cases heq
    · exact ((List.pairwise_cons.mp h.2.1).1 _ hafter).elim

/-- An asset of an earlier kind is created before one of a later kind. -/
lemma created_before_kind (h : log.Pairwise MayFollow) {child parent : CollibraAssetSpec}
    (hlog : log = before ++ .createAsset child :: after) (hparent : .createAsset parent ∈ log)
    (hkind : idKind parent.localId < idKind child.localId) : .createAsset parent ∈ before := by
  rw [hlog, List.pairwise_append] at h
  rw [hlog] at hparent
  rcases List.mem_append.mp hparent with hbefore | hlater
  · exact hbefore
  · rcases List.mem_cons.mp hlater with heq | hafter
    · cases heq
      omega
    · have hle : idKind child.localId ≤ idKind parent.localId := (List.pairwise_cons.mp h.2.1).1 _ hafter
      omega

end Order

section Built
variable {model : GovernanceModel}

/-- The ids of the elements are those of the constructors. -/
structure BuiltIds (m : GovernanceModel) : Prop where
  databases : ∀ d ∈ m.databases, ∃ source database, makeDatabaseId source database = .ok d.id
  schemas : ∀ s ∈ m.schemas, ∃ source database schema, makeSchemaId source database schema = .ok s.id
  tables : ∀ t ∈ m.tables, ∃ source database schema table,
    makeTableId source database schema table = .ok t.id
  columns : ∀ t ∈ m.tables, ∀ c ∈ t.columns, ∃ source database schema table column,
    makeColumnId source database schema table column = .ok c.id

lemma idKind_database (path : String) : idKind ("db:" ++ path) = 0 := by
  simp [idKind, assetCreateOrder, List.findIdx_cons, String.toList_append, List.isPrefixOf]

lemma idKind_schema (path : String) : idKind ("sch:" ++ path) = 1 := by
  simp [idKind, assetCreateOrder, List.findIdx_cons, String.toList_append, List.isPrefixOf]

lemma idKind_table (path : String) : idKind ("tbl:" ++ path) = 2 := by
  simp [idKind, assetCreateOrder, List.findIdx_cons, String.toList_append, List.isPrefixOf]

lemma idKind_column (path : String) : idKind ("col:" ++ path) = 3 := by
  simp [idKind, assetCreateOrder, List.findIdx_cons, String.toList_append, List.isPrefixOf]

/-- Containers are of an earlier kind than what they contain. -/
lemma BuiltIds.idKind_lt (h : BuiltIds model) {p : String × String} (hp : p ∈ containments model) :
    idKind p.1 < idKind p.2 := by
  simp only [containments, List.mem_flatMap, List.mem_cons, List.mem_map] at hp
  obtain ⟨d, hd, s, hs, hp⟩ := hp
  have hschema : s ∈ model.schemas := List.mem_flatMap.mpr ⟨d, hd, hs⟩
  obtain ⟨source, database, hdatabaseId⟩ := h.databases d hd
  obtain ⟨source', database', schema, hschemaId⟩ := h.schemas s hschema
  have hs1 : idKind s.id = 1 := by rw [(makeSchemaId_ok hschemaId).1, idKind_schema]
  rcases hp with rfl | ⟨t, ht, hp⟩
  · dsimp only
    rw [hs1, (makeDatabaseId_ok hdatabaseId).1, idKind_database]
    omega
  · have htable : t ∈ model.tables := List.mem_flatMap.mpr ⟨s, hschema, ht⟩
    obtain ⟨_, _, _, _, htableId⟩ := h.tables t htable
    have ht2 : idKind t.id = 2 := by rw [(makeTableId_ok htableId).1, idKind_table]
    rcases hp with rfl | ⟨c, hc, rfl⟩
    · dsimp only
      omega
    · obtain ⟨_, _, _, _, _, hcolumnId⟩ := h.columns t htable c hc
      dsimp only
      rw [ht2, (makeColumnId_ok hcolumnId).1, idKind_column]
      omega

end Built

section Main
variable {σ : Type} {adapter : CollibraAdapter σ} {model : GovernanceModel} {config : CollibraMappingConfig}
  {desired : CollibraDesiredState} {remote : CollibraRemoteState}

/-- A fresh plan runs to its end, assets before what refers to them and parents before children. -/
theorem fresh_plan_runs (h : mapToDesiredState model config = .ok desired) (hok : Obliging adapter) (s : σ) :
    ∃ result s' log, executeSyncPlan (recording adapter) (buildSyncPlan desired remote) true (s, []) =
        (result, (s', log)) ∧
      (executeSyncPlan adapter (buildSyncPlan desired remote) true s).1 = result ∧
      result.success = true ∧ result.error = none ∧
      List.Forall₂ Realizes (plannedMutations desired remote) log ∧
      (∀ before rel source target after,
        log = before ++ .createRelationship rel source target :: after →
          ∀ asset, .createAsset asset ∈ log →
            (asset.localId = rel.sourceLocalId ∨ asset.localId = rel.targetLocalId) →
              .createAsset asset ∈ before) ∧
      (BuiltIds model → ∀ p ∈ containments model, ∀ before child after,
        log = before ++ .createAsset child :: after → child.localId = p.2 →
          ∀ parent, .createAsset parent ∈ log → parent.localId = p.1 → .createAsset parent ∈ before) := by
  have hready := (ordered_ready_iff (buildSyncPlan desired remote)).mpr (endpointsResolvable_of_mapped h)
  have hend : ∀ log, (runActions (recording adapter) (seedRemoteIdsFromPlan (buildSyncPlan desired remote)) 0
      (orderedMutatingActions (mutatingActions (buildSyncPlan desired remote))) (s, log)).1.failure = none :=
    fun log => runActions_obliging hok.recording hready
  obtain ⟨done, rest, log, s', error, hsplit, hall, hexec⟩ :=
    execute_log adapter (buildSyncPlan desired remote) s
  have happly := applySyncPlanMutations_eq (recording adapter) (buildSyncPlan desired remote) (s, [])
  have hnone : rest.head? = none := by
    have hfail := congrArg (fun r => r.1.failedAction) (hexec.symm.trans happly)
    simpa [hend] using hfail
  have herror : error = none := by
    have hfail := congrArg (fun r => r.1.error) (hexec.symm.trans happly)
    simpa [hend] using hfail
  rw [List.head?_eq_none_iff.mp hnone, List.append_nil] at hsplit
  have hplanned : List.Forall₂ Realizes (plannedMutations desired remote) log := by
    rw [plannedMutations, hsplit]
    exact hall
  have horder := pairwise_of_realizes hplanned plannedMutations_order
  refine ⟨_, s', log, hexec, ?_, ?_, herror, hplanned, ?_, ?_⟩
  · rw [← (executeSyncPlan_recording adapter (buildSyncPlan desired remote) true s []).1, hexec]
  · simp [hnone]
  · intro before rel source target after hlog asset hasset _
    exact created_before_relationship horder hlog hasset
  · intro hbuilt p hp before child after hlog hchild parent hparent hlocal
    refine created_before_kind horder hlog hparent ?_
    rw [hlocal, hchild]
    exact hbuilt.idKind_lt hp

/-- A plan for a scanned table runs to its end on an empty remote side. -/
theorem shop_plan_runs : ∃ model desired, Scanner.shopScan [Scanner.shopTable "a" "b"] = .ok model ∧
    mapToDesiredState model mockMappingConfig = .ok desired ∧
    (executeSyncPlan agreeable (buildSyncPlan desired (CollibraRemoteState.create [] [] 0 0)) true ()).1.success =
      true := by
  obtain ⟨model, hmodel⟩ := exists_ok (x := Scanner.shopScan [Scanner.shopTable "a" "b"]) (by decide +kernel)
  have hmapped : ((Scanner.shopScan [Scanner.shopTable "a" "b"]).bind
      (fun m => mapToDesiredState m mockMappingConfig)).toOption.isSome = true := by
    decide +kernel
  rw [hmodel] at hmapped
  obtain ⟨desired, hdesired⟩ := exists_ok hmapped
  obtain ⟨result, s', log, -, hresult, hsuccess, -⟩ :=
    @fresh_plan_runs Unit agreeable model mockMappingConfig desired (CollibraRemoteState.create [] [] 0 0) hdesired
      agreeable_obliging ()
  exact ⟨model, desired, hmodel, hdesired, hresult ▸ hsuccess⟩

end Main
end CollibraGovernance.Collibra
