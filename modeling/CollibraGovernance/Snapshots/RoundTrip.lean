import CollibraGovernance.Comparison.RoundTrip
import CollibraGovernance.Snapshots.ReadBack

/-! A written snapshot of a closed model is loaded back, with the identity it was written with. -/
namespace CollibraGovernance.Snapshots
open Library Domain Identity

section ForeignKeys
variable {ts : List Table} {ps : List ParsedTable} {seen : List String} {path : String}

lemma parsedIds (hps : List.Forall₂ ParsedFrom ts ps) : ps.map (fun p => p.table.id) = ts.map Table.id := by
  induction hps with
  | nil => rfl
  | cons hp _ ih => rw [List.map_cons, List.map_cons, ih, hp.table, Table.id_unlinked]

lemma columnsByTable_parsed (hps : List.Forall₂ ParsedFrom ts ps) (hids : (ts.map Table.id).Nodup) {t : Table}
    (ht : t ∈ ts) : columnsByTable ps t.id = columnIdsOf t := by
  induction hps with
  | nil => exact absurd ht List.not_mem_nil
  | @cons u p us ps hp _ ih =>
    obtain ⟨hu, hus⟩ := List.nodup_cons.mp hids
    have hid : p.table.id = u.id := by rw [hp.table, Table.id_unlinked]
    unfold columnsByTable at ih ⊢
    rcases List.mem_cons.mp ht with rfl | ht
    · rw [List.find?_cons_of_pos (by simpa using hid), Option.map_some, Option.getD_some, hp.columnIds]
    · have hne : u.id ≠ t.id := fun h => hu (h ▸ List.mem_map_of_mem ht)
      rw [List.find?_cons_of_neg (by simpa [hid] using hne)]
      exact ih hus ht

/-- A foreign key leads from columns of its table to columns of another one. -/
structure KeyClosed (ts : List Table) (t : Table) (k : ForeignKey) : Prop where
  table : k.tableId = t.id
  columns : ∀ c ∈ k.columnIds, c ∈ columnIdsOf t
  referenced : ∃ r ∈ ts, r.id = k.referencedTableId ∧ ∀ c ∈ k.referencedColumnIds, c ∈ columnIdsOf r

theorem foreignKey_readBack (hps : List.Forall₂ ParsedFrom ts ps) (hids : (ts.map Table.id).Nodup) {t : Table}
    (ht : t ∈ ts) {k : ForeignKey} (hclosed : KeyClosed ts t k) (h : (seen ++ [k.id]).Nodup) :
    foreignKeyFromDict ps path t.id seen k.toDict.normalize = .ok (k, seen ++ [k.id]) := by
  obtain ⟨r, hr, hid, hreferenced⟩ := hclosed.referenced
  have hknown : ¬ k.referencedTableId ∉ ps.map (fun p => p.table.id) := by
    rw [not_not, parsedIds hps, ← hid]
    exact List.mem_map_of_mem hr
  have hcolumns : ∀ message path, columnIdsFromList (columnsByTable ps t.id) message path (k.columnIds.map .str) =
      .ok k.columnIds := by
    intro message path
    rw [columnsByTable_parsed hps hids ht]
    exact columnIds_written hclosed.columns (columnIdsOf_proper t)
  have hothers : ∀ message path, columnIdsFromList (columnsByTable ps k.referencedTableId) message path
      (k.referencedColumnIds.map .str) = .ok k.referencedColumnIds := by
    intro message path
    rw [← hid, columnsByTable_parsed hps hids hr]
    exact columnIds_written hreferenced (columnIdsOf_proper r)
  rw [ForeignKey.toDict, Json.normalize_obj_eq, foreignKeyFromDict, requireMapping_ok.mpr rfl, ok_bind,
    textField_written rfl k.id_nonblank, ok_bind, registerId_new h, ok_bind,
    parentId_written rfl k.tableId_nonblank hclosed.table, ok_bind, listField_written rfl, ok_bind, normalize_ids,
    hclosed.table, hcolumns, ok_bind, textField_written rfl k.referencedTableId_nonblank, ok_bind, if_neg hknown,
    listField_written rfl, ok_bind, normalize_ids, hothers, ok_bind, if_neg (not_not.mpr k.length_eq),
    textField_written rfl k.name_nonblank, ok_bind, ← hclosed.table, raised_ok.mpr k.create_self]
  rfl

/-- The foreign keys of all tables are read after the tables. -/
theorem foreignKeys_readBack (hps : List.Forall₂ ParsedFrom ts ps) (hids : (ts.map Table.id).Nodup)
    (hclosed : ∀ t ∈ ts, ∀ k ∈ t.foreignKeys, KeyClosed ts t k)
    (h : (seen ++ (ts.flatMap Table.foreignKeys).map ForeignKey.id).Nodup) :
    foreignKeysFromDict ps seen =
      .ok (ts.flatMap Table.foreignKeys, seen ++ (ts.flatMap Table.foreignKeys).map ForeignKey.id) := by
  have hkeys : (ts.flatMap Table.foreignKeys).flatMap (fun k => [k.id]) =
      (ts.flatMap Table.foreignKeys).map ForeignKey.id := List.map_eq_flatMap.symm
  have hentries : List.Forall₂ (fun (k : ForeignKey) (entry : String × Json × String) =>
      ∀ (i : Nat) (seen : List String), (seen ++ [k.id]).Nodup →
        ∃ y, foreignKeyFromDict ps entry.2.2 entry.1 seen entry.2.1 = .ok (y, seen ++ [k.id]) ∧ k = y)
      (ts.flatMap Table.foreignKeys) (pendingForeignKeys ps) := by
    have hmem := (List.forall₂_and_left ts ps (p := fun t => t ∈ ts) (R := ParsedFrom)).mpr ⟨fun _ ht => ht, hps⟩
    refine List.rel_flatMap hmem ?_
    rintro t p ⟨ht, hp⟩
    rw [List.forall₂_map_right_iff, hp.table, Table.id_unlinked]
    have hpending : List.Forall₂ (fun (k : ForeignKey) (entry : Json × String) => entry.1 = k.toDict.normalize)
        t.foreignKeys p.pending := by
      have heq := List.forall₂_eq_eq_eq (α := Json) ▸ hp.pending.symm
      rw [List.forall₂_map_left_iff, List.forall₂_map_right_iff] at heq
      exact heq.imp fun _ _ h => h.symm
    have howned := (List.forall₂_and_left t.foreignKeys p.pending (p := fun k => k ∈ t.foreignKeys)).mpr
      ⟨fun _ hk => hk, hpending⟩
    refine howned.imp ?_
    rintro k entry ⟨hk, hentry⟩ i seen hnew
    rw [hentry]
    exact ⟨k, foreignKey_readBack hps hids ht (hclosed t ht k hk) hnew, rfl⟩
  obtain ⟨ys, hread, hys⟩ := readEach_written hentries 0 seen (by rwa [hkeys])
  rw [foreignKeysFromDict, hread, hkeys, eq_map_of_forall₂ (f := id) hys, List.map_id]

lemma rebuildTable_unlinked {keys : List ForeignKey} {t : Table}
    (hkeys : keys.filter (fun k => k.tableId = t.id) = t.foreignKeys) :
    rebuildTable keys t.unlinked = .ok t.canonical := by
  rw [rebuildTable, Table.id_unlinked, hkeys]
  exact raised_ok.mpr t.canonical.create_self

lemma rebuildSchema_unlinked {keys : List ForeignKey} {s : Schema}
    (hkeys : ∀ t ∈ s.tables, keys.filter (fun k => k.tableId = t.id) = t.foreignKeys) :
    rebuildSchema keys s.unlinked = .ok s.canonical := by
  have htables : s.unlinked.tables.mapM (rebuildTable keys) = .ok (s.tables.map Table.canonical) := by
    rw [show s.unlinked.tables = s.tables.map Table.unlinked from rfl, List.mapM_map]
    exact mapM_eq_map fun t ht => rebuildTable_unlinked (hkeys t ht)
  rw [rebuildSchema, htables, ok_bind]
  exact raised_ok.mpr s.canonical.create_self

/-- A relationship leads between known tables, along a foreign key between them if it names one. -/
structure RelationshipClosed (ts : List Table) (r : Relationship) : Prop where
  source : ∃ t ∈ ts, t.id = r.fromTableId
  target : ∃ t ∈ ts, t.id = r.toTableId
  key : ∀ id ∈ r.foreignKeyId, ∃ k ∈ ts.flatMap Table.foreignKeys,
    k.id = id ∧ k.tableId = r.fromTableId ∧ k.referencedTableId = r.toTableId

lemma knownTableId_of {id message : String} (h : ∃ t ∈ ts, t.id = id) :
    knownTableId (ts.map Table.id) id message path = .ok () := by
  obtain ⟨t, ht, rfl⟩ := h
  exact if_pos (List.mem_map_of_mem ht)

lemma relationshipForeignKey_written {r : Relationship} (hclosed : RelationshipClosed ts r)
    (hids : ((ts.flatMap Table.foreignKeys).map ForeignKey.id).Nodup) :
    relationshipForeignKey (ts.flatMap Table.foreignKeys) path r.fromTableId r.toTableId
      ((r.foreignKeyId.map Json.str).getD .null).normalize = .ok r.foreignKeyId := by
  cases hid : r.foreignKeyId with
  | none => rfl
  | some id =>
    obtain ⟨k, hk, rfl, hfrom, hto⟩ := hclosed.key id hid
    have hfound : (ts.flatMap Table.foreignKeys).find? (fun k' => k'.id = k.id) = some k := by
      obtain ⟨k', hk'⟩ := Option.isSome_iff_exists.mp (List.find?_isSome
        (p := fun k' : ForeignKey => k'.id = k.id) |>.mpr ⟨k, hk, decide_eq_true rfl⟩)
      have hsame := List.find?_some hk'
      rw [decide_eq_true_eq] at hsame
      rw [hk', List.inj_on_of_nodup_map hids (List.mem_of_find?_eq_some hk') hk hsame]
    rw [Option.map_some, Option.getD_some, Json.normalize_str, relationshipForeignKey,
      requireText_ok.mpr ⟨rfl, ne_empty_of_not_blank k.id_nonblank⟩, ok_bind, hfound]
    · dsimp only
      rw [if_neg (not_not.mpr hfrom), if_neg (not_not.mpr hto)]
    · intro h
      cases h

theorem relationship_readBack {r : Relationship} (hclosed : RelationshipClosed ts r)
    (hids : ((ts.flatMap Table.foreignKeys).map ForeignKey.id).Nodup) (h : (seen ++ [r.id]).Nodup) :
    relationshipFromDict (ts.map Table.id) (ts.flatMap Table.foreignKeys) path seen r.toDict.normalize =
      .ok (r.canonical, seen ++ [r.id]) := by
  have hcreated : ∀ path, (Relationship.create r.id r.name r.fromTableId r.toTableId r.foreignKeyId
      r.description.normalize).mapError (fun message => payloadFailure message path) = .ok r.canonical :=
    fun _ => mapError_eq_ok.mpr r.canonical.create_self
  rw [Relationship.toDict, Json.normalize_obj_eq, relationshipFromDict, requireMapping_ok.mpr rfl, ok_bind,
    textField_written rfl r.id_nonblank, ok_bind, registerId_new h, ok_bind,
    textField_written rfl r.fromTableId_nonblank, ok_bind, textField_written rfl r.toTableId_nonblank, ok_bind,
    knownTableId_of hclosed.source, ok_bind, knownTableId_of hclosed.target, ok_bind, get_written rfl]
  dsimp only
  rw [relationshipForeignKey_written hclosed hids, ok_bind, textField_written rfl r.name_nonblank, ok_bind,
    description_written rfl, hcreated]
  rfl

end ForeignKeys

section LoadOrder
/-! The ids in the order in which the loader meets them. -/

def foreignKeyIds (ts : List Table) : List String := (ts.flatMap Table.foreignKeys).map ForeignKey.id

lemma tableElements_ids (t : Table) :
    (tableElements t).map Element.id = tableIds t ++ t.foreignKeys.map ForeignKey.id := by
  simp [tableElements, tableElement, columnElement, primaryKeyElement, foreignKeyElement, tableIds, columnIdsOf,
    primaryKeyIds, Element.id, Function.comp_def]

lemma schemaElements_ids (s : Schema) :
    ((schemaElements s).map Element.id).Perm (schemaIds s ++ foreignKeyIds s.tables) := by
  have hids : (schemaElements s).map Element.id =
      s.id :: s.tables.flatMap (fun t => tableIds t ++ t.foreignKeys.map ForeignKey.id) := by
    simp [schemaElements, schemaElement, Element.id, List.map_flatMap, tableElements_ids]
  have hkeys : foreignKeyIds s.tables = s.tables.flatMap (fun t => t.foreignKeys.map ForeignKey.id) :=
    List.map_flatMap ..
  rw [hids, hkeys, schemaIds, List.cons_append]
  exact (List.flatMap_append_perm _ _ _).symm.cons _

lemma loadOrder_perm {m : GovernanceModel} {source : DataSource} {database : Database}
    (hsource : m.dataSources = [source]) (hdatabase : source.databases = [database]) :
    (elementIdsOf m).Perm ([source.id, database.id] ++ database.schemas.flatMap schemaIds ++ foreignKeyIds m.tables ++
      m.relationships.map Relationship.id) := by
  have htables : foreignKeyIds m.tables = database.schemas.flatMap (fun s => foreignKeyIds s.tables) := by
    simp [foreignKeyIds, GovernanceModel.tables, GovernanceModel.schemas, GovernanceModel.databases, hsource,
      hdatabase, List.flatMap_assoc, List.map_flatMap]
  have hids : elementIdsOf m = [source.id, database.id] ++
      database.schemas.flatMap (fun s => (schemaElements s).map Element.id) ++ m.relationships.map Relationship.id := by
    simp [elementIdsOf, elements, hsource, dataSourceElements, dataSourceElement, hdatabase, databaseElements,
      databaseElement, Element.id, List.map_flatMap, Function.comp_def, relationshipElement]
  have hschemas : (database.schemas.flatMap (fun s => (schemaElements s).map Element.id)).Perm
      (database.schemas.flatMap schemaIds ++ database.schemas.flatMap (fun s => foreignKeyIds s.tables)) :=
    (List.Perm.flatMap_left _ fun s _ => schemaElements_ids s).trans (List.flatMap_append_perm _ _ _).symm
  rw [hids, htables, List.append_assoc _ _ (database.schemas.flatMap fun s => foreignKeyIds s.tables)]
  exact (hschemas.append_left _).append_right _

end LoadOrder

section Model
variable {m : GovernanceModel} {source : DataSource} {database : Database}

lemma tables_of_closed (h : Closed m source database) : m.tables = database.schemas.flatMap Schema.tables := by
  simp [GovernanceModel.tables, GovernanceModel.schemas, GovernanceModel.databases, h.dataSources, h.databases]

lemma tableIds_nodup (h : Closed m source database) : (m.tables.map Table.id).Nodup := by
  have hids := (loadOrder_perm h.dataSources h.databases).nodup_iff.mp h.ids
  have hschemas : (database.schemas.flatMap schemaIds).Nodup :=
    hids.of_append_left.of_append_left.of_append_right
  refine hschemas.sublist ?_
  rw [tables_of_closed h, List.map_flatMap]
  refine List.Sublist.flatMap_right _ fun s _ => List.Sublist.cons _ ?_
  rw [List.map_eq_flatMap]
  exact List.Sublist.flatMap_right _ fun t _ => by simp [tableIds]

lemma tableClosed_of (h : Closed m source database) {s : Schema} (hs : s ∈ database.schemas) {t : Table}
    (ht : t ∈ s.tables) : TableClosed s.id t := by
  have hmem : t ∈ m.tables := by
    rw [tables_of_closed h]
    exact List.mem_flatMap.mpr ⟨s, hs, ht⟩
  exact ⟨h.table_parent s hs t ht, h.primaryKey_table t hmem, h.keys.primaryKeys t hmem⟩

lemma keyClosed_of (h : Closed m source database) {t : Table} (ht : t ∈ m.tables) {k : ForeignKey}
    (hk : k ∈ t.foreignKeys) : KeyClosed m.tables t k :=
  ⟨h.foreignKey_table t ht k hk, h.keys.foreignKeys t ht k hk, h.keys.referenced t ht k hk⟩

lemma relationshipClosed_of (h : Closed m source database) {r : Relationship} (hr : r ∈ m.relationships) :
    RelationshipClosed m.tables r := by
  refine ⟨h.relationship_from r hr, h.keys.relationships r hr, ?_⟩
  intro id hid
  obtain ⟨t, ht, k, hk, hkey⟩ := h.keys.relationship_keys r hr id hid
  exact ⟨k, List.mem_flatMap.mpr ⟨t, ht, hk⟩, hkey⟩

/-- The data source and the database as the loader finds them in a written model. -/
def writtenRoots (source : DataSource) (database : Database) : Roots where
  dataSource := Json.sortedMembers [("id", .str source.id), ("name", .str source.name),
    ("system_type", .str source.systemType), ("databases", .arr [database.toDict]),
    ("description", source.description), ("ownership", ownershipToDict source.ownership),
    ("technical_attributes", .obj (sortBy Prod.fst source.technicalAttributes))]
  dataSourceId := source.id
  dataSourceName := source.name
  dataSourceSystemType := source.systemType
  database := Json.sortedMembers [("id", .str database.id), ("name", .str database.name),
    ("datasource_id", .str database.datasourceId), ("schemas", .arr (database.schemas.map Schema.toDict)),
    ("description", database.description), ("ownership", ownershipToDict database.ownership)]
  databaseId := database.id
  databaseName := database.name
  schemas := database.schemas.map (Json.normalize ∘ Schema.toDict)

lemma onlyEntry_one {entry : Json} {message path : String} : onlyEntry (.arr [entry]) message path = .ok entry := rfl

lemma registerId_first {id path : String} : registerId [] id path = .ok [id] := registerId_new (List.nodup_singleton id)

lemma roots_readBack (h : Closed m source database) {rest : List (String × Json)} :
    rootsFromDict (Json.sortedMembers (("data_sources", .arr (m.dataSources.map DataSource.toDict)) :: rest)) =
      .ok (writtenRoots source database) := by
  have hids := (loadOrder_perm h.dataSources h.databases).nodup_iff.mp h.ids
  have hnew : ([source.id] ++ [database.id]).Nodup := hids.of_append_left.of_append_left.of_append_left
  rw [rootsFromDict, get_written (Json.lookup_cons_self ..), h.dataSources, List.map_singleton, Json.normalize_arr,
    List.map_singleton, onlyEntry_one, ok_bind, DataSource.toDict, Json.normalize_obj_eq, requireMapping_ok.mpr rfl,
    ok_bind, textField_written rfl source.id_nonblank, ok_bind, registerId_first, ok_bind,
    textField_written rfl source.name_nonblank, ok_bind, textField_written rfl source.systemType_nonblank, ok_bind,
    get_written rfl]
  dsimp only
  rw [h.databases, List.map_singleton, Json.normalize_arr, List.map_singleton, onlyEntry_one, ok_bind,
    Database.toDict, Json.normalize_obj_eq, requireMapping_ok.mpr rfl, ok_bind,
    textField_written rfl database.id_nonblank, ok_bind, registerId_new hnew, ok_bind,
    textField_written rfl database.name_nonblank, ok_bind,
    parentId_written rfl database.datasourceId_nonblank h.database_parent, ok_bind, listField_written rfl, ok_bind, List.map_map]
  rfl

/-- The tables of the schemas as read. -/
lemma parsedTables {ss : List Schema} {ps : List ParsedSchema} (h : List.Forall₂ SchemaParsedFrom ss ps) :
    List.Forall₂ ParsedFrom (ss.flatMap Schema.tables) (ps.flatMap ParsedSchema.tables) :=
  List.rel_flatMap h fun _ _ hp => hp.tables

lemma schemas_readBack (h : Closed m source database) :
    ∃ tables, List.Forall₂ ParsedFrom m.tables tables ∧ schemasFromDict (writtenRoots source database) =
      .ok (database.schemas.map Schema.canonical, tables, m.tables.flatMap Table.foreignKeys,
        [source.id, database.id] ++ database.schemas.flatMap schemaIds ++ foreignKeyIds m.tables) := by
  have hids := (loadOrder_perm h.dataSources h.databases).nodup_iff.mp h.ids
  have hkeys := hids.of_append_left
  have htables := tables_of_closed h
  have hentries : List.Forall₂ (fun s raw => ∀ (i : Nat) (seen : List String), (seen ++ schemaIds s).Nodup →
      ∃ y, schemaFromDict (schemaPath i) database.id seen raw = .ok (y, seen ++ schemaIds s) ∧ SchemaParsedFrom s y)
      database.schemas (database.schemas.map (Json.normalize ∘ Schema.toDict)) := by
    rw [List.forall₂_map_right_iff]
    exact List.forall₂_same.mpr fun s hs i seen hnew =>
      schema_readBack (h.schema_parent s hs) (fun t ht => tableClosed_of h hs ht) hnew
  obtain ⟨ps, hread, hps⟩ := readEach_written hentries 0 [source.id, database.id] hkeys.of_append_left
  have hparsed : List.Forall₂ ParsedFrom m.tables (ps.flatMap ParsedSchema.tables) := htables ▸ parsedTables hps
  have hforeign := foreignKeys_readBack hparsed (tableIds_nodup h) (fun t ht k hk => keyClosed_of h ht hk) hkeys
  have hrebuilt : ps.mapM (fun p => rebuildSchema (m.tables.flatMap Table.foreignKeys) p.schema) =
      .ok (database.schemas.map Schema.canonical) := by
    rw [mapM_eq_ok, List.forall₂_map_right_iff]
    have hmem := (List.forall₂_and_left database.schemas ps (p := fun s => s ∈ database.schemas)).mpr
      ⟨fun _ hs => hs, hps⟩
    refine (hmem.imp ?_).flip
    rintro s p ⟨hs, hp⟩
    change rebuildSchema _ p.schema = .ok s.canonical
    rw [hp.schema]
    refine rebuildSchema_unlinked fun t ht => filter_flatMap_owned (tableIds_nodup h) h.foreignKey_table ?_
    rw [htables]
    exact List.mem_flatMap.mpr ⟨s, hs, ht⟩
  refine ⟨ps.flatMap ParsedSchema.tables, hparsed, ?_⟩
  have hroots : readEach (fun index => schemaFromDict (schemaPath index) (writtenRoots source database).databaseId) 0
      (writtenRoots source database).seen (writtenRoots source database).schemas =
        .ok (ps, [source.id, database.id] ++ database.schemas.flatMap schemaIds) := hread
  rw [schemasFromDict, hroots, ok_bind]
  dsimp only
  rw [hforeign, ok_bind, hrebuilt, ok_bind]
  rfl

lemma dataSource_readBack (h : Closed m source database) :
    dataSourceFromDict (writtenRoots source database) (database.schemas.map Schema.canonical) =
      .ok (source.canonical, database.canonical) := by
  have hdatabase : raised (Database.create database.id database.name source.id (database.schemas.map Schema.canonical)
      database.description.normalize database.ownership) = .ok database.canonical := by
    rw [← h.database_parent]
    exact raised_ok.mpr database.canonical.create_self
  have hsource : raised (DataSource.create source.id source.name source.systemType [database.canonical]
      source.description.normalize source.ownership (Json.sortedMembers source.technicalAttributes)) =
        .ok source.canonical := by
    have hdatabases : source.canonical.databases = [database.canonical] :=
      congrArg (List.map Database.canonical) h.databases
    rw [← hdatabases]
    exact raised_ok.mpr source.canonical.create_self
  rw [dataSourceFromDict, writtenRoots, ownership_written rfl, ok_bind, description_written rfl]
  dsimp only
  rw [hdatabase, ok_bind, ownership_written rfl, ok_bind, technicalAttributes_written rfl, ok_bind,
    description_written rfl, hsource]
  rfl

lemma model_readBack (h : Closed m source database) {tables : List ParsedTable}
    (htables : List.Forall₂ ParsedFrom m.tables tables) :
    modelFromDict (Json.sortedMembers [("data_sources", .arr (m.dataSources.map DataSource.toDict)),
        ("relationships", .arr (m.relationships.map Relationship.toDict))]) source.canonical tables
      (m.tables.flatMap Table.foreignKeys)
      ([source.id, database.id] ++ database.schemas.flatMap schemaIds ++ foreignKeyIds m.tables) = .ok m.canonical := by
  have hids := (loadOrder_perm h.dataSources h.databases).nodup_iff.mp h.ids
  have hkeys : (foreignKeyIds m.tables).Nodup := hids.of_append_left.of_append_right
  have hnames : m.relationships.flatMap (fun r => [r.id]) = m.relationships.map Relationship.id :=
    List.map_eq_flatMap.symm
  have hentries : List.Forall₂ (fun (r : Relationship) raw => ∀ (i : Nat) (seen : List String),
      (seen ++ [r.id]).Nodup → ∃ y, relationshipFromDict (m.tables.map Table.id)
        (m.tables.flatMap Table.foreignKeys) ("/governance/relationships/" ++ toString i) seen raw =
          .ok (y, seen ++ [r.id]) ∧ r.canonical = y)
      m.relationships (m.relationships.map (Json.normalize ∘ Relationship.toDict)) := by
    rw [List.forall₂_map_right_iff]
    exact List.forall₂_same.mpr fun r hr i seen hnew =>
      ⟨_, relationship_readBack (relationshipClosed_of h hr) hkeys hnew, rfl⟩
  obtain ⟨rs, hread, hrs⟩ := readEach_written hentries 0
    ([source.id, database.id] ++ database.schemas.flatMap schemaIds ++ foreignKeyIds m.tables) (by rwa [hnames])
  have hcreated : (GovernanceModel.create [source.canonical] (m.relationships.map Relationship.canonical)).mapError
      (fun message => payloadFailure message "/governance") = .ok m.canonical := by
    have hsources : m.canonical.dataSources = [source.canonical] :=
      congrArg (List.map DataSource.canonical) h.dataSources
    rw [← hsources]
    exact mapError_eq_ok.mpr m.canonical.create_self
  rw [modelFromDict, listField_written rfl, ok_bind, List.map_map, parsedIds htables, hread, ok_bind]
  dsimp only
  rw [eq_map_of_forall₂ hrs, hcreated]

end Model
end CollibraGovernance.Snapshots
