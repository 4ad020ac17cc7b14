import CollibraGovernance.Scanner.Faithful
import CollibraGovernance.Scanner.UniqueIds
import CollibraGovernance.Snapshots.WriteLoad

/-! The snapshot that is exported of a scan: when the ids that its loader registers are distinct. -/
namespace CollibraGovernance.Scanner
open Library Domain

section Valid
variable {m : GovernanceModel}

lemma requireKnown_ok {known ids : List String} {u : Unit} :
    requireKnown known ids = .ok u ↔ ∀ i ∈ ids, i ∈ known := by
  unfold requireKnown
  split_ifs with h
  · simpa using h
  · simpa using h

/-- What the graph check has seen of the relationships. -/
lemma relationship_of_valid (h : validateGraphIntegrity m = .ok ()) {r : Relationship} (hr : r ∈ m.relationships) :
    (∃ t ∈ m.tables, t.id = r.fromTableId) ∧ (∃ t ∈ m.tables, t.id = r.toTableId) ∧
      ∃ t ∈ m.tables, ∃ k ∈ t.foreignKeys, r.foreignKeyId = some k.id := by
  obtain ⟨us, -, h⟩ := bind_eq_ok.mp h
  obtain ⟨vs, hvs, -⟩ := bind_eq_ok.mp h
  obtain ⟨v, -, hv⟩ := (mapM_mem hvs).2 r hr
  obtain ⟨u, htables, hv⟩ := bind_eq_ok.mp hv
  have htable : ∀ i ∈ [r.fromTableId, r.toTableId], ∃ t ∈ m.tables, t.id = i := by
    intro i hi
    obtain ⟨t, ht, hti⟩ := Dict.mem_keys_index.mp (requireKnown_ok.mp htables i hi)
    exact ⟨t, ht, hti⟩
  refine ⟨htable _ (by simp), htable _ (by simp), ?_⟩
  cases hkey : r.foreignKeyId with
  | none =>
    rw [hkey] at hv
    cases hv
  | some i =>
    rw [hkey] at hv
    obtain ⟨k, hk, rfl⟩ := List.mem_map.mp (requireKnown_ok.mp hv i (List.mem_singleton_self i))
    obtain ⟨t, ht, hk⟩ := List.mem_flatMap.mp hk
    exact ⟨t, ht, k, hk, rfl⟩

/-- `columns_by_table`: of the last table of an id. -/
def knownColumns (m : GovernanceModel) (tableId : String) : List String :=
  (((Dict.index Table.id id m.tables).get? tableId).elim [] Table.columns).map Column.id

/-- What the graph check has seen of a table and its keys, once tables go by their ids. -/
lemma keys_of_valid (hids : (m.tables.map Table.id).Nodup) (h : validateGraphIntegrity m = .ok ()) {t : Table}
    (ht : t ∈ m.tables) :
    (∀ k ∈ t.primaryKey, k.tableId = t.id → ∀ c ∈ k.columnIds, c ∈ t.columns.map Column.id) ∧
      ∀ k ∈ t.foreignKeys, (k.tableId = t.id → ∀ c ∈ k.columnIds, c ∈ t.columns.map Column.id) ∧
        ∃ r ∈ m.tables, r.id = k.referencedTableId ∧ ∀ c ∈ k.referencedColumnIds, c ∈ r.columns.map Column.id := by
  obtain ⟨us, hus, -⟩ := bind_eq_ok.mp h
  have hget : ∀ t ∈ m.tables, (Dict.index Table.id id m.tables).get? t.id = some t :=
    fun t ht => Dict.get?_index_of_nodup hids ht
  have hlisted : t ∈ (Dict.index Table.id id m.tables).entries.map Prod.snd :=
    List.mem_map.mpr ⟨(t.id, t), Dict.get?_eq_some.mp (hget t ht), rfl⟩
  obtain ⟨u, -, hu⟩ := (mapM_mem hus).2 t hlisted
  have hchecked : (∀ k ∈ t.primaryKey, requireKnown (knownColumns m k.tableId) k.columnIds = .ok ()) ∧
      ∃ vs, t.foreignKeys.mapM (fun k => do
        requireKnown (Dict.index Table.id id m.tables).keys [k.tableId, k.referencedTableId]
        requireKnown (knownColumns m k.tableId) k.columnIds
        requireKnown (knownColumns m k.referencedTableId) k.referencedColumnIds) = .ok vs := by
    cases hprimary : t.primaryKey with
    | none =>
      rw [hprimary] at hu
      obtain ⟨vs, hvs, -⟩ := bind_eq_ok.mp hu
      exact ⟨fun k hk => absurd hk (by simp), vs, hvs⟩
    | some key =>
      rw [hprimary] at hu
      obtain ⟨⟨⟩, -, hu⟩ := bind_eq_ok.mp hu
      obtain ⟨⟨⟩, hcolumns, hu⟩ := bind_eq_ok.mp hu
      obtain ⟨vs, hvs, -⟩ := bind_eq_ok.mp hu
      exact ⟨fun k hk => Option.some.inj hk ▸ hcolumns, vs, hvs⟩
  obtain ⟨hprimary, vs, hvs⟩ := hchecked
  refine ⟨?_, ?_⟩
  · intro k hk htable
    have hcolumns := requireKnown_ok.mp (hprimary k hk)
    rwa [knownColumns, htable, hget t ht] at hcolumns
  · intro k hk
    obtain ⟨v, -, hv⟩ := (mapM_mem hvs).2 k hk
    obtain ⟨u₁, htables, hv⟩ := bind_eq_ok.mp hv
    obtain ⟨u₂, hcolumns, hreferenced⟩ := bind_eq_ok.mp hv
    refine ⟨?_, ?_⟩
    · intro htable
      have hcolumns := requireKnown_ok.mp hcolumns
      rwa [knownColumns, htable, hget t ht] at hcolumns
    · obtain ⟨r, hr, hid⟩ := Dict.mem_keys_index.mp (requireKnown_ok.mp htables k.referencedTableId (by simp))
      have hreferenced := requireKnown_ok.mp hreferenced
      rw [knownColumns, ← hid, hget r hr] at hreferenced
      exact ⟨r, hr, hid, hreferenced⟩

end Valid

section Built
variable {sourceName : String} {databaseRow : DatabaseRow} {c : CatalogRows} {m : GovernanceModel} {p : ScanParts}

/-- A foreign key stands in its table, and its relationship leads along it. -/
lemma buildForeignKey_linked {tables : Dict TableKey (Library.Group TableColumnRow)} {databaseName : String}
    {e : ConstraintKey × Library.Group ForeignKeyRow} {k : TableKey × ForeignKey × Relationship}
    (h : buildForeignKey sourceName databaseName tables e = .ok k) :
    k.2.1.tableId = tableIdOf sourceName databaseName k.1 ∧ k.2.2.fromTableId = k.2.1.tableId ∧
      k.2.2.toTableId = k.2.1.referencedTableId ∧ k.2.2.foreignKeyId = some k.2.1.id := by
  unfold buildForeignKey at h
  dsimp only at h
  obtain ⟨tableId, htable, h⟩ := bind_eq_ok.mp h
  obtain ⟨referencedTableId, -, h⟩ := bind_eq_ok.mp h
  obtain ⟨sourceIds, -, h⟩ := bind_eq_ok.mp h
  obtain ⟨referencedIds, -, h⟩ := bind_eq_ok.mp h
  obtain ⟨id, -, h⟩ := bind_eq_ok.mp h
  obtain ⟨foreignKey, hk, h⟩ := bind_eq_ok.mp h
  obtain ⟨relationshipId, -, h⟩ := bind_eq_ok.mp h
  obtain ⟨relationship, hr, h⟩ := bind_eq_ok.mp h
  obtain rfl := pure_eq_ok.mp h
  obtain ⟨-, -, hfrom, hto, hkey, -⟩ := Relationship.create_ok hr
  exact ⟨(ForeignKey.create_ok hk).2.2.1.trans (makeTableId_ok htable).1, hfrom, hto, hkey⟩

/-- The primary key that is kept of a table is a key of that table. -/
lemma Scan.primaryKey_tableId (h : Scan sourceName databaseRow c m p) {key : TableKey} {k : PrimaryKey}
    (hk : p.primaryKeys.get? key = some k) : k.tableId = tableIdOf sourceName databaseRow.databaseName key := by
  obtain ⟨os, hos, hkept⟩ := foldlM_addPrimaryKey.mp h.primaryKeys
  have hindex : p.primaryKeys = Dict.index Prod.fst Prod.snd (os.filterMap id) := hkept
  rw [hindex] at hk
  obtain ⟨made, hmade, rfl, rfl⟩ := Dict.exists_of_mem_index (Dict.get?_eq_some.mp hk)
  obtain ⟨o, ho, rfl⟩ := List.mem_filterMap.mp hmade
  obtain ⟨e, -, he⟩ := (mapM_mem hos).1 _ ho
  cases hknown : (tablesMeta c.tableColumnRows).contains (e.1.1, e.1.2.1) with
  | true =>
    obtain ⟨key, heq, -, htable, -⟩ := primaryKeyOf_some hknown he
    cases heq
    exact htable
  | false =>
    rw [primaryKeyOf, if_neg (by rw [hknown]; decide)] at he
    cases he

/-- The parents of what a scan builds, and the foreign keys of a table. -/
lemma Scan.built_table (h : Scan sourceName databaseRow c m p) {t : TableKey × Table} (ht : t ∈ p.built) :
    t.2.id = tableIdOf sourceName databaseRow.databaseName t.1 ∧
      t.2.schemaId = "sch:" ++ schemaPath sourceName databaseRow.databaseName t.1.1 ∧
      (∀ k ∈ t.2.primaryKey, k.tableId = t.2.id) ∧
      ∀ k, k ∈ t.2.foreignKeys ↔ ∃ f ∈ p.foreignKeys, f.1 = t.1 ∧ f.2.1 = k := by
  obtain ⟨e, -, hmade⟩ := (mapM_mem h.built).1 t ht
  obtain ⟨table, htable, hmade⟩ := bind_eq_ok.mp hmade
  obtain rfl := pure_eq_ok.mp hmade
  obtain ⟨hid, -, -, hprimary, hforeign⟩ := buildTable_name htable
  refine ⟨hid, ?_, ?_, ?_⟩
  · obtain ⟨id, -, htable⟩ := bind_eq_ok.mp htable
    obtain ⟨schemaId, hschema, htable⟩ := bind_eq_ok.mp htable
    obtain ⟨owner, -, htable⟩ := bind_eq_ok.mp htable
    exact (Table.create_ok htable).2.2.1.trans (makeSchemaId_ok hschema).1
  · intro k hk
    rw [Option.mem_def, hprimary] at hk
    exact (h.primaryKey_tableId hk).trans hid.symm
  · intro k
    rw [hforeign, mem_sortBy]
    simp [and_assoc]

/-- The tables of the model are the built ones of the listed schemas. -/
lemma Scan.mem_tables (h : Scan sourceName databaseRow c m p) {t : Table} : t ∈ m.tables ↔
    ∃ b ∈ p.built, (schemasMeta c.schemaRows).contains b.1.1 = true ∧ b.2 = t := by
  rw [h.builtModel.tables_perm.mem_iff]
  simp only [List.mem_map, List.mem_filter, and_assoc]

/-- The relationships of the model are those of the foreign keys that are kept. -/
lemma Scan.relationships_perm (h : Scan sourceName databaseRow c m p) :
    m.relationships.Perm (p.foreignKeys.map (fun k => k.2.2)) := by
  rw [(GovernanceModel.create_ok h.model).2]
  exact sortBy_perm _ _

lemma Scan.relationshipIds_perm (h : Scan sourceName databaseRow c m p) :
    (m.relationships.map Relationship.id).Perm
      ((foreignKeyIds sourceName databaseRow.databaseName c).map (fun i => "rel:" ++ i)) := by
  rw [← h.foreignKeyIds_eq, List.map_map]
  refine (h.relationships_perm.map _).trans (.of_eq ?_)
  rw [List.map_map]
  refine List.map_congr_left ?_
  intro k hk
  obtain ⟨e, -, he⟩ := (mapM_mem h.foreignKeys).1 k hk
  exact buildForeignKey_relationship he

end Built

section Ids
variable {m : GovernanceModel} {source : DataSource} {database : Database}

/-- What the loader of a snapshot registers: the data source, the model's ids by kind, and the relationships. -/
lemma elementIdsOf_perm (hsource : m.dataSources = [source]) (hdatabase : source.databases = [database]) :
    (elementIdsOf m).Perm (source.id :: m.relationships.map Relationship.id ++ modelIds m) := by
  have hdatabases : m.databases = [database] := by
    rw [GovernanceModel.databases, hsource, List.flatMap_singleton, hdatabase]
  have hschemas : m.schemas = database.schemas := by
    rw [GovernanceModel.schemas, hdatabases, List.flatMap_singleton]
  have hkeys : (m.tables.flatMap (fun t => Snapshots.columnIdsOf t ++ Snapshots.primaryKeyIds t)).Perm
      (m.tables.flatMap (fun t => t.columns.map Column.id) ++
        m.tables.filterMap (fun t => t.primaryKey.map PrimaryKey.id)) := by
    refine (List.flatMap_append_perm _ _ _).symm.trans (.of_eq (congrArg (_ ++ ·) ?_))
    rw [List.filterMap_eq_flatMap_toList]
    refine List.flatMap_congr ?_
    intro t _
    cases hkey : t.primaryKey <;> simp [Snapshots.primaryKeyIds, hkey]
  have htables : (m.tables.flatMap Snapshots.tableIds).Perm (m.tables.map Table.id ++
      m.tables.flatMap (fun t => Snapshots.columnIdsOf t ++ Snapshots.primaryKeyIds t)) := by
    rw [List.map_eq_flatMap]
    exact (List.flatMap_append_perm m.tables (fun t => [t.id]) _).symm
  have hall : (database.schemas.flatMap Snapshots.schemaIds).Perm (m.schemas.map Schema.id ++
      m.tables.flatMap Snapshots.tableIds) := by
    rw [GovernanceModel.tables, hschemas, List.flatMap_assoc, List.map_eq_flatMap]
    exact (List.flatMap_append_perm database.schemas (fun s => [s.id]) _).symm
  have hforeign : Snapshots.foreignKeyIds m.tables = m.tables.flatMap (fun t => t.foreignKeys.map ForeignKey.id) :=
    List.map_flatMap ..
  have hmodel : modelIds m = database.id :: (m.schemas.map Schema.id ++ (m.tables.map Table.id ++
      (m.tables.flatMap (fun t => t.columns.map Column.id) ++
        (m.tables.filterMap (fun t => t.primaryKey.map PrimaryKey.id) ++ Snapshots.foreignKeyIds m.tables)))) := by
    simp [modelIds, idsByKind, hdatabases, hforeign]
  refine (Snapshots.loadOrder_perm hsource hdatabase).trans (List.perm_iff_count.mpr ?_)
  intro i
  have hall := hall.count_eq i
  have htables := htables.count_eq i
  have hkeys := hkeys.count_eq i
  simp only [List.count_append] at hall htables hkeys
  rw [hmodel]
  simp only [List.count_append, List.count_cons, List.count_nil]
  omega

end Ids

/-- Every foreign key that is kept stands in a listed schema. -/
def KeysListed (c : CatalogRows) : Prop :=
  ∀ k ∈ foreignKeyNames (tablesMeta c.tableColumnRows) c.foreignKeyRows,
    (schemasMeta c.schemaRows).contains k.1 = true

section Registered
variable {sourceName : String} {databaseRow : DatabaseRow} {c : CatalogRows} {m : GovernanceModel} {p : ScanParts}

/-- The ids that the loader registers are distinct when the model's and the relationships' are. -/
lemma Scan.elementIds_nodup_iff (h : Scan sourceName databaseRow c m p) : (elementIdsOf m).Nodup ↔
    (modelIds m).Nodup ∧ (foreignKeyIds sourceName databaseRow.databaseName c).Nodup := by
  have hrelationships : (m.relationships.map Relationship.id).Nodup ↔
      (foreignKeyIds sourceName databaseRow.databaseName c).Nodup := by
    rw [h.relationshipIds_perm.nodup_iff]
    exact List.nodup_map_iff (fun i j hij => (String.append_right_inj "rel:").mp hij)
  have hsource : p.source.id = "ds:" ++ sourceName :=
    (DataSource.create_ok h.source).1.trans (makeDatasourceId_ok h.dataSourceId)
  have hmodel := kindOf_ids h.builtModel
  have hkind : ∀ e ∈ ("ds", [p.source.id]) :: ("rel", m.relationships.map Relationship.id) :: idsByKind m,
      ∀ i ∈ e.2, kindOf i = e.1 := by
    refine List.forall_mem_cons.mpr ⟨?_, List.forall_mem_cons.mpr ⟨?_, hmodel⟩⟩
    · intro i hi
      rw [List.mem_singleton.mp hi, hsource]
      simp [kindOf]
    · intro i hi
      obtain ⟨k, -, rfl⟩ := List.mem_map.mp (h.relationshipIds_perm.mem_iff.mp hi)
      simp [kindOf]
  have hkinds : (("ds", [p.source.id]) :: ("rel", m.relationships.map Relationship.id) ::
      idsByKind m |>.map Prod.fst).Nodup := (by decide : ["ds", "rel", "db", "sch", "tbl", "col", "pk", "fk"].Nodup)
  have hall : (p.source.id :: m.relationships.map Relationship.id ++ modelIds m).Nodup ↔ _ :=
    nodup_flatten_kinds hkinds hkind
  have hown : (modelIds m).Nodup ↔ _ := nodup_flatten_kinds (List.nodup_cons.mp (List.nodup_cons.mp hkinds).2).2 hmodel
  rw [(elementIdsOf_perm h.builtModel.dataSources h.builtModel.databases).nodup_iff, hall, hown, ← hrelationships,
    List.forall_mem_cons, List.forall_mem_cons]
  constructor
  · intro hids
    exact ⟨hids.2.2, hids.2.1⟩
  · intro hids
    exact ⟨List.nodup_singleton _, hids.2, hids.1⟩

/-- Where the ids of the foreign keys are distinct, every one that is kept stands in a table of the model. -/
lemma Scan.foreignKey_built (h : Scan sourceName databaseRow c m p)
    (hids : (foreignKeyIds sourceName databaseRow.databaseName c).Nodup)
    {f : TableKey × ForeignKey × Relationship} (hf : f ∈ p.foreignKeys) :
    ∃ b ∈ p.built, (schemasMeta c.schemaRows).contains b.1.1 = true ∧ f.1 = b.1 := by
  obtain ⟨e, -, hmade⟩ := (mapM_mem h.foreignKeys).1 f hf
  obtain ⟨-, -, -, hlink⟩ := buildForeignKey_linked hmade
  have hr : f.2.2 ∈ m.relationships := h.relationships_perm.mem_iff.mpr (List.mem_map_of_mem hf)
  obtain ⟨-, -, t, ht, k, hk, hid⟩ := relationship_of_valid h.integrity hr
  obtain ⟨b, hb, hlisted, rfl⟩ := h.mem_tables.mp ht
  obtain ⟨f', hf', hfb, rfl⟩ := ((h.built_table hb).2.2.2 k).mp hk
  rw [← h.foreignKeyIds_eq] at hids
  have hsame : f = f' := List.inj_on_of_nodup_map hids hf hf' (Option.some.inj (hlink.symm.trans hid))
  exact ⟨b, hb, hlisted, hsame ▸ hfb⟩

/-- The foreign keys that are kept have distinct ids when those of the model do and all of them are in the model. -/
lemma Scan.foreignKeyIds_nodup_iff (h : Scan sourceName databaseRow c m p) (hmodel : (modelIds m).Nodup) :
    (foreignKeyIds sourceName databaseRow.databaseName c).Nodup ↔ KeysListed c := by
  constructor
  · intro hids k hk
    obtain ⟨e, he, rfl⟩ := List.mem_map.mp hk
    obtain ⟨f, hf, hmade⟩ := (mapM_mem h.foreignKeys).2 e he
    obtain ⟨b, -, hlisted, hfb⟩ := h.foreignKey_built hids hf
    rw [← hfb, (buildForeignKey_ok hmade).1] at hlisted
    exact hlisted
  · intro hlisted
    have hforeign : (m.tables.flatMap (fun t => t.foreignKeys.map ForeignKey.id)).Nodup :=
      (List.nodup_flatten.mp hmodel).1 _ (by simp [idsByKind])
    rw [h.builtModel.foreignKeyIds_perm.nodup_iff] at hforeign
    have hmem : ∀ k ∈ foreignKeyNames (tablesMeta c.tableColumnRows) c.foreignKeyRows, ((k.1, k.2.1), k.2.2) ∈
        listedForeignKeys c.schemaRows c.tableColumnRows c.foreignKeyRows := by
      intro k hk
      obtain ⟨e, he, rfl⟩ := List.mem_map.mp hk
      have hkept := (List.mem_filter.mp he).2
      simp only [keptForeignKey, Bool.and_eq_true, Dict.contains_iff] at hkept
      refine List.mem_flatMap.mpr ⟨(e.1.1, e.1.2.1), List.mem_filter.mpr ⟨hkept.1.1.1, hlisted _ hk⟩, ?_⟩
      exact List.mem_map.mpr ⟨e.1, List.mem_filter.mpr ⟨hk, decide_eq_true rfl⟩, rfl⟩
    have hnames : (foreignKeyNames (tablesMeta c.tableColumnRows) c.foreignKeyRows).Nodup :=
      (Dict.keys_nodup _).sublist (List.filter_sublist.map _)
    refine List.Nodup.map_on ?_ hnames
    intro x hx y hy hxy
    have hsame := List.inj_on_of_nodup_map hforeign (hmem x hx) (hmem y hy) (by
      rw [← append_joined, ← append_joined]
      exact hxy)
    obtain ⟨htable, hname⟩ := Prod.mk.inj hsame
    obtain ⟨hschema, htable⟩ := Prod.mk.inj htable
    exact Prod.ext hschema (Prod.ext htable hname)

/-- A scanned model whose ids are distinct is closed: every reference leads to the element that is meant. -/
theorem Scan.closed (h : Scan sourceName databaseRow c m p) (hids : (elementIdsOf m).Nodup) :
    Closed m p.source p.database := by
  obtain ⟨hmodel, hforeign⟩ := h.elementIds_nodup_iff.mp hids
  have htableIds : (m.tables.map Table.id).Nodup :=
    (List.nodup_flatten.mp hmodel).1 _ (by simp [idsByKind])
  have hschema : ∀ s ∈ p.database.schemas, s.databaseId = p.databaseId ∧
      s.id = "sch:" ++ schemaPath sourceName databaseRow.databaseName s.name := by
    intro s hs
    rw [(Database.create_ok h.database).2.2.2.1, mem_sortBy] at hs
    obtain ⟨e, -, he⟩ := (mapM_mem h.schemas).1 s hs
    obtain ⟨hid, hname⟩ := Prod.mk.inj (buildSchema_ok he).1
    obtain ⟨id, -, he⟩ := bind_eq_ok.mp he
    obtain ⟨owner, -, he⟩ := bind_eq_ok.mp he
    exact ⟨(Schema.create_ok he).2.2.1, by rw [hid, hname]⟩
  have hkey : ∀ t ∈ m.tables, ∀ k ∈ t.foreignKeys, k.tableId = t.id := by
    intro t ht k hk
    obtain ⟨b, hb, -, rfl⟩ := h.mem_tables.mp ht
    obtain ⟨hid, -, -, hkeys⟩ := h.built_table hb
    obtain ⟨f, hf, hfb, rfl⟩ := (hkeys k).mp hk
    obtain ⟨e, -, hmade⟩ := (mapM_mem h.foreignKeys).1 f hf
    rw [(buildForeignKey_linked hmade).1, hid, hfb]
  have hprimary : ∀ t ∈ m.tables, ∀ k ∈ t.primaryKey, k.tableId = t.id := by
    intro t ht
    obtain ⟨b, hb, -, rfl⟩ := h.mem_tables.mp ht
    exact (h.built_table hb).2.2.1
  refine ⟨h.builtModel.dataSources, h.builtModel.databases, hids, ?_, ?_, ?_, hprimary, hkey, ?_, ?_⟩
  · exact (Database.create_ok h.database).2.2.1.trans (DataSource.create_ok h.source).1.symm
  · intro s hs
    exact (hschema s hs).1.trans (Database.create_ok h.database).1.symm
  · intro s hs t ht
    obtain ⟨b, hb, rfl⟩ := List.mem_map.mp ((h.builtModel.tables s hs).mem_iff.mp ht)
    obtain ⟨hb, hname⟩ := List.mem_filter.mp hb
    rw [(h.built_table hb).2.1, (hschema s hs).2, of_decide_eq_true hname]
  · intro r hr
    exact (relationship_of_valid h.integrity hr).1
  · refine ⟨?_, ?_, ?_, ?_, ?_⟩
    · exact fun t ht k hk => (keys_of_valid htableIds h.integrity ht).1 k hk (hprimary t ht k hk)
    · exact fun t ht k hk => ((keys_of_valid htableIds h.integrity ht).2 k hk).1 (hkey t ht k hk)
    · exact fun t ht k hk => ((keys_of_valid htableIds h.integrity ht).2 k hk).2
    · exact fun r hr => (relationship_of_valid h.integrity hr).2.1
    · intro r hr i hi
      obtain ⟨f, hf, rfl⟩ := List.mem_map.mp (h.relationships_perm.mem_iff.mp hr)
      obtain ⟨e, -, hmade⟩ := (mapM_mem h.foreignKeys).1 f hf
      obtain ⟨-, hfrom, hto, hlink⟩ := buildForeignKey_linked hmade
      obtain ⟨b, hb, hlisted, hfb⟩ := h.foreignKey_built hforeign hf
      refine ⟨b.2, h.mem_tables.mpr ⟨b, hb, hlisted, rfl⟩, f.2.1, ((h.built_table hb).2.2.2 _).mpr ⟨f, hf, hfb, rfl⟩,
        ?_, hfrom.symm, hto.symm⟩
      exact Option.some.inj (hlink.symm.trans hi)

end Registered

/-- The refusal of an id that is registered already. -/
def IsDuplicate (failure : Snapshots.SnapshotFailure) : Prop :=
  ∃ id path, failure = Snapshots.payloadFailure ("duplicate snapshot object id: " ++ id) path

section Exported
variable {sha256 : String → String} {schemaErrors : Json → List JsonSchema.Failure}

lemma not_isDuplicate {message code path : String} (h : message.toList.head? ≠ some 'd') :
    ¬ IsDuplicate (.compatibility message code path) := by
  rintro ⟨id, path', heq⟩
  cases heq
  simp at h

lemma checkEnvelope_not_duplicate {payload : List (String × Json)} :
    ¬ Fails IsDuplicate (Snapshots.checkEnvelope sha256 schemaErrors payload) := by
  have hmismatch : ¬ Fails IsDuplicate (Snapshots.identityMismatch : Snapshots.Loaded Unit) := by
    rw [Snapshots.identityMismatch, fails_error]
    rintro ⟨id, path, heq⟩
    cases heq
  have hrefused : ∀ {message code path : String}, message.toList.head? ≠ some 'd' →
      ¬ Fails IsDuplicate (Snapshots.compatibilityError message code path : Snapshots.Loaded Unit) := by
    intro message code path h
    rw [Snapshots.compatibilityError, fails_error]
    exact not_isDuplicate h
  unfold Snapshots.checkEnvelope
  split_ifs
  · exact hrefused (by decide)
  · exact hrefused (by decide)
  · split
    · refine not_fails_bind ?_ fun _ => ?_
      · unfold Snapshots.validateSnapshotSchema
        split
        · exact hrefused (by simp)
        · exact not_fails_ok
      · unfold Snapshots.checkIdentity
        dsimp only
        split
        · split_ifs
          · exact not_fails_ok
          · exact hmismatch
        · exact hmismatch
    · exact hrefused (by decide)

variable {sourceName : String} {databaseRow : DatabaseRow} {c : CatalogRows} {m : GovernanceModel} {p : ScanParts}

/-- The exported snapshot of a scan whose ids are distinct gets past the ids. -/
lemma Scan.not_duplicate (h : Scan sourceName databaseRow c m p) (hids : (elementIdsOf m).Nodup)
    {s : Snapshots.GovernanceSnapshot} (hs : Snapshots.GovernanceSnapshot.fromModel m = .ok s) :
    ¬ Fails IsDuplicate (Snapshots.loadSnapshotArtifact sha256 schemaErrors (s.toDict sha256).normalize) := by
  have hscanner : p.source.systemType ≠ "" := by
    rw [(DataSource.create_ok h.source).2.2.1]
    decide
  have hroot : Snapshots.GovernanceSnapshot.root m = .ok (p.source, p.database) := by
    simp [Snapshots.GovernanceSnapshot.root, h.builtModel.dataSources, h.builtModel.databases]
  rw [Snapshots.GovernanceSnapshot.fromModel, hroot, ok_bind] at hs
  obtain rfl := pure_eq_ok.mp hs
  rw [Snapshots.toDict_eq, Json.normalize_obj_eq, Snapshots.loadSnapshotArtifact]
  split_ifs
  · rw [Snapshots.compatibilityError, fails_error]
    exact not_isDuplicate (by decide)
  · refine not_fails_bind checkEnvelope_not_duplicate fun _ => ?_
    rw [Snapshots.payload_readBack (h.closed hids) ⟨rfl, rfl, rfl, rfl, hscanner⟩]
    exact not_fails_ok

/-- The ids that are registered of a scan's snapshot are distinct, so that the snapshot is never refused for a
duplicate one, exactly when no name reads into another path and every kept foreign key stands in a listed schema. -/
theorem exportedIds_nodup_iff
    (hcolumns : ∀ k ∈ (tablesMeta c.tableColumnRows).keys, (columnNames (tablesMeta c.tableColumnRows) k).Nodup)
    (hbuild : c.build sourceName databaseRow = .ok m) :
    ((elementIdsOf m).Nodup ∧ ∀ (sha256 : String → String) (schemaErrors : Json → List JsonSchema.Failure)
      (s : Snapshots.GovernanceSnapshot), Snapshots.GovernanceSnapshot.fromModel m = .ok s →
        ¬ Fails IsDuplicate (Snapshots.loadSnapshotArtifact sha256 schemaErrors (s.toDict sha256).normalize)) ↔
      NamesUnambiguous c.schemaRows c.tableColumnRows c.primaryKeyRows c.foreignKeyRows ∧ KeysListed c := by
  obtain ⟨p, h⟩ := build_eq_ok.mp hbuild
  have hids : (elementIdsOf m).Nodup ↔
      NamesUnambiguous c.schemaRows c.tableColumnRows c.primaryKeyRows c.foreignKeyRows ∧ KeysListed c := by
    rw [h.elementIds_nodup_iff, and_congr_right h.foreignKeyIds_nodup_iff, modelIds_nodup_iff hcolumns hbuild]
  constructor
  · rintro ⟨hnodup, -⟩
    exact hids.mp hnodup
  · intro hnames
    have hnodup := hids.mpr hnames
    exact ⟨hnodup, fun _ _ _ hs => h.not_duplicate hnodup hs⟩

end Exported

section Shop

/-- The rows of the two shop schemas. -/
def shopRows (tables : List TableColumnRow) (foreignKeys : List ForeignKeyRow) : CatalogRows :=
  ⟨shopSchemas, tables, [], foreignKeys⟩

/-- Whether the model's ids are distinct, and how the loader takes the exported snapshot. -/
def exportedShop (c : CatalogRows) : Except String (Bool × Snapshots.Loaded Unit) := do
  let m ← c.build "pg" shopRow
  let s ← Snapshots.GovernanceSnapshot.fromModel m
  let loaded := Snapshots.loadSnapshotArtifact Comparison.constantDigest Snapshots.snapshotValidator
    (s.toDict Comparison.constantDigest).normalize
  return (decide (modelIds m).Nodup, loaded.map (fun _ => ()))

/-- The tables of the two schemas have different names and one id, for which the loader refuses the snapshot. -/
theorem slash_in_name_repeats_ids : ∃ m s,
    (shopRows [shopTable "a" "b/c", shopTable "a/b" "c"] []).build "pg" shopRow = .ok m ∧ ¬ (modelIds m).Nodup ∧
      Snapshots.GovernanceSnapshot.fromModel m = .ok s ∧
      (Snapshots.loadSnapshotArtifact Comparison.constantDigest Snapshots.snapshotValidator
        (s.toDict Comparison.constantDigest).normalize).map (fun _ => ()) =
          .error (Snapshots.payloadFailure "duplicate snapshot object id: tbl:pg/shop/a/b/c"
            "/governance/data_sources/0/databases/0/schemas/1/tables/0/id") := by
  have hscan : exportedShop (shopRows [shopTable "a" "b/c", shopTable "a/b" "c"] []) =
      .ok (false, .error (Snapshots.payloadFailure "duplicate snapshot object id: tbl:pg/shop/a/b/c"
        "/governance/data_sources/0/databases/0/schemas/1/tables/0/id")) := by decide +kernel
  obtain ⟨m, hm, hscan⟩ := bind_eq_ok.mp hscan
  obtain ⟨s, hs, hscan⟩ := bind_eq_ok.mp hscan
  obtain ⟨hnodup, hload⟩ := Prod.mk.inj (pure_eq_ok.mp hscan)
  exact ⟨m, s, hm, of_decide_eq_false hnodup, hs, hload⟩

/-- A table of each schema, and a foreign key from one to the other. -/
def linkedRows : CatalogRows := shopRows [shopTable "a" "b", shopTable "a/b" "c"]
  [⟨"a", "b", "link", "id", "a/b", "c", "id", 1⟩]

theorem shop_ids : ∃ m, linkedRows.build "pg" shopRow = .ok m ∧
    (((elementIdsOf m).Nodup ∧ ∀ (sha256 : String → String) (schemaErrors : Json → List JsonSchema.Failure)
      (s : Snapshots.GovernanceSnapshot), Snapshots.GovernanceSnapshot.fromModel m = .ok s →
        ¬ Fails IsDuplicate (Snapshots.loadSnapshotArtifact sha256 schemaErrors (s.toDict sha256).normalize)) ↔
      NamesUnambiguous linkedRows.schemaRows linkedRows.tableColumnRows linkedRows.primaryKeyRows
        linkedRows.foreignKeyRows ∧ KeysListed linkedRows) := by
  obtain ⟨m, hm⟩ := exists_ok (x := linkedRows.build "pg" shopRow) (by decide +kernel)
  exact ⟨m, hm, exportedIds_nodup_iff (by decide +kernel) hm⟩

end Shop
end CollibraGovernance.Scanner
