import CollibraGovernance.Scanner.Scanned

/-! The ids of a scanned model are distinct unless a name with a slash reads into another path. -/
namespace CollibraGovernance.Scanner
open Library Domain

/-- The ids of databases, schemas, tables, columns, primary and foreign keys, kind by kind. -/
def idsByKind (m : GovernanceModel) : List (String × List String) :=
  [("db", m.databases.map Database.id), ("sch", m.schemas.map Schema.id),
    ("tbl", m.tables.map Table.id), ("col", m.tables.flatMap (fun t => t.columns.map Column.id)),
    ("pk", m.tables.filterMap (fun t => t.primaryKey.map PrimaryKey.id)),
    ("fk", m.tables.flatMap (fun t => t.foreignKeys.map ForeignKey.id))]

def modelIds (m : GovernanceModel) : List String := ((idsByKind m).map Prod.snd).flatten

/-- What stands before the first colon. -/
def kindOf (id : String) : String := String.ofList (id.toList.takeWhile (· ≠ ':'))

section Listed
variable (schemaRows : List SchemaRow) (tableColumnRows : List TableColumnRow)
  (primaryKeyRows : List PrimaryKeyRow) (foreignKeyRows : List ForeignKeyRow)

/-- The tables whose schema is listed. -/
def listedTables : List TableKey :=
  (tablesMeta tableColumnRows).keys.filter (fun k => (schemasMeta schemaRows).contains k.1)

def listedColumns : List (TableKey × String) :=
  (listedTables schemaRows tableColumnRows).flatMap
    (fun k => (columnNames (tablesMeta tableColumnRows) k).map (fun c => (k, c)))

def listedPrimaryKeys : List (TableKey × String) :=
  (listedTables schemaRows tableColumnRows).filterMap (fun k => ((primaryKeyNames
    (tablesMeta tableColumnRows) (primaryKeyGroups primaryKeyRows).entries).get? k).map (fun n => (k, n)))

def listedForeignKeys : List (TableKey × String) :=
  (listedTables schemaRows tableColumnRows).flatMap
    (fun k => ((foreignKeyNames (tablesMeta tableColumnRows) foreignKeyRows).filter
      (fun c => (c.1, c.2.1) = k)).map (fun c => (k, c.2.2)))

/-- No name of a table, column or constraint reads into the path of another one. -/
structure NamesUnambiguous : Prop where
  tables : Unambiguous Prod.fst Prod.snd (listedTables schemaRows tableColumnRows)
  columns : Unambiguous (fun c => joined c.1.1 c.1.2) Prod.snd (listedColumns schemaRows tableColumnRows)
  primaryKeys : Unambiguous (fun k => joined k.1.1 k.1.2) Prod.snd
    (listedPrimaryKeys schemaRows tableColumnRows primaryKeyRows)
  foreignKeys : Unambiguous (fun k => joined k.1.1 k.1.2) Prod.snd
    (listedForeignKeys schemaRows tableColumnRows foreignKeyRows)

lemma listedTables_nodup : (listedTables schemaRows tableColumnRows).Nodup :=
  (Dict.keys_nodup _).filter _

lemma listedColumns_nodup (h : ∀ k ∈ (tablesMeta tableColumnRows).keys,
    (columnNames (tablesMeta tableColumnRows) k).Nodup) :
    (listedColumns schemaRows tableColumnRows).Nodup := by
  refine List.nodup_flatMap.mpr ⟨?_, ?_⟩
  · intro k hk
    exact (h k (List.mem_of_mem_filter hk)).map (Prod.mk_right_injective k)
  · refine (listedTables_nodup ..).imp ?_
    intro k k' hne p hp hp'
    obtain ⟨c, -, rfl⟩ := List.mem_map.mp hp
    obtain ⟨c', -, h'⟩ := List.mem_map.mp hp'
    exact hne (congrArg Prod.fst h').symm

lemma listedPrimaryKeys_nodup : (listedPrimaryKeys schemaRows tableColumnRows primaryKeyRows).Nodup := by
  refine List.Nodup.filterMap ?_ (listedTables_nodup ..)
  intro k k' p hp hp'
  obtain ⟨n, -, rfl⟩ := Option.map_eq_some_iff.mp hp
  obtain ⟨n', -, h'⟩ := Option.map_eq_some_iff.mp hp'
  exact (congrArg Prod.fst h').symm

lemma listedForeignKeys_nodup : (listedForeignKeys schemaRows tableColumnRows foreignKeyRows).Nodup := by
  refine List.nodup_flatMap.mpr ⟨?_, ?_⟩
  · intro k _
    have hnames : (foreignKeyNames (tablesMeta tableColumnRows) foreignKeyRows).Nodup :=
      (Dict.keys_nodup _).sublist (List.filter_sublist.map _)
    refine List.Nodup.map_on ?_ (hnames.filter _)
    intro c hc c' hc' h
    have hk : (c.1, c.2.1) = k := by simpa using (List.mem_filter.mp hc).2
    have hk' : (c'.1, c'.2.1) = k := by simpa using (List.mem_filter.mp hc').2
    have htable := Prod.ext_iff.mp (hk.trans hk'.symm)
    exact Prod.ext htable.1 (Prod.ext htable.2 (Prod.ext_iff.mp h).2)
  · refine (listedTables_nodup ..).imp ?_
    intro k k' hne p hp hp'
    obtain ⟨c, -, rfl⟩ := List.mem_map.mp hp
    obtain ⟨c', -, h'⟩ := List.mem_map.mp hp'
    exact hne (congrArg Prod.fst h').symm

lemma listedColumns_table : ∀ e ∈ listedColumns schemaRows tableColumnRows,
    e.1 ∈ listedTables schemaRows tableColumnRows := by
  intro e he
  obtain ⟨k, hk, he⟩ := List.mem_flatMap.mp he
  obtain ⟨c, -, rfl⟩ := List.mem_map.mp he
  exact hk

lemma listedPrimaryKeys_table : ∀ e ∈ listedPrimaryKeys schemaRows tableColumnRows primaryKeyRows,
    e.1 ∈ listedTables schemaRows tableColumnRows := by
  intro e he
  obtain ⟨k, hk, he⟩ := List.mem_filterMap.mp he
  obtain ⟨n, -, rfl⟩ := Option.map_eq_some_iff.mp he
  exact hk

lemma listedForeignKeys_table : ∀ e ∈ listedForeignKeys schemaRows tableColumnRows foreignKeyRows,
    e.1 ∈ listedTables schemaRows tableColumnRows := by
  intro e he
  obtain ⟨k, hk, he⟩ := List.mem_flatMap.mp he
  obtain ⟨c, -, rfl⟩ := List.mem_map.mp he
  exact hk

end Listed

section Ids
variable {sourceName databaseName kind : String}

lemma nodup_map_id {α : Type} (kind base : String) (f : α → String) (xs : List α) :
    (xs.map (fun x => kind ++ joined base (f x))).Nodup ↔ (xs.map f).Nodup := by
  have hinj : Function.Injective (fun t => kind ++ joined base t) := by
    intro t t' h
    exact joined_inj.mp ((String.append_right_inj kind).mp h)
  rw [← List.nodup_map_iff hinj (l := xs.map f), List.map_map]
  rfl

/-- The ids of tables are distinct when no table name reads into another schema. -/
lemma tableIds_nodup_iff {tables : List TableKey} (hnodup : tables.Nodup) :
    (tables.map (fun k => kind ++ tablePath sourceName databaseName k.1 k.2)).Nodup ↔
      Unambiguous Prod.fst Prod.snd tables := by
  have hids := nodup_map_id kind (databasePath sourceName databaseName) (fun k => joined k.1 k.2) tables
  rw [joined_nodup_iff hnodup (fun x _ y _ h h' => Prod.ext h h')] at hids
  rw [← hids]
  simp only [tablePath, schemaPath, joined_assoc]

/-- The ids of elements of tables, once the tables are told apart. -/
lemma elementIds_nodup_iff {tables : List TableKey} {elements : List (TableKey × String)}
    (htables : Unambiguous Prod.fst Prod.snd tables) (hmem : ∀ e ∈ elements, e.1 ∈ tables)
    (hnodup : elements.Nodup) :
    (elements.map (fun e =>
      kind ++ joined (tablePath sourceName databaseName e.1.1 e.1.2) e.2)).Nodup ↔
      Unambiguous (fun e => joined e.1.1 e.1.2) Prod.snd elements := by
  have hids := nodup_map_id kind (databasePath sourceName databaseName)
    (fun e : TableKey × String => joined (joined e.1.1 e.1.2) e.2) elements
  rw [joined_nodup_iff hnodup] at hids
  · rw [← hids]
    simp only [tablePath, schemaPath, joined_assoc]
  · intro x hx y hy hpath hname
    refine Prod.ext ?_ hname
    rcases joined_eq_joined_iff.mp hpath with ⟨hs, ht⟩ | hstraddles | hstraddles
    · exact Prod.ext hs ht
    · exact absurd hstraddles (htables _ (hmem x hx) _ (hmem y hy))
    · exact absurd hstraddles (htables _ (hmem y hy) _ (hmem x hx))

end Ids

namespace BuiltModel
variable {sourceName : String} {databaseRow : DatabaseRow} {schemaRows : List SchemaRow}
  {tableColumnRows : List TableColumnRow} {primaryKeyRows : List PrimaryKeyRow}
  {foreignKeyRows : List ForeignKeyRow} {m : GovernanceModel} {source : DataSource}
  {database : Database} {built : List (TableKey × Table)}

lemma databases_eq (h : BuiltModel sourceName databaseRow schemaRows tableColumnRows primaryKeyRows
    foreignKeyRows m source database built) : m.databases = [database] := by
  rw [GovernanceModel.databases, h.dataSources, List.flatMap_singleton, h.databases]

lemma schemas_eq (h : BuiltModel sourceName databaseRow schemaRows tableColumnRows primaryKeyRows
    foreignKeyRows m source database built) : m.schemas = database.schemas := by
  rw [GovernanceModel.schemas, h.databases_eq, List.flatMap_singleton]

/-- The tables of the model are the built ones whose schema is listed. -/
lemma tables_perm (h : BuiltModel sourceName databaseRow schemaRows tableColumnRows primaryKeyRows
    foreignKeyRows m source database built) :
    m.tables.Perm ((built.filter (fun t => (schemasMeta schemaRows).contains t.1.1)).map Prod.snd) := by
  rw [GovernanceModel.tables, h.schemas_eq]
  refine (List.Perm.flatMap_left _ h.tables).trans ?_
  have hnodup : (database.schemas.map Schema.name).Nodup :=
    h.schema_names.nodup_iff.mpr (Dict.keys_nodup _)
  have hbuckets : ((database.schemas.map Schema.name).flatMap
      (fun n => built.filter (fun t => t.1.1 = n))).Perm
        (built.filter (fun t => t.1.1 ∈ database.schemas.map Schema.name)) :=
    flatMap_filter_kind_perm hnodup built
  have hpick := hbuckets.map Prod.snd
  rw [List.flatMap_map, List.map_flatMap] at hpick
  refine hpick.trans (.of_eq (congrArg _ (List.filter_congr ?_)))
  intro t _
  rw [Bool.eq_iff_iff, decide_eq_true_iff, Dict.contains_iff, h.schema_names.mem_iff]

lemma listed_perm (h : BuiltModel sourceName databaseRow schemaRows tableColumnRows primaryKeyRows
    foreignKeyRows m source database built) :
    ((built.filter (fun t => (schemasMeta schemaRows).contains t.1.1)).map Prod.fst).Perm
      (listedTables schemaRows tableColumnRows) := by
  have hkeys := h.keys.filter (fun k => (schemasMeta schemaRows).contains k.1)
  rwa [List.filter_map] at hkeys

lemma schemaIds_perm (h : BuiltModel sourceName databaseRow schemaRows tableColumnRows primaryKeyRows
    foreignKeyRows m source database built) :
    (m.schemas.map Schema.id).Perm ((schemasMeta schemaRows).keys.map
      (fun n => "sch:" ++ schemaPath sourceName databaseRow.databaseName n)) := by
  have hids := h.schemas.map Prod.fst
  rw [List.map_map, List.map_map] at hids
  rw [h.schemas_eq]
  exact hids

/-- What a built table shows as a function of its key is listed for the listed tables. -/
lemma flatMap_perm (h : BuiltModel sourceName databaseRow schemaRows tableColumnRows primaryKeyRows
    foreignKeyRows m source database built) {f : Table → List String} {g : TableKey → List String}
    (hfg : ∀ key t, BuiltTable sourceName databaseRow.databaseName (tablesMeta tableColumnRows)
      primaryKeyRows foreignKeyRows key t → (f t).Perm (g key)) :
    (m.tables.flatMap f).Perm ((listedTables schemaRows tableColumnRows).flatMap g) := by
  refine (h.tables_perm.flatMap_right f).trans ?_
  refine List.Perm.trans ?_ (h.listed_perm.flatMap_right g)
  rw [List.flatMap_map, List.flatMap_map]
  exact List.Perm.flatMap_left _
    (fun t ht => hfg _ _ (h.built t (List.mem_of_mem_filter ht)))

lemma tableIds_perm (h : BuiltModel sourceName databaseRow schemaRows tableColumnRows primaryKeyRows
    foreignKeyRows m source database built) :
    (m.tables.map Table.id).Perm ((listedTables schemaRows tableColumnRows).map
      (fun k => "tbl:" ++ tablePath sourceName databaseRow.databaseName k.1 k.2)) := by
  have hids := h.flatMap_perm (f := fun t => [t.id])
    (g := fun k => ["tbl:" ++ tablePath sourceName databaseRow.databaseName k.1 k.2])
    (fun key t ht => .of_eq (congrArg (fun i => [i]) ht.id))
  rwa [← List.map_eq_flatMap, ← List.map_eq_flatMap] at hids

lemma columnIds_perm (h : BuiltModel sourceName databaseRow schemaRows tableColumnRows primaryKeyRows
    foreignKeyRows m source database built) :
    (m.tables.flatMap (fun t => t.columns.map Column.id)).Perm
      ((listedColumns schemaRows tableColumnRows).map (fun c => "col:" ++
        joined (tablePath sourceName databaseRow.databaseName c.1.1 c.1.2) c.2)) := by
  rw [listedColumns, List.map_flatMap]
  refine h.flatMap_perm ?_
  intro key t ht
  have hids := ht.columns.map Prod.fst
  rw [List.map_map, List.map_map] at hids
  rw [List.map_map]
  exact hids

lemma primaryKeyIds_perm (h : BuiltModel sourceName databaseRow schemaRows tableColumnRows
    primaryKeyRows foreignKeyRows m source database built) :
    (m.tables.filterMap (fun t => t.primaryKey.map PrimaryKey.id)).Perm
      ((listedPrimaryKeys schemaRows tableColumnRows primaryKeyRows).map (fun k => "pk:" ++ "tbl:" ++
        joined (tablePath sourceName databaseRow.databaseName k.1.1 k.1.2) k.2)) := by
  rw [listedPrimaryKeys, List.map_filterMap, List.filterMap_eq_flatMap_toList,
    List.filterMap_eq_flatMap_toList]
  refine h.flatMap_perm ?_
  intro key t ht
  refine .of_eq (congrArg Option.toList ?_)
  rw [ht.primaryKey, ht.id, Option.map_map]
  exact congrArg (fun f => Option.map f _) (funext fun n => append_joined ..)

lemma foreignKeyIds_perm (h : BuiltModel sourceName databaseRow schemaRows tableColumnRows
    primaryKeyRows foreignKeyRows m source database built) :
    (m.tables.flatMap (fun t => t.foreignKeys.map ForeignKey.id)).Perm
      ((listedForeignKeys schemaRows tableColumnRows foreignKeyRows).map (fun k => "fk:" ++ "tbl:" ++
        joined (tablePath sourceName databaseRow.databaseName k.1.1 k.1.2) k.2)) := by
  rw [listedForeignKeys, List.map_flatMap]
  refine h.flatMap_perm ?_
  intro key t ht
  refine ht.foreignKeys.trans (.of_eq ?_)
  rw [ht.id, List.map_map]
  exact List.map_congr_left (fun c _ => append_joined ..)

end BuiltModel

section Distinct
variable {sourceName : String} {databaseRow : DatabaseRow} {schemaRows : List SchemaRow}
  {tableColumnRows : List TableColumnRow} {primaryKeyRows : List PrimaryKeyRow}
  {foreignKeyRows : List ForeignKeyRow} {m : GovernanceModel}

lemma kindOf_ids {source : DataSource} {database : Database} {built : List (TableKey × Table)}
    (h : BuiltModel sourceName databaseRow schemaRows tableColumnRows primaryKeyRows foreignKeyRows m
      source database built) : ∀ e ∈ idsByKind m, ∀ id ∈ e.2, kindOf id = e.1 := by
  simp only [idsByKind, List.forall_mem_cons, List.not_mem_nil, false_implies, implies_true, and_true]
  refine ⟨?_, ?_, ?_, ?_, ?_, ?_⟩
  · intro id hid
    rw [h.databases_eq] at hid
    rw [List.mem_singleton.mp hid, h.database_id]
    simp [kindOf]
  · intro id hid
    obtain ⟨n, -, rfl⟩ := List.mem_map.mp (h.schemaIds_perm.mem_iff.mp hid)
    simp [kindOf]
  · intro id hid
    obtain ⟨k, -, rfl⟩ := List.mem_map.mp (h.tableIds_perm.mem_iff.mp hid)
    simp [kindOf]
  · intro id hid
    obtain ⟨k, -, rfl⟩ := List.mem_map.mp (h.columnIds_perm.mem_iff.mp hid)
    simp [kindOf]
  · intro id hid
    obtain ⟨k, -, rfl⟩ := List.mem_map.mp (h.primaryKeyIds_perm.mem_iff.mp hid)
    simp [kindOf]
  · intro id hid
    obtain ⟨k, -, rfl⟩ := List.mem_map.mp (h.foreignKeyIds_perm.mem_iff.mp hid)
    simp [kindOf]

/-- The ids of a scanned model are pairwise distinct exactly when no name reads into another path. -/
lemma modelIds_nodup_iff
    (hcolumns : ∀ k ∈ (tablesMeta tableColumnRows).keys,
      (columnNames (tablesMeta tableColumnRows) k).Nodup)
    (h : buildGovernanceModel sourceName databaseRow schemaRows tableColumnRows primaryKeyRows
      foreignKeyRows = .ok m) :
    (modelIds m).Nodup ↔
      NamesUnambiguous schemaRows tableColumnRows primaryKeyRows foreignKeyRows := by
  obtain ⟨source, database, built, hb⟩ := buildGovernanceModel_ok h
  have hdatabases : (m.databases.map Database.id).Nodup := by
    rw [hb.databases_eq]
    exact List.nodup_singleton _
  have hschemas : (m.schemas.map Schema.id).Nodup := by
    rw [hb.schemaIds_perm.nodup_iff]
    exact (nodup_map_id "sch:" _ id _).mpr (by simpa using Dict.keys_nodup _)
  have hkeys := listedTables_nodup schemaRows tableColumnRows
  have hkinds : ((idsByKind m).map Prod.fst).Nodup :=
    (by decide : ["db", "sch", "tbl", "col", "pk", "fk"].Nodup)
  rw [modelIds, nodup_flatten_kinds hkinds (kindOf_ids hb)]
  simp only [idsByKind, List.forall_mem_cons, List.not_mem_nil, false_implies, implies_true, and_true]
  rw [and_iff_right hdatabases, and_iff_right hschemas, hb.tableIds_perm.nodup_iff,
    hb.columnIds_perm.nodup_iff, hb.primaryKeyIds_perm.nodup_iff, hb.foreignKeyIds_perm.nodup_iff,
    tableIds_nodup_iff hkeys, and_congr_right (fun htables => and_congr
      (elementIds_nodup_iff htables (listedColumns_table _ _) (listedColumns_nodup _ _ hcolumns))
      (and_congr
        (elementIds_nodup_iff htables (listedPrimaryKeys_table _ _ _) (listedPrimaryKeys_nodup ..))
        (elementIds_nodup_iff htables (listedForeignKeys_table _ _ _) (listedForeignKeys_nodup ..))))]
  constructor
  · rintro ⟨htables, hcols, hprimary, hforeign⟩
    exact ⟨htables, hcols, hprimary, hforeign⟩
  · rintro ⟨htables, hcols, hprimary, hforeign⟩
    exact ⟨htables, hcols, hprimary, hforeign⟩

/-- Names without a slash are unambiguous. -/
theorem namesUnambiguous_of_notMem
    (htables : ∀ k ∈ listedTables schemaRows tableColumnRows, '/' ∉ k.2.toList)
    (hcolumns : ∀ c ∈ listedColumns schemaRows tableColumnRows, '/' ∉ c.2.toList)
    (hprimary : ∀ k ∈ listedPrimaryKeys schemaRows tableColumnRows primaryKeyRows, '/' ∉ k.2.toList)
    (hforeign : ∀ k ∈ listedForeignKeys schemaRows tableColumnRows foreignKeyRows, '/' ∉ k.2.toList) :
    NamesUnambiguous schemaRows tableColumnRows primaryKeyRows foreignKeyRows where
  tables := unambiguous_of_notMem htables
  columns := unambiguous_of_notMem hcolumns
  primaryKeys := unambiguous_of_notMem hprimary
  foreignKeys := unambiguous_of_notMem hforeign

end Distinct

section Shop

def shopRow : DatabaseRow := ⟨"shop", none, none, "repeatable read", "on"⟩

def shopTable (schemaName tableName : String) : TableColumnRow :=
  ⟨schemaName, tableName, none, none, some ⟨"id", 1, "integer", false, none⟩⟩

/-- A schema named up to the slash, and one with the slash in its name. -/
def shopSchemas : List SchemaRow := [⟨"a", none, none⟩, ⟨"a/b", none, none⟩]

def shopScan (tables : List TableColumnRow) : Except String GovernanceModel :=
  buildGovernanceModel "pg" shopRow shopSchemas tables [] []

end Shop
end CollibraGovernance.Scanner
