import CollibraGovernance.Scanner.RowOrder

/-! What a scanned model shows of its rows: every column in its place, every key with its columns paired. -/
namespace CollibraGovernance.Scanner
open Library Domain

/-- Elements under distinct keys are found alone. -/
lemma filter_eq_singleton {α β : Type} [DecidableEq β] {f : α → β} {xs : List α} (h : (xs.map f).Nodup) {x : α}
    (hx : x ∈ xs) : xs.filter (fun y => f y = f x) = [x] := by
  induction xs with
  | nil => cases hx
  | cons y rest ih =>
    rw [List.map_cons, List.nodup_cons] at h
    rcases List.mem_cons.mp hx with rfl | hx
    · rw [List.filter_cons_of_pos (by simp)]
      have hrest : rest.filter (fun y => f y = f x) = [] := by
        rw [List.filter_eq_nil_iff]
        intro z hz hzx
        exact h.1 (of_decide_eq_true hzx ▸ List.mem_map_of_mem hz)
      rw [hrest]
    · have hne : ¬ f y = f x := fun heq => h.1 (heq ▸ List.mem_map_of_mem hx)
      rw [List.filter_cons_of_neg (by simpa using hne)]
      exact ih h.2 hx

section Ids
variable (sourceName databaseName : String)

def tableIdOf (k : TableKey) : String := "tbl:" ++ tablePath sourceName databaseName k.1 k.2

def columnIdOf (k : TableKey) (columnName : String) : String :=
  "col:" ++ columnPath sourceName databaseName k.1 k.2 columnName

/-- A column of the model shows what its row says. -/
structure ShowsColumn (k : TableKey) (column : Column) (f : ColumnFields) : Prop where
  id : column.id = columnIdOf sourceName databaseName k f.columnName
  name : column.name = f.columnName
  dataType : column.dataType = f.dataType
  ordinalPosition : column.ordinalPosition = f.ordinalPosition
  nullable : column.nullable = f.nullable
  description : column.description = textJson f.columnDescription

end Ids

/-- The one table of the model with the given schema and name. -/
def TableAt (m : GovernanceModel) (k : TableKey) (t : Table) : Prop :=
  ∃ source database s, m.dataSources = [source] ∧ source.databases = [database] ∧
    database.schemas.filter (fun s => s.name = k.1) = [s] ∧ s.tables.filter (fun t => t.name = k.2) = [t]

namespace CatalogRows

/-- The columns that the rows list for a table. -/
def columnsOf (c : CatalogRows) (k : TableKey) : List ColumnFields :=
  (c.columnFacts.filter (fun f => f.1 = k)).map Prod.snd

def PresentTable (c : CatalogRows) (k : TableKey) : Prop :=
  isUserSchema k.1 = true ∧ ∃ r ∈ c.tableColumnRows, r.key = k

def PresentColumn (c : CatalogRows) (k : TableKey) (columnName : String) : Prop :=
  ∃ f ∈ c.columnsOf k, f.columnName = columnName

/-- The rows of one primary key, by ordinal. -/
def primaryKeyRowsOf (c : CatalogRows) (k : ConstraintKey) : List PrimaryKeyRow :=
  sortBy PrimaryKeyRow.keyOrdinal (c.primaryKeyRows.filter (fun r => r.key = k))

def foreignKeyRowsOf (c : CatalogRows) (k : ConstraintKey) : List ForeignKeyRow :=
  sortBy ForeignKeyRow.keyOrdinal (c.foreignKeyRows.filter (fun r => r.key = k))

end CatalogRows

def PrimaryKeyRow.tableKey (r : PrimaryKeyRow) : TableKey := (r.schemaName, r.tableName)
def ForeignKeyRow.tableKey (r : ForeignKeyRow) : TableKey := (r.schemaName, r.tableName)
def ForeignKeyRow.referencedKey (r : ForeignKeyRow) : TableKey := (r.referencedSchemaName, r.referencedTableName)

/-- Tables and columns of a foreign key are all there. -/
structure PresentForeignKey (c : CatalogRows) (r : ForeignKeyRow) : Prop where
  table : c.PresentTable r.tableKey
  referenced : c.PresentTable r.referencedKey
  columns : ∀ r' ∈ c.foreignKeyRowsOf r.key, c.PresentColumn r.tableKey r'.columnName ∧
    c.PresentColumn r.referencedKey r'.referencedColumnName

/-- The model shows every table of a user schema, its columns in order and its keys with theirs. -/
structure ShowsRows (sourceName databaseName : String) (c : CatalogRows) (m : GovernanceModel) : Prop where
  columns : ∀ k, c.PresentTable k → ∃ t, TableAt m k t ∧ t.id = tableIdOf sourceName databaseName k ∧
    List.Forall₂ (ShowsColumn sourceName databaseName k) t.columns
      (sortBy ColumnFields.ordinalPosition (c.columnsOf k))
  primaryKeys : ∀ r ∈ c.primaryKeyRows, c.PresentTable r.tableKey → ∃ t key, TableAt m r.tableKey t ∧
    t.primaryKey = some key ∧ key.name = r.constraintName ∧ key.tableId = t.id ∧
    key.columnIds = (c.primaryKeyRowsOf r.key).map
      (fun r => columnIdOf sourceName databaseName r.tableKey r.columnName)
  foreignKeys : ∀ r ∈ c.foreignKeyRows, PresentForeignKey c r → ∃ t t' key, TableAt m r.tableKey t ∧
    TableAt m r.referencedKey t' ∧ t.foreignKeys.filter (fun f => f.name = r.constraintName) = [key] ∧
    key.tableId = t.id ∧ key.referencedTableId = t'.id ∧
    key.columnIds = (c.foreignKeyRowsOf r.key).map
      (fun r => columnIdOf sourceName databaseName r.tableKey r.columnName) ∧
    key.referencedColumnIds = (c.foreignKeyRowsOf r.key).map
      (fun r => columnIdOf sourceName databaseName r.referencedKey r.referencedColumnName)

section Tables
variable {sourceName : String} {databaseRow : DatabaseRow} {c : CatalogRows} {m : GovernanceModel} {p : ScanParts}

lemma mem_tablesMeta {k : TableKey} : k ∈ (tablesMeta c.tableColumnRows).keys ↔ c.PresentTable k := by
  rw [tablesMeta, mem_keys_groupBy]
  constructor
  · rintro ⟨r, hr, rfl⟩
    obtain ⟨hr, huser⟩ := List.mem_filter.mp hr
    exact ⟨huser, r, hr, rfl⟩
  · rintro ⟨huser, r, hr, rfl⟩
    exact ⟨r, List.mem_filter.mpr ⟨hr, huser⟩, rfl⟩

lemma columnsOf_eq (k : TableKey) : c.columnsOf k =
    (c.tableColumnRows.filter (fun r => r.key = k)).filterMap TableColumnRow.column := by
  rw [CatalogRows.columnsOf, CatalogRows.columnFacts]
  induction c.tableColumnRows with
  | nil => rfl
  | cons r rest ih =>
    by_cases hk : r.key = k
    · rw [List.filter_cons_of_pos (by simpa using hk), List.filterMap_cons, List.filterMap_cons]
      cases hcolumn : r.column with
      | none => exact ih
      | some f =>
        simp only [Option.map_some]
        rw [List.filter_cons_of_pos (by simpa using hk), List.map_cons, ih]
    · rw [List.filter_cons_of_neg (by simpa using hk), List.filterMap_cons]
      cases hcolumn : r.column with
      | none => exact ih
      | some f =>
        simp only [Option.map_some]
        rw [List.filter_cons_of_neg (by simpa using hk), ih]

/-- The columns of a table's group of rows are those the rows list for it. -/
lemma columnRows_eq {k : TableKey} {g : Library.Group TableColumnRow}
    (hg : (tablesMeta c.tableColumnRows).get? k = some g) :
    columnRows g = sortBy ColumnFields.ordinalPosition (c.columnsOf k) := by
  have hmembers := mem_entries_groupBy (Dict.get?_eq_some.mp hg)
  have huser := (mem_tablesMeta.mp (Dict.mem_keys_iff.mpr ⟨g, hg⟩)).1
  rw [columnRows, columnsOf_eq, hmembers, List.filter_filter]
  congr 2
  refine List.filter_congr ?_
  intro r _
  by_cases hk : r.key = k
  · have hschema : isUserSchema r.schemaName = true := by
      rw [← hk] at huser
      exact huser
    simp [hk, hschema]
  · simp [hk]

lemma hasColumn_iff {k : TableKey} {columnName : String} : hasColumn (tablesMeta c.tableColumnRows) k columnName = true ↔
    c.PresentTable k ∧ c.PresentColumn k columnName := by
  rw [hasColumn, ← mem_tablesMeta]
  cases hg : (tablesMeta c.tableColumnRows).get? k with
  | none => simp [Dict.mem_keys_iff, hg]
  | some g =>
    simp only [columnRows_eq hg, List.any_eq_true, mem_sortBy, decide_eq_true_eq, Dict.mem_keys_iff, hg,
      CatalogRows.PresentColumn, Option.some.injEq, exists_eq', true_and]

lemma columnId_ok {tables : Dict TableKey (Library.Group TableColumnRow)} {databaseName : String} {k : TableKey}
    {columnName id : String} (h : columnId sourceName databaseName tables k columnName = .ok id) :
    id = columnIdOf sourceName databaseName k columnName := by
  unfold columnId at h
  split at h
  · exact (makeColumnId_ok h).1
  · cases h

lemma columnIds_ok {α : Type} {tables : Dict TableKey (Library.Group TableColumnRow)} {databaseName : String}
    {k : TableKey} {name : α → String} {rows : List α} {ids : List String}
    (h : rows.mapM (fun r => columnId sourceName databaseName tables k (name r)) = .ok ids) :
    ids = rows.map (fun r => columnIdOf sourceName databaseName k (name r)) := by
  have hids := mapM_map (p := id) (fun r id hid => columnId_ok hid) h
  rwa [List.map_id] at hids

lemma buildColumn_shows {databaseName : String} {k : TableKey} {f : ColumnFields} {column : Column}
    (h : buildColumn sourceName databaseName k f = .ok column) : ShowsColumn sourceName databaseName k column f := by
  obtain ⟨id, hid, h⟩ := bind_eq_ok.mp h
  obtain ⟨hi, hn, hd, ho, hnull, hdesc, -⟩ := Column.create_ok h
  exact ⟨hi.trans (makeColumnId_ok hid).1, hn, hd, ho, hnull, hdesc⟩

/-- The columns of a table, sorted as the table sorts them, stay in the order of their positions. -/
lemma columns_sorted {databaseName : String} {k : TableKey} {fs : List ColumnFields} {columns : List Column}
    (hcolumns : List.Forall₂ (ShowsColumn sourceName databaseName k) columns fs)
    (hsorted : SortedBy ColumnFields.ordinalPosition fs) (hnodup : (fs.map ColumnFields.ordinalPosition).Nodup) :
    sortBy Column.sortKey columns = columns := by
  have hpositions : columns.map Column.ordinalPosition = fs.map ColumnFields.ordinalPosition := by
    clear hsorted hnodup
    induction hcolumns with
    | nil => rfl
    | cons h _ ih => rw [List.map_cons, List.map_cons, h.ordinalPosition, ih]
  apply sortBy_eq_self
  have hlt : (columns.map Column.ordinalPosition).Pairwise (· < ·) := by
    rw [hpositions]
    have hle : (fs.map ColumnFields.ordinalPosition).Pairwise (· ≤ ·) := List.pairwise_map.mpr hsorted
    exact hle.and hnodup |>.imp (fun h => lt_of_le_of_ne h.1 h.2)
  refine (List.pairwise_map.mp hlt).imp ?_
  intro a b hab
  exact (Prod.Lex.toLex_le_toLex.mpr (Or.inl hab))

lemma Scan.built_keys_nodup (h : Scan sourceName databaseRow c m p) : (p.built.map Prod.fst).Nodup := by
  rw [h.built_keys]
  exact ((sortBy_perm _ _).map _).nodup_iff.mpr (Dict.keys_nodup _)

/-- How the table of a key is built. -/
lemma Scan.exists_built (h : Scan sourceName databaseRow c m p) {k : TableKey} (hk : c.PresentTable k) :
    ∃ g columns t, (tablesMeta c.tableColumnRows).get? k = some g ∧
      (columnRows g).mapM (buildColumn sourceName databaseRow.databaseName k) = .ok columns ∧
      buildTable sourceName databaseRow.databaseName columns p.primaryKeys p.foreignKeys (k, g) = .ok t ∧
      (k, t) ∈ p.built := by
  obtain ⟨g, hg⟩ := Dict.mem_keys_iff.mp (mem_tablesMeta.mpr hk)
  obtain ⟨hlength, hzip⟩ := List.forall₂_iff_zip.mp (mapM_eq_ok.mp h.columns)
  have hmem : (k, g) ∈ ((sortedTables c).zip p.columns).map Prod.fst := by
    rw [List.map_fst_zip hlength.le]
    exact mem_sortBy.mpr (Dict.get?_eq_some.mp hg)
  obtain ⟨⟨e, columns⟩, he, heq⟩ := List.mem_map.mp hmem
  have hcolumns := hzip he
  obtain ⟨y, hy, hmade⟩ := (mapM_mem h.built).2 _ he
  obtain ⟨t, ht, hmade⟩ := bind_eq_ok.mp hmade
  have hyt := pure_eq_ok.mp hmade
  dsimp only at heq hcolumns ht hyt
  rw [heq] at hcolumns ht hyt
  rw [← hyt] at hy
  exact ⟨g, columns, t, hg, hcolumns, ht, hy⟩

lemma buildTable_name {databaseName : String} {columns : List Column} {primaryKeys : Dict TableKey PrimaryKey}
    {foreignKeys : List (TableKey × ForeignKey × Relationship)} {e : TableKey × Library.Group TableColumnRow}
    {t : Table} (h : buildTable sourceName databaseName columns primaryKeys foreignKeys e = .ok t) :
    t.id = tableIdOf sourceName databaseName e.1 ∧ t.name = e.1.2 ∧ t.columns = sortBy Column.sortKey columns ∧
      t.primaryKey = primaryKeys.get? e.1 ∧
      t.foreignKeys = sortBy ForeignKey.id ((foreignKeys.filter (fun k => k.1 = e.1)).map (fun k => k.2.1)) := by
  obtain ⟨id, hid, h⟩ := bind_eq_ok.mp h
  obtain ⟨schemaId, -, h⟩ := bind_eq_ok.mp h
  obtain ⟨owner, -, h⟩ := bind_eq_ok.mp h
  obtain ⟨hi, hn, -, hcolumns, hprimary, hforeign, -⟩ := Table.create_ok h
  exact ⟨hi.trans (makeTableId_ok hid).1, hn, hcolumns, hprimary, hforeign⟩

lemma Scan.built_name (h : Scan sourceName databaseRow c m p) {t : TableKey × Table} (ht : t ∈ p.built) :
    t.2.name = t.1.2 := by
  obtain ⟨e, -, hmade⟩ := (mapM_mem h.built).1 t ht
  obtain ⟨table, htable, hmade⟩ := bind_eq_ok.mp hmade
  obtain rfl := pure_eq_ok.mp hmade
  exact (buildTable_name htable).2.1

/-- A built table is found in the model under its schema and its name, and no other one is. -/
lemma Scan.tableAt (h : Scan sourceName databaseRow c m p) (hc : c.Consistent) {k : TableKey} {t : Table}
    (hk : c.PresentTable k) (ht : (k, t) ∈ p.built) : TableAt m k t := by
  have hnames := h.builtModel.schema_names
  obtain ⟨huser, r, hr, rfl⟩ := hk
  obtain ⟨row, hrow, hname⟩ := List.mem_map.mp (hc.listed r hr)
  have hkey : r.schemaName ∈ (schemasMeta c.schemaRows).keys := by
    rw [schemasMeta, Dict.mem_keys_index]
    exact ⟨row, List.mem_filter.mpr ⟨hrow, by rw [hname]; exact huser⟩, hname⟩
  obtain ⟨s, hs, hsname⟩ := List.mem_map.mp (hnames.mem_iff.mpr hkey)
  have hschema : p.database.schemas.filter (fun s => s.name = r.schemaName) = [s] := by
    rw [← hsname]
    exact filter_eq_singleton (hnames.nodup_iff.mpr (Dict.keys_nodup _)) hs
  have htables := h.builtModel.tables s hs
  have htnames : (s.tables.map Table.name).Nodup := by
    refine (htables.map _).nodup_iff.mpr ?_
    rw [List.map_map]
    refine List.Nodup.map_on ?_ (List.Nodup.of_map _ (h.built_keys_nodup)|>.filter _)
    intro a ha b hb hab
    obtain ⟨ha, haschema⟩ := List.mem_filter.mp ha
    obtain ⟨hb, hbschema⟩ := List.mem_filter.mp hb
    have hname : a.2.name = b.2.name := hab
    rw [h.built_name ha, h.built_name hb] at hname
    have hschema := (of_decide_eq_true haschema).trans (of_decide_eq_true hbschema).symm
    exact List.inj_on_of_nodup_map h.built_keys_nodup ha hb (Prod.ext hschema hname)
  have hmem : t ∈ s.tables := by
    exact htables.mem_iff.mpr (List.mem_map.mpr ⟨_, List.mem_filter.mpr ⟨ht, decide_eq_true hsname.symm⟩, rfl⟩)
  refine ⟨p.source, p.database, s, h.builtModel.dataSources, h.builtModel.databases, hschema, ?_⟩
  have htname := h.built_name ht
  dsimp only at htname
  rw [← htname]
  exact filter_eq_singleton htnames hmem

/-- Every table of a user schema is there, with its columns in the order of their positions. -/
lemma Scan.shows_columns (h : Scan sourceName databaseRow c m p) (hc : c.Consistent) {k : TableKey}
    (hk : c.PresentTable k) : ∃ t, TableAt m k t ∧ (k, t) ∈ p.built ∧
      t.id = tableIdOf sourceName databaseRow.databaseName k ∧ t.primaryKey = p.primaryKeys.get? k ∧
      t.foreignKeys = sortBy ForeignKey.id ((p.foreignKeys.filter (fun f => f.1 = k)).map (fun f => f.2.1)) ∧
      List.Forall₂ (ShowsColumn sourceName databaseRow.databaseName k) t.columns
        (sortBy ColumnFields.ordinalPosition (c.columnsOf k)) := by
  obtain ⟨g, columns, t, hg, hcolumns, htable, ht⟩ := h.exists_built hk
  obtain ⟨hid, -, htcolumns, hprimary, hforeign⟩ := buildTable_name htable
  refine ⟨t, h.tableAt hc hk ht, ht, hid, hprimary, hforeign, ?_⟩
  have hshows : List.Forall₂ (ShowsColumn sourceName databaseRow.databaseName k) columns
      (sortBy ColumnFields.ordinalPosition (c.columnsOf k)) := by
    rw [← columnRows_eq hg]
    exact ((mapM_eq_ok.mp hcolumns).imp (fun _ _ h => buildColumn_shows h)).flip
  have hpositions : ((sortBy ColumnFields.ordinalPosition (c.columnsOf k)).map ColumnFields.ordinalPosition).Nodup := by
    refine ((sortBy_perm _ _).map _).nodup_iff.mpr ?_
    rw [CatalogRows.columnsOf, List.map_map]
    refine List.Nodup.map_on ?_ ((List.Nodup.of_map _ hc.positions).filter _)
    intro a ha b hb hab
    obtain ⟨ha, hak⟩ := List.mem_filter.mp ha
    obtain ⟨hb, hbk⟩ := List.mem_filter.mp hb
    have hkeys := (of_decide_eq_true hak).trans (of_decide_eq_true hbk).symm
    exact List.inj_on_of_nodup_map hc.positions ha hb (Prod.ext hkeys hab)
  rw [htcolumns, columns_sorted hshows (sortBy_sorted _ _) hpositions]
  exact hshows

end Tables

section Keys
variable {sourceName : String} {databaseRow : DatabaseRow} {c : CatalogRows} {m : GovernanceModel} {p : ScanParts}

lemma primaryKeyOf_some {tables : Dict TableKey (Library.Group TableColumnRow)} {databaseName : String}
    {e : ConstraintKey × Library.Group PrimaryKeyRow} {o : Option (TableKey × PrimaryKey)}
    (hknown : tables.contains (e.1.1, e.1.2.1) = true)
    (h : primaryKeyOf sourceName databaseName tables e = .ok o) : ∃ key, o = some ((e.1.1, e.1.2.1), key) ∧
      key.name = e.1.2.2 ∧ key.tableId = tableIdOf sourceName databaseName (e.1.1, e.1.2.1) ∧
      key.columnIds = (sortBy PrimaryKeyRow.keyOrdinal e.2.members).map
        (fun r => columnIdOf sourceName databaseName (e.1.1, e.1.2.1) r.columnName) := by
  unfold primaryKeyOf at h
  dsimp only at h
  rw [if_pos hknown] at h
  obtain ⟨tableId, htable, h⟩ := bind_eq_ok.mp h
  obtain ⟨columnIds, hcolumns, h⟩ := bind_eq_ok.mp h
  obtain ⟨id, -, h⟩ := bind_eq_ok.mp h
  obtain ⟨key, hkey, h⟩ := bind_eq_ok.mp h
  obtain ⟨-, hname, htid, hids⟩ := PrimaryKey.create_ok hkey
  exact ⟨key, (pure_eq_ok.mp h).symm, hname, htid.trans (makeTableId_ok htable).1, hids.trans (columnIds_ok hcolumns)⟩

lemma primaryKeyRows_eq {e : ConstraintKey × Library.Group PrimaryKeyRow}
    (he : e ∈ (primaryKeyGroups c.primaryKeyRows).entries) (huser : isUserSchema e.1.1 = true) :
    sortBy PrimaryKeyRow.keyOrdinal e.2.members = c.primaryKeyRowsOf e.1 := by
  rw [mem_entries_groupBy he, List.filter_filter, CatalogRows.primaryKeyRowsOf]
  congr 1
  refine List.filter_congr ?_
  intro r _
  by_cases hk : r.key = e.1
  · have hschema : isUserSchema r.schemaName = true := by
      rw [← hk] at huser
      exact huser
    simp [hk, hschema]
  · simp [hk]

/-- The primary key of a table that is there, with its columns in the order of their ordinals. -/
lemma Scan.shows_primaryKey (h : Scan sourceName databaseRow c m p) (hc : c.Consistent) {r : PrimaryKeyRow}
    (hr : r ∈ c.primaryKeyRows) (hk : c.PresentTable r.tableKey) : ∃ key, p.primaryKeys.get? r.tableKey = some key ∧
      key.name = r.constraintName ∧ key.tableId = tableIdOf sourceName databaseRow.databaseName r.tableKey ∧
      key.columnIds = (c.primaryKeyRowsOf r.key).map
        (fun r => columnIdOf sourceName databaseRow.databaseName r.tableKey r.columnName) := by
  obtain ⟨os, hos, hkept⟩ := foldlM_addPrimaryKey.mp h.primaryKeys
  have hkey : r.key ∈ (primaryKeyGroups c.primaryKeyRows).keys :=
    mem_keys_groupBy.mpr ⟨r, List.mem_filter.mpr ⟨hr, hk.1⟩, rfl⟩
  obtain ⟨e, he, hek⟩ := List.mem_map.mp hkey
  obtain ⟨o, ho, hmade⟩ := (mapM_mem hos).2 e he
  have hknown : (tablesMeta c.tableColumnRows).contains (e.1.1, e.1.2.1) = true := by
    rw [Dict.contains_iff, mem_tablesMeta, hek]
    exact hk
  obtain ⟨key, rfl, hname, htable, hids⟩ := primaryKeyOf_some hknown hmade
  have hrows := primaryKeyRows_eq he (by rw [hek]; exact hk.1)
  rw [hek] at hname htable hids hrows ho
  refine ⟨key, ?_, hname, htable, ?_⟩
  · have hlisted : (r.tableKey, key) ∈ os.filterMap id := List.mem_filterMap.mpr ⟨_, ho, rfl⟩
    have hindex : p.primaryKeys = Dict.index Prod.fst Prod.snd (os.filterMap id) := hkept
    have hpresent : r.tableKey ∈ p.primaryKeys.keys := by
      rw [hindex]
      exact Dict.mem_keys_index.mpr ⟨_, hlisted, rfl⟩
    obtain ⟨key', hkey'⟩ := Dict.mem_keys_iff.mp hpresent
    rw [hindex] at hkey' ⊢
    obtain ⟨x, hx, heq⟩ := Dict.exists_of_mem_index (Dict.get?_eq_some.mp hkey')
    have hsame := primaryKeys_inj hc hos _ hlisted _ hx heq.1.symm
    have hvalue : key' = x.2 := heq.2.symm
    rw [hkey', hvalue, ← hsame]
  · rw [hids, hrows]
    refine List.map_congr_left ?_
    intro r' hr'
    have hkey := of_decide_eq_true (List.mem_filter.mp (mem_sortBy.mp hr')).2
    have htable : r'.tableKey = r.tableKey :=
      Prod.ext (congrArg (fun k => k.1) hkey) (congrArg (fun k => k.2.1) hkey)
    rw [htable]
    rfl

/-- What the foreign key of a constraint is made of. -/
structure MadeForeignKey (sourceName databaseName : String) (e : ConstraintKey × Library.Group ForeignKeyRow)
    (referenced : TableKey) (k : TableKey × ForeignKey × Relationship) : Prop where
  key : k.1 = (e.1.1, e.1.2.1)
  name : k.2.1.name = e.1.2.2
  tableId : k.2.1.tableId = tableIdOf sourceName databaseName (e.1.1, e.1.2.1)
  referencedTableId : k.2.1.referencedTableId = tableIdOf sourceName databaseName referenced
  columnIds : k.2.1.columnIds = (sortBy ForeignKeyRow.keyOrdinal e.2.members).map
    (fun r => columnIdOf sourceName databaseName (e.1.1, e.1.2.1) r.columnName)
  referencedColumnIds : k.2.1.referencedColumnIds = (sortBy ForeignKeyRow.keyOrdinal e.2.members).map
    (fun r => columnIdOf sourceName databaseName referenced r.referencedColumnName)

lemma first_referenced {e : ConstraintKey × Library.Group ForeignKeyRow} {referenced : TableKey}
    (hreferenced : ∀ r ∈ e.2.members, r.referencedKey = referenced) :
    ((sortBy ForeignKeyRow.keyOrdinal e.2.members).head?.getD e.2.base).referencedKey = referenced := by
  cases hrows : sortBy ForeignKeyRow.keyOrdinal e.2.members with
  | nil => exact hreferenced _ e.2.base_mem
  | cons first rest =>
    have hfirst : first ∈ sortBy ForeignKeyRow.keyOrdinal e.2.members := by
      rw [hrows]
      exact List.mem_cons_self ..
    exact hreferenced first (mem_sortBy.mp hfirst)

lemma buildForeignKey_made {tables : Dict TableKey (Library.Group TableColumnRow)} {databaseName : String}
    {e : ConstraintKey × Library.Group ForeignKeyRow} {referenced : TableKey}
    {k : TableKey × ForeignKey × Relationship} (hreferenced : ∀ r ∈ e.2.members, r.referencedKey = referenced)
    (h : buildForeignKey sourceName databaseName tables e = .ok k) :
    MadeForeignKey sourceName databaseName e referenced k := by
  have hfirst := first_referenced hreferenced
  unfold buildForeignKey at h
  dsimp only at h
  obtain ⟨tableId, htable, h⟩ := bind_eq_ok.mp h
  obtain ⟨referencedTableId, hrtable, h⟩ := bind_eq_ok.mp h
  obtain ⟨sourceIds, hsource, h⟩ := bind_eq_ok.mp h
  obtain ⟨referencedIds, hrids, h⟩ := bind_eq_ok.mp h
  obtain ⟨id, -, h⟩ := bind_eq_ok.mp h
  obtain ⟨foreignKey, hk, h⟩ := bind_eq_ok.mp h
  obtain ⟨relationshipId, -, h⟩ := bind_eq_ok.mp h
  obtain ⟨relationship, -, h⟩ := bind_eq_ok.mp h
  obtain rfl := pure_eq_ok.mp h
  obtain ⟨-, hname, htid, hids, hrtid, hrefs⟩ := ForeignKey.create_ok hk
  have hreferencedId := (makeTableId_ok hrtable).1
  have hreferencedIds := columnIds_ok hrids
  refine ⟨rfl, hname, htid.trans (makeTableId_ok htable).1, ?_, hids.trans (columnIds_ok hsource), ?_⟩
  · rw [← hfirst]
    exact hrtid.trans hreferencedId
  · rw [← hfirst]
    exact hrefs.trans hreferencedIds

lemma foreignKeyRows_eq {e : ConstraintKey × Library.Group ForeignKeyRow} {referenced : TableKey}
    (he : e ∈ (foreignKeyGroups c.foreignKeyRows).entries) (huser : isUserSchema e.1.1 = true)
    (hreferenced : ∀ r ∈ c.foreignKeyRows, r.key = e.1 → r.referencedKey = referenced)
    (hruser : isUserSchema referenced.1 = true) :
    sortBy ForeignKeyRow.keyOrdinal e.2.members = c.foreignKeyRowsOf e.1 := by
  rw [mem_entries_groupBy he, List.filter_filter, CatalogRows.foreignKeyRowsOf]
  congr 1
  refine List.filter_congr ?_
  intro r hr
  by_cases hk : r.key = e.1
  · have hschema : isUserSchema r.schemaName = true := by
      rw [← hk] at huser
      exact huser
    have hrschema : isUserSchema r.referencedSchemaName = true := by
      rw [← hreferenced r hr hk] at hruser
      exact hruser
    simp [hk, hschema, hrschema]
  · simp [hk]

lemma buildForeignKey_name {tables : Dict TableKey (Library.Group TableColumnRow)} {databaseName : String}
    {e : ConstraintKey × Library.Group ForeignKeyRow} {k : TableKey × ForeignKey × Relationship}
    (h : buildForeignKey sourceName databaseName tables e = .ok k) : k.2.1.name = e.1.2.2 := by
  unfold buildForeignKey at h
  dsimp only at h
  obtain ⟨tableId, -, h⟩ := bind_eq_ok.mp h
  obtain ⟨referencedTableId, -, h⟩ := bind_eq_ok.mp h
  obtain ⟨sourceIds, -, h⟩ := bind_eq_ok.mp h
  obtain ⟨referencedIds, -, h⟩ := bind_eq_ok.mp h
  obtain ⟨id, -, h⟩ := bind_eq_ok.mp h
  obtain ⟨foreignKey, hk, h⟩ := bind_eq_ok.mp h
  obtain ⟨relationshipId, -, h⟩ := bind_eq_ok.mp h
  obtain ⟨relationship, -, h⟩ := bind_eq_ok.mp h
  obtain rfl := pure_eq_ok.mp h
  exact (ForeignKey.create_ok hk).2.1

/-- A foreign key of a table goes by its constraint's name alone. -/
lemma Scan.foreignKey_names (h : Scan sourceName databaseRow c m p) :
    (p.foreignKeys.map (fun k => (k.1, k.2.1.name))).Nodup := by
  have hnames := mapM_map (p := fun k : TableKey × ForeignKey × Relationship => (k.1, k.2.1.name))
    (q := fun e : ConstraintKey × Library.Group ForeignKeyRow => (((e.1.1, e.1.2.1), e.1.2.2) : TableKey × String))
    (fun e k hk => Prod.ext (buildForeignKey_ok hk).1 (buildForeignKey_name hk)) h.foreignKeys
  rw [hnames]
  have hkeys : ((foreignKeyGroups c.foreignKeyRows).entries.filter
      (keptForeignKey (tablesMeta c.tableColumnRows))).map Prod.fst |>.Nodup :=
    (Dict.keys_nodup _).sublist (List.filter_sublist.map _)
  refine List.Nodup.map_on ?_ (List.Nodup.of_map _ hkeys)
  intro e he e' he' heq
  have hkey : e.1 = e'.1 := by
    obtain ⟨htable, hname⟩ := Prod.mk.inj heq
    obtain ⟨hschema, htable⟩ := Prod.mk.inj htable
    exact Prod.ext hschema (Prod.ext htable hname)
  exact List.inj_on_of_nodup_map hkeys he he' hkey

/-- A foreign key whose tables and columns are there is kept, once, with its columns paired. -/
lemma Scan.shows_foreignKey (h : Scan sourceName databaseRow c m p) (hc : c.Consistent) {r : ForeignKeyRow}
    (hr : r ∈ c.foreignKeyRows) (hpresent : PresentForeignKey c r) : ∃ k ∈ p.foreignKeys, k.1 = r.tableKey ∧
      k.2.1.name = r.constraintName ∧
      k.2.1.tableId = tableIdOf sourceName databaseRow.databaseName r.tableKey ∧
      k.2.1.referencedTableId = tableIdOf sourceName databaseRow.databaseName r.referencedKey ∧
      k.2.1.columnIds = (c.foreignKeyRowsOf r.key).map
        (fun r => columnIdOf sourceName databaseRow.databaseName r.tableKey r.columnName) ∧
      k.2.1.referencedColumnIds = (c.foreignKeyRowsOf r.key).map
        (fun r => columnIdOf sourceName databaseRow.databaseName r.referencedKey r.referencedColumnName) := by
  have hreference : ∀ r' ∈ c.foreignKeyRows, r'.key = r.key → r'.referencedKey = r.referencedKey :=
    fun r' hr' hkey => hc.references r' hr' r hr hkey
  have hkey : r.key ∈ (foreignKeyGroups c.foreignKeyRows).keys := by
    refine mem_keys_groupBy.mpr ⟨r, List.mem_filter.mpr ⟨hr, ?_⟩, rfl⟩
    rw [Bool.and_eq_true]
    exact ⟨hpresent.table.1, hpresent.referenced.1⟩
  obtain ⟨e, he, hek⟩ := List.mem_map.mp hkey
  have hmembers : ∀ r' ∈ e.2.members, r'.referencedKey = r.referencedKey := by
    intro r' hr'
    rw [mem_entries_groupBy he] at hr'
    obtain ⟨hr', hkey'⟩ := List.mem_filter.mp hr'
    exact hreference r' (List.mem_filter.mp hr').1 ((of_decide_eq_true hkey').trans hek)
  have hrows := foreignKeyRows_eq he (by rw [hek]; exact hpresent.table.1) (by rw [hek]; exact hreference)
    hpresent.referenced.1
  rw [hek] at hrows
  have hfirst := first_referenced hmembers
  have htable : (e.1.1, e.1.2.1) = r.tableKey := by
    rw [hek]
    rfl
  have hkept : keptForeignKey (tablesMeta c.tableColumnRows) e = true := by
    unfold keptForeignKey
    dsimp only
    have hreferenced : (((sortBy ForeignKeyRow.keyOrdinal e.2.members).head?.getD e.2.base).referencedSchemaName,
        ((sortBy ForeignKeyRow.keyOrdinal e.2.members).head?.getD e.2.base).referencedTableName) =
          r.referencedKey := hfirst
    rw [hreferenced, htable, hrows]
    simp only [Bool.and_eq_true, Dict.contains_iff, mem_tablesMeta, List.all_eq_true, hasColumn_iff]
    exact ⟨⟨⟨hpresent.table, hpresent.referenced⟩, fun r' hr' => ⟨hpresent.table, (hpresent.columns r' hr').1⟩⟩,
      fun r' hr' => ⟨hpresent.referenced, (hpresent.columns r' hr').2⟩⟩
  obtain ⟨k, hk, hmade⟩ := (mapM_mem h.foreignKeys).2 e (List.mem_filter.mpr ⟨he, hkept⟩)
  have hmadeKey := buildForeignKey_made hmembers hmade
  have hkeys : ∀ r' ∈ c.foreignKeyRowsOf r.key, r'.tableKey = r.tableKey ∧ r'.referencedKey = r.referencedKey := by
    intro r' hr'
    obtain ⟨hr', hkey'⟩ := List.mem_filter.mp (mem_sortBy.mp hr')
    have hkey' := of_decide_eq_true hkey'
    exact ⟨Prod.ext (congrArg (fun k => k.1) hkey') (congrArg (fun k => k.2.1) hkey'), hreference r' hr' hkey'⟩
  refine ⟨k, hk, hmadeKey.key.trans htable, ?_, ?_, hmadeKey.referencedTableId, ?_, ?_⟩
  · rw [hmadeKey.name, hek]
    rfl
  · rw [hmadeKey.tableId, htable]
  · rw [hmadeKey.columnIds, hrows, htable]
    exact List.map_congr_left (fun r' hr' => by rw [(hkeys r' hr').1])
  · rw [hmadeKey.referencedColumnIds, hrows]
    exact List.map_congr_left (fun r' hr' => by rw [(hkeys r' hr').2])

end Keys

section Main
variable {sourceName : String} {databaseRow : DatabaseRow} {c : CatalogRows} {m : GovernanceModel}

/-- The model of consistent rows shows them all. -/
theorem showsRows_of_ok (hc : c.Consistent) (hbuild : c.build sourceName databaseRow = .ok m) :
    ShowsRows sourceName databaseRow.databaseName c m := by
  obtain ⟨p, h⟩ := build_eq_ok.mp hbuild
  refine ⟨?_, ?_, ?_⟩
  · intro k hk
    obtain ⟨t, hat, -, hid, -, -, hcolumns⟩ := h.shows_columns hc hk
    exact ⟨t, hat, hid, hcolumns⟩
  · intro r hr hk
    obtain ⟨t, hat, -, hid, hprimary, -, -⟩ := h.shows_columns hc hk
    obtain ⟨key, hget, hname, htable, hids⟩ := h.shows_primaryKey hc hr hk
    exact ⟨t, key, hat, hprimary.trans hget, hname, htable.trans hid.symm, hids⟩
  · intro r hr hpresent
    obtain ⟨t, hat, -, hid, -, hforeign, -⟩ := h.shows_columns hc hpresent.table
    obtain ⟨t', hat', -, hid', -, -, -⟩ := h.shows_columns hc hpresent.referenced
    obtain ⟨k, hk, hkey, hname, htable, hreferenced, hids, hrids⟩ := h.shows_foreignKey hc hr hpresent
    refine ⟨t, t', k.2.1, hat, hat', ?_, htable.trans hid.symm, hreferenced.trans hid'.symm, hids, hrids⟩
    rw [← hname]
    have hlisted : k.2.1 ∈ t.foreignKeys := by
      rw [hforeign, mem_sortBy]
      exact List.mem_map.mpr ⟨k, List.mem_filter.mpr ⟨hk, decide_eq_true hkey⟩, rfl⟩
    refine filter_eq_singleton ?_ hlisted
    rw [hforeign]
    refine ((sortBy_perm _ _).map _).nodup_iff.mpr ?_
    rw [List.map_map]
    refine List.Nodup.map_on ?_ ((List.Nodup.of_map _ h.foreignKey_names).filter _)
    intro a ha b hb hab
    obtain ⟨ha, hak⟩ := List.mem_filter.mp ha
    obtain ⟨hb, hbk⟩ := List.mem_filter.mp hb
    exact List.inj_on_of_nodup_map h.foreignKey_names ha hb
      (Prod.ext ((of_decide_eq_true hak).trans (of_decide_eq_true hbk).symm) hab)

/-- A scan is faithful to consistent rows, in whatever order these are listed. -/
theorem scan_faithful (hc : c.Consistent) (hids : (foreignKeyIds sourceName databaseRow.databaseName c).Nodup)
    (hbuild : c.build sourceName databaseRow = .ok m) :
    (∀ c', c.Permuted c' → c'.build sourceName databaseRow = .ok m) ∧
      ShowsRows sourceName databaseRow.databaseName c m :=
  ⟨fun _ hperm => build_of_permuted hc hids hperm hbuild, showsRows_of_ok hc hbuild⟩

end Main

section Samples

def orderRow : DatabaseRow := ⟨"shop", none, none, "repeatable read", "on"⟩

def columnRow (schema table column : String) (position : Int) : TableColumnRow :=
  ⟨schema, table, none, none, some ⟨column, position, "integer", false, none⟩⟩

/-- Order lines with a key of two columns, which an invoice refers to; nothing is listed in order. -/
def orderRows : CatalogRows where
  schemaRows := [⟨"sales", none, none⟩]
  tableColumnRows := [columnRow "sales" "lines" "line" 2, columnRow "sales" "invoices" "line_ref" 3,
    columnRow "sales" "lines" "order" 1, columnRow "sales" "invoices" "order_ref" 1]
  primaryKeyRows := [⟨"sales", "lines", "lines_pk", "line", 2⟩, ⟨"sales", "lines", "lines_pk", "order", 1⟩]
  foreignKeyRows :=
    [⟨"sales", "invoices", "invoices_fk", "line_ref", "sales", "lines", "line", 2⟩,
      ⟨"sales", "invoices", "invoices_fk", "order_ref", "sales", "lines", "order", 1⟩]

theorem orderRows_consistent : orderRows.Consistent where
  schemas := by decide
  tables := by decide
  listed := by decide
  columns := by decide
  positions := by decide
  primaryKeys := by decide
  primaryKeyOrdinals := by decide
  references := by decide
  foreignKeyOrdinals := by decide

theorem orders_scanned : ∃ m, orderRows.build "pg" orderRow = .ok m ∧ ShowsRows "pg" "shop" orderRows m := by
  have hok : (orderRows.build "pg" orderRow).toOption.isSome = true := by decide +kernel
  obtain ⟨m, hm⟩ := exists_ok hok
  exact ⟨m, hm, (scan_faithful orderRows_consistent (by decide +kernel) hm).2⟩

/-- A table of a schema that the scanner leaves out. -/
def systemRows : CatalogRows := ⟨[⟨"pg_temp", none, none⟩], [columnRow "pg_temp" "lines" "order" 1], [], []⟩

/-- Two tables with foreign keys whose names, joined, read the same. -/
def slashRows : CatalogRows where
  schemaRows := [⟨"s", none, none⟩]
  tableColumnRows := [columnRow "s" "a" "x" 1, columnRow "s" "a/b" "x" 1]
  primaryKeyRows := []
  foreignKeyRows := [⟨"s", "a", "b/c", "x", "s", "a", "x", 1⟩, ⟨"s", "a/b", "c", "x", "s", "a", "x", 1⟩]

def slashRowsReversed : CatalogRows := { slashRows with foreignKeyRows := slashRows.foreignKeyRows.reverse }

/-- Relationship names in the order of the model. -/
def relationshipNames (c : CatalogRows) : Option (List String) :=
  (c.build "pg" orderRow).toOption.map (fun m => m.relationships.map Relationship.name)

theorem system_schemas_left_out_and_slashes_mixed :
    (systemRows.Consistent ∧ systemRows.columnFacts.length = 1 ∧
      (systemRows.build "pg" orderRow).toOption.map (fun m => m.tables.length) = some 0) ∧
    slashRows.Consistent ∧ slashRows.Permuted slashRowsReversed ∧ relationshipNames slashRows = some ["b/c", "c"] ∧
      relationshipNames slashRowsReversed = some ["c", "b/c"] := by
  refine ⟨⟨⟨by decide, by decide, by decide, by decide, by decide, by decide, by decide, by decide, by decide⟩,
    by decide, by decide +kernel⟩, ⟨by decide, by decide, by decide, by decide, by decide, by decide, by decide,
    by decide, by decide⟩, ⟨.refl _, .refl _, .refl _, (List.reverse_perm _).symm⟩, by decide +kernel,
    by decide +kernel⟩

end Samples
end CollibraGovernance.Scanner
