import CollibraGovernance.Domain.Created
import CollibraGovernance.Scanner.Postgres

/-! What a scan leaves in the model: which ids and names its rows lead to. -/
namespace CollibraGovernance.Scanner
open Library Domain

section Names
variable (tables : Dict TableKey (Library.Group TableColumnRow))

/-- The column names of a table. -/
def columnNames (key : TableKey) : List String :=
  (tables.get? key).elim [] (fun g => (columnRows g).map ColumnFields.columnName)

/-- The primary-key constraint that is kept for each table: the last one. -/
def primaryKeyNames (groups : List (ConstraintKey × Library.Group PrimaryKeyRow)) :
    Dict TableKey String :=
  groups.foldl (fun d e =>
    if tables.contains (e.1.1, e.1.2.1) then d.set (e.1.1, e.1.2.1) e.1.2.2 else d) .empty

/-- The foreign-key constraints that are kept. -/
def foreignKeyNames (rows : List ForeignKeyRow) : List ConstraintKey :=
  ((foreignKeyGroups rows).entries.filter (keptForeignKey tables)).map Prod.fst

end Names

section Tables
variable (sourceName databaseName : String) (tables : Dict TableKey (Library.Group TableColumnRow))
  (primaryKeyRows : List PrimaryKeyRow) (foreignKeyRows : List ForeignKeyRow)

/-- The table of the given schema and name, with the ids its rows lead to. -/
structure BuiltTable (key : TableKey) (t : Table) : Prop where
  id : t.id = "tbl:" ++ tablePath sourceName databaseName key.1 key.2
  name : t.name = key.2
  columns : (t.columns.map (fun c => (c.id, c.name))).Perm ((columnNames tables key).map
    (fun c => ("col:" ++ columnPath sourceName databaseName key.1 key.2 c, c)))
  primaryKey : t.primaryKey.map PrimaryKey.id =
    ((primaryKeyNames tables (primaryKeyGroups primaryKeyRows).entries).get? key).map
      (fun n => "pk:" ++ joined t.id n)
  foreignKeys : (t.foreignKeys.map ForeignKey.id).Perm
    (((foreignKeyNames tables foreignKeyRows).filter (fun k => (k.1, k.2.1) = key)).map
      (fun k => "fk:" ++ joined t.id k.2.2))

variable {sourceName databaseName tables primaryKeyRows foreignKeyRows}

lemma buildColumn_ok {key : TableKey} {c : ColumnFields} {column : Column}
    (h : buildColumn sourceName databaseName key c = .ok column) :
    (column.id, column.name) =
      ("col:" ++ columnPath sourceName databaseName key.1 key.2 c.columnName, c.columnName) := by
  obtain ⟨id, hid, h⟩ := bind_eq_ok.mp h
  obtain ⟨hi, hn, -⟩ := Column.create_ok h
  rw [hi, hn, (makeColumnId_ok hid).1]

lemma addPrimaryKey_ok {d d' : Dict TableKey PrimaryKey}
    {e : ConstraintKey × Library.Group PrimaryKeyRow}
    (h : addPrimaryKey sourceName databaseName tables d e = .ok d') :
    d' = d ∧ tables.contains (e.1.1, e.1.2.1) = false ∨
      ∃ k, d' = d.set (e.1.1, e.1.2.1) k ∧ tables.contains (e.1.1, e.1.2.1) = true ∧
        k.id = "pk:" ++ joined ("tbl:" ++ tablePath sourceName databaseName e.1.1 e.1.2.1) e.1.2.2 := by
  unfold addPrimaryKey at h
  dsimp only at h
  split at h
  · rename_i hknown
    obtain ⟨tableId, htable, h⟩ := bind_eq_ok.mp h
    obtain ⟨columnIds, -, h⟩ := bind_eq_ok.mp h
    obtain ⟨id, hid, h⟩ := bind_eq_ok.mp h
    obtain ⟨k, hk, h⟩ := bind_eq_ok.mp h
    cases h
    refine Or.inr ⟨k, rfl, hknown, ?_⟩
    rw [(PrimaryKey.create_ok hk).1, makePrimaryKeyId_ok hid, (makeTableId_ok htable).1]
  · rename_i hunknown
    cases h
    exact Or.inl ⟨rfl, Bool.eq_false_iff.mpr hunknown⟩

/-- The primary keys that are kept are those of the kept names. -/
lemma primaryKeys_ok {groups : List (ConstraintKey × Library.Group PrimaryKeyRow)}
    {d : Dict TableKey PrimaryKey}
    (h : groups.foldlM (addPrimaryKey sourceName databaseName tables) Dict.empty = .ok d)
    (key : TableKey) : (d.get? key).map PrimaryKey.id =
      ((primaryKeyNames tables groups).get? key).map
        (fun n => "pk:" ++ joined ("tbl:" ++ tablePath sourceName databaseName key.1 key.2) n) := by
  have hrun : ∀ (d d' : Dict TableKey PrimaryKey) (names : Dict TableKey String),
      (∀ key : TableKey, (d.get? key).map PrimaryKey.id = (names.get? key).map
        (fun n => "pk:" ++ joined ("tbl:" ++ tablePath sourceName databaseName key.1 key.2) n)) →
      groups.foldlM (addPrimaryKey sourceName databaseName tables) d = .ok d' →
      ∀ key : TableKey, (d'.get? key).map PrimaryKey.id =
        ((groups.foldl (fun d e => if tables.contains (e.1.1, e.1.2.1) then
          d.set (e.1.1, e.1.2.1) e.1.2.2 else d) names).get? key).map
        (fun n => "pk:" ++ joined ("tbl:" ++ tablePath sourceName databaseName key.1 key.2) n) := by
    clear h d
    induction groups with
    | nil =>
      intro d d' names hd h
      cases pure_eq_ok.mp h
      exact hd
    | cons e rest ih =>
      intro d d' names hd h
      rw [List.foldlM_cons] at h
      obtain ⟨d₁, he, h⟩ := bind_eq_ok.mp h
      rw [List.foldl_cons]
      refine ih d₁ d' _ ?_ h
      intro key
      cases addPrimaryKey_ok he with
      | inl hskip => rw [hskip.1, hskip.2, if_neg Bool.false_ne_true, hd]
      | inr hset =>
        obtain ⟨k, hk, hknown, hid⟩ := hset
        rw [hk, hknown, if_pos rfl]
        by_cases hkey : key = (e.1.1, e.1.2.1)
        · subst hkey
          rw [Dict.get?_set_self, Dict.get?_set_self, Option.map_some, Option.map_some, hid]
        · rw [Dict.get?_set_of_ne _ _ hkey, Dict.get?_set_of_ne _ _ hkey, hd]
  exact hrun _ _ .empty (fun _ => rfl) h key

lemma buildForeignKey_ok {e : ConstraintKey × Library.Group ForeignKeyRow}
    {k : TableKey × ForeignKey × Relationship}
    (h : buildForeignKey sourceName databaseName tables e = .ok k) :
    k.1 = (e.1.1, e.1.2.1) ∧ k.2.1.id =
      "fk:" ++ joined ("tbl:" ++ tablePath sourceName databaseName e.1.1 e.1.2.1) e.1.2.2 := by
  unfold buildForeignKey at h
  dsimp only at h
  obtain ⟨tableId, htable, h⟩ := bind_eq_ok.mp h
  obtain ⟨referencedTableId, -, h⟩ := bind_eq_ok.mp h
  obtain ⟨sourceIds, -, h⟩ := bind_eq_ok.mp h
  obtain ⟨referencedIds, -, h⟩ := bind_eq_ok.mp h
  obtain ⟨id, hid, h⟩ := bind_eq_ok.mp h
  obtain ⟨foreignKey, hk, h⟩ := bind_eq_ok.mp h
  obtain ⟨relationshipId, -, h⟩ := bind_eq_ok.mp h
  obtain ⟨relationship, -, h⟩ := bind_eq_ok.mp h
  cases h
  exact ⟨rfl, by rw [(ForeignKey.create_ok hk).1, makeForeignKeyId_ok hid, (makeTableId_ok htable).1]⟩

/-- The foreign keys that are built are the kept ones, each with the table it stands in. -/
lemma foreignKeys_ok {foreignKeys : List (TableKey × ForeignKey × Relationship)}
    (h : ((foreignKeyGroups foreignKeyRows).entries.filter (keptForeignKey tables)).mapM
      (buildForeignKey sourceName databaseName tables) = .ok foreignKeys) (key : TableKey) :
    (foreignKeys.filter (fun k => k.1 = key)).map (fun k => k.2.1.id) =
      ((foreignKeyNames tables foreignKeyRows).filter (fun k => (k.1, k.2.1) = key)).map
        (fun k => "fk:" ++ joined ("tbl:" ++ tablePath sourceName databaseName key.1 key.2) k.2.2) := by
  have hall := mapM_map
    (p := fun k : TableKey × ForeignKey × Relationship => (k.1, k.2.1.id))
    (q := fun e : ConstraintKey × Library.Group ForeignKeyRow => ((e.1.1, e.1.2.1),
      "fk:" ++ joined ("tbl:" ++ tablePath sourceName databaseName e.1.1 e.1.2.1) e.1.2.2))
    (fun e k hk => Prod.ext (buildForeignKey_ok hk).1 (buildForeignKey_ok hk).2) h
  have hkept := congrArg (fun l => (l.filter (fun k => k.1 = key)).map Prod.snd) hall
  simp only [List.filter_map, List.map_map] at hkept
  rw [foreignKeyNames, List.filter_map, List.map_map]
  refine Eq.trans hkept (List.map_congr_left ?_)
  intro e he
  have hkey : (e.1.1, e.1.2.1) = key := by simpa using (List.mem_filter.mp he).2
  subst hkey
  rfl

lemma buildTable_ok {columns : List Column} {primaryKeys : Dict TableKey PrimaryKey}
    {foreignKeys : List (TableKey × ForeignKey × Relationship)}
    {e : TableKey × Library.Group TableColumnRow} {t : Table} (he : e ∈ tables.entries)
    (hcolumns : (columnRows e.2).mapM (buildColumn sourceName databaseName e.1) = .ok columns)
    (hprimary : (primaryKeyGroups primaryKeyRows).entries.foldlM
      (addPrimaryKey sourceName databaseName tables) Dict.empty = .ok primaryKeys)
    (hforeign : ((foreignKeyGroups foreignKeyRows).entries.filter (keptForeignKey tables)).mapM
      (buildForeignKey sourceName databaseName tables) = .ok foreignKeys)
    (h : buildTable sourceName databaseName columns primaryKeys foreignKeys e = .ok t) :
    BuiltTable sourceName databaseName tables primaryKeyRows foreignKeyRows e.1 t := by
  obtain ⟨id, hid, h⟩ := bind_eq_ok.mp h
  obtain ⟨schemaId, -, h⟩ := bind_eq_ok.mp h
  obtain ⟨owner, -, h⟩ := bind_eq_ok.mp h
  obtain ⟨hi, hn, -, hc, hp, hf, -⟩ := Table.create_ok h
  have hid : t.id = "tbl:" ++ tablePath sourceName databaseName e.1.1 e.1.2 :=
    hi.trans (makeTableId_ok hid).1
  have hnames : columnNames tables e.1 = (columnRows e.2).map ColumnFields.columnName := by
    rw [columnNames, Dict.get?_eq_some.mpr he]
    rfl
  have hids := mapM_map (fun c column hc => buildColumn_ok hc) hcolumns
  refine ⟨hid, hn, ?_, ?_, ?_⟩
  · rw [hc, hnames, List.map_map]
    refine ((sortBy_perm _ _).map _).trans ?_
    rw [hids]
    exact .refl _
  · rw [hp, primaryKeys_ok hprimary, hid]
  · rw [hf, hid, ← foreignKeys_ok hforeign e.1]
    refine ((sortBy_perm _ _).map _).trans ?_
    rw [List.map_map]
    rfl

lemma buildSchema_ok {databaseId : String} {built : List (TableKey × Table)} {e : String × SchemaRow}
    {s : Schema} (h : buildSchema sourceName databaseName databaseId built e = .ok s) :
    (s.id, s.name) = ("sch:" ++ schemaPath sourceName databaseName e.1, e.1) ∧
      s.tables.Perm ((built.filter (fun t => t.1.1 = s.name)).map Prod.snd) := by
  obtain ⟨id, hid, h⟩ := bind_eq_ok.mp h
  obtain ⟨owner, -, h⟩ := bind_eq_ok.mp h
  obtain ⟨hi, hn, -, ht, -⟩ := Schema.create_ok h
  rw [ht, hi, hn, (makeSchemaId_ok hid).1]
  exact ⟨rfl, sortBy_perm _ _⟩

end Tables

section Scan

/-- The rows that the catalog lists. -/
structure CatalogRows where
  schemaRows : List SchemaRow
  tableColumnRows : List TableColumnRow
  primaryKeyRows : List PrimaryKeyRow
  foreignKeyRows : List ForeignKeyRow

def CatalogRows.build (c : CatalogRows) (sourceName : String) (databaseRow : DatabaseRow) : Except String GovernanceModel :=
  buildGovernanceModel sourceName databaseRow c.schemaRows c.tableColumnRows c.primaryKeyRows c.foreignKeyRows

/-- What a scan makes on its way to the model. -/
structure ScanParts where
  dataSourceId : String
  databaseId : String
  columns : List (List Column)
  primaryKeys : Dict TableKey PrimaryKey
  foreignKeys : List (TableKey × ForeignKey × Relationship)
  built : List (TableKey × Table)
  schemas : List Schema
  owner : Option Ownership
  database : Database
  source : DataSource

/-- The tables of the rows, by key. -/
def sortedTables (c : CatalogRows) : List (TableKey × Library.Group TableColumnRow) :=
  sortBy (fun e => toLex e.1) (tablesMeta c.tableColumnRows).entries

/-- The steps of a scan that leads to a model. -/
structure Scan (sourceName : String) (databaseRow : DatabaseRow) (c : CatalogRows) (m : GovernanceModel)
    (p : ScanParts) : Prop where
  isolation : ¬ (lower databaseRow.transactionIsolation ≠ "repeatable read" ∨
    lower databaseRow.transactionReadOnly ≠ "on")
  dataSourceId : makeDatasourceId sourceName = .ok p.dataSourceId
  databaseId : makeDatabaseId sourceName databaseRow.databaseName = .ok p.databaseId
  representable : (tablesMeta c.tableColumnRows).entries.any (fun e => (columnRows e.2).isEmpty) = false
  columns : (sortedTables c).mapM (fun e =>
    (columnRows e.2).mapM (buildColumn sourceName databaseRow.databaseName e.1)) = .ok p.columns
  primaryKeys : (primaryKeyGroups c.primaryKeyRows).entries.foldlM
    (addPrimaryKey sourceName databaseRow.databaseName (tablesMeta c.tableColumnRows)) Dict.empty = .ok p.primaryKeys
  foreignKeys : ((foreignKeyGroups c.foreignKeyRows).entries.filter
    (keptForeignKey (tablesMeta c.tableColumnRows))).mapM
      (buildForeignKey sourceName databaseRow.databaseName (tablesMeta c.tableColumnRows)) = .ok p.foreignKeys
  built : ((sortedTables c).zip p.columns).mapM (fun e => do
    let table ← buildTable sourceName databaseRow.databaseName e.2 p.primaryKeys p.foreignKeys e.1
    return (e.1.1, table)) = .ok p.built
  schemas : (sortBy Prod.fst (schemasMeta c.schemaRows).entries).mapM
    (buildSchema sourceName databaseRow.databaseName p.databaseId p.built) = .ok p.schemas
  owner : ownership databaseRow.ownerName = .ok p.owner
  database : Database.create p.databaseId databaseRow.databaseName p.dataSourceId p.schemas
    (textJson databaseRow.description) p.owner = .ok p.database
  source : DataSource.create p.dataSourceId sourceName "postgresql" [p.database] .null none [] = .ok p.source
  model : GovernanceModel.create [p.source] (p.foreignKeys.map (fun k => k.2.2)) = .ok m
  integrity : validateGraphIntegrity m = .ok ()

variable {sourceName : String} {databaseRow : DatabaseRow} {c : CatalogRows} {m : GovernanceModel}

theorem build_eq_ok : c.build sourceName databaseRow = .ok m ↔ ∃ p, Scan sourceName databaseRow c m p := by
  unfold CatalogRows.build buildGovernanceModel
  dsimp only
  constructor
  · intro h
    split at h
    · cases h
    rename_i hisolation
    obtain ⟨dataSourceId, hsource, h⟩ := bind_eq_ok.mp h
    obtain ⟨databaseId, hdatabase, h⟩ := bind_eq_ok.mp h
    split at h
    · cases h
    rename_i hrepresentable
    obtain ⟨columns, hcolumns, h⟩ := bind_eq_ok.mp h
    obtain ⟨primaryKeys, hprimary, h⟩ := bind_eq_ok.mp h
    obtain ⟨foreignKeys, hforeign, h⟩ := bind_eq_ok.mp h
    obtain ⟨built, hbuilt, h⟩ := bind_eq_ok.mp h
    obtain ⟨schemas, hschemas, h⟩ := bind_eq_ok.mp h
    obtain ⟨owner, howner, h⟩ := bind_eq_ok.mp h
    obtain ⟨database, hdb, h⟩ := bind_eq_ok.mp h
    obtain ⟨source, hds, h⟩ := bind_eq_ok.mp h
    obtain ⟨model, hmodel, h⟩ := bind_eq_ok.mp h
    obtain ⟨⟨⟩, hintegrity, h⟩ := bind_eq_ok.mp h
    obtain rfl := pure_eq_ok.mp h
    exact ⟨⟨dataSourceId, databaseId, columns, primaryKeys, foreignKeys, built, schemas, owner, database, source⟩,
      hisolation, hsource, hdatabase, Bool.eq_false_iff.mpr hrepresentable,
      hcolumns, hprimary, hforeign, hbuilt, hschemas, howner, hdb, hds, hmodel, hintegrity⟩
  · rintro ⟨p, h⟩
    rw [if_neg h.isolation]
    refine bind_eq_ok.mpr ⟨_, h.dataSourceId, bind_eq_ok.mpr ⟨_, h.databaseId, ?_⟩⟩
    rw [if_neg (Bool.eq_false_iff.mp h.representable)]
    refine bind_eq_ok.mpr ⟨_, h.columns, bind_eq_ok.mpr ⟨_, h.primaryKeys, bind_eq_ok.mpr ⟨_, h.foreignKeys, ?_⟩⟩⟩
    refine bind_eq_ok.mpr ⟨_, h.built, bind_eq_ok.mpr ⟨_, h.schemas, bind_eq_ok.mpr ⟨_, h.owner, ?_⟩⟩⟩
    refine bind_eq_ok.mpr ⟨_, h.database, bind_eq_ok.mpr ⟨_, h.source, bind_eq_ok.mpr ⟨_, h.model, ?_⟩⟩⟩
    exact bind_eq_ok.mpr ⟨(), h.integrity, rfl⟩

end Scan

section Model
variable (sourceName : String) (databaseRow : DatabaseRow) (schemaRows : List SchemaRow)
  (tableColumnRows : List TableColumnRow) (primaryKeyRows : List PrimaryKeyRow)
  (foreignKeyRows : List ForeignKeyRow)

/-- The model of a scan, with one table for each table of the rows. -/
structure BuiltModel (m : GovernanceModel) (source : DataSource) (database : Database)
    (built : List (TableKey × Table)) : Prop where
  dataSources : m.dataSources = [source]
  source_name : source.name = sourceName
  databases : source.databases = [database]
  database_id : database.id = "db:" ++ databasePath sourceName databaseRow.databaseName
  database_name : database.name = databaseRow.databaseName
  schemas : (database.schemas.map (fun s => (s.id, s.name))).Perm ((schemasMeta schemaRows).keys.map
    (fun n => ("sch:" ++ schemaPath sourceName databaseRow.databaseName n, n)))
  tables : ∀ s ∈ database.schemas,
    s.tables.Perm ((built.filter (fun t => t.1.1 = s.name)).map Prod.snd)
  keys : (built.map Prod.fst).Perm (tablesMeta tableColumnRows).keys
  built : ∀ t ∈ built, BuiltTable sourceName databaseRow.databaseName (tablesMeta tableColumnRows)
    primaryKeyRows foreignKeyRows t.1 t.2

variable {sourceName databaseRow schemaRows tableColumnRows primaryKeyRows foreignKeyRows}

lemma Scan.built_keys {c : CatalogRows} {m : GovernanceModel} {p : ScanParts} (h : Scan sourceName databaseRow c m p) :
    p.built.map Prod.fst = (sortedTables c).map Prod.fst := by
  obtain ⟨hlength, -⟩ := List.forall₂_iff_zip.mp (mapM_eq_ok.mp h.columns)
  refine (mapM_map (q := fun e => e.1.1) ?_ h.built).trans ?_
  · intro e t ht
    obtain ⟨table, -, ht⟩ := bind_eq_ok.mp ht
    obtain rfl := pure_eq_ok.mp ht
    rfl
  · rw [← List.map_fst_zip hlength.le, List.map_map, List.map_fst_zip hlength.le]
    rfl

theorem Scan.builtModel {c : CatalogRows} {m : GovernanceModel} {p : ScanParts}
    (h : Scan sourceName databaseRow c m p) : BuiltModel sourceName databaseRow c.schemaRows c.tableColumnRows
      c.primaryKeyRows c.foreignKeyRows m p.source p.database p.built := by
  obtain ⟨-, hsourceName, -, hdatabases, -⟩ := DataSource.create_ok h.source
  obtain ⟨hdatabaseId, hdatabaseName, -, hschemas, -⟩ := Database.create_ok h.database
  have hnames := mapM_map (fun e s hs => (buildSchema_ok hs).1) h.schemas
  obtain ⟨-, hzip⟩ := List.forall₂_iff_zip.mp (mapM_eq_ok.mp h.columns)
  refine ⟨(GovernanceModel.create_ok h.model).1, hsourceName, hdatabases,
    hdatabaseId.trans (makeDatabaseId_ok h.databaseId).1, hdatabaseName, ?_, ?_, ?_, ?_⟩
  · rw [hschemas, Dict.keys, List.map_map]
    refine ((sortBy_perm _ _).map _).trans ?_
    rw [hnames]
    exact (sortBy_perm _ _).map _
  · intro s hs
    rw [hschemas, mem_sortBy] at hs
    obtain ⟨e, -, he⟩ := (mapM_mem h.schemas).1 s hs
    exact (buildSchema_ok he).2
  · rw [h.built_keys]
    exact (sortBy_perm _ _).map _
  · intro t ht
    obtain ⟨e, he, hte⟩ := (mapM_mem h.built).1 t ht
    obtain ⟨table, htable, hte⟩ := bind_eq_ok.mp hte
    cases hte
    exact buildTable_ok (mem_sortBy.mp (List.of_mem_zip he).1) (hzip he) h.primaryKeys h.foreignKeys htable

lemma BuiltModel.schema_names {m : GovernanceModel} {source : DataSource} {database : Database}
    {built : List (TableKey × Table)} (h : BuiltModel sourceName databaseRow schemaRows tableColumnRows primaryKeyRows
      foreignKeyRows m source database built) :
    (database.schemas.map Schema.name).Perm (schemasMeta schemaRows).keys := by
  have hnames := h.schemas.map Prod.snd
  rw [List.map_map, List.map_map] at hnames
  simpa [Function.comp_def] using hnames

theorem buildGovernanceModel_ok {m : GovernanceModel}
    (h : buildGovernanceModel sourceName databaseRow schemaRows tableColumnRows primaryKeyRows
      foreignKeyRows = .ok m) :
    ∃ source database built, BuiltModel sourceName databaseRow schemaRows tableColumnRows
      primaryKeyRows foreignKeyRows m source database built := by
  obtain ⟨p, hscan⟩ := build_eq_ok (c := ⟨schemaRows, tableColumnRows, primaryKeyRows, foreignKeyRows⟩).mp h
  exact ⟨p.source, p.database, p.built, hscan.builtModel⟩

end Model
end CollibraGovernance.Scanner
