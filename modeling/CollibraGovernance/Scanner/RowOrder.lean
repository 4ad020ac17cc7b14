import CollibraGovernance.Scanner.Scanned

/-! The scanned model does not depend on the order in which the catalog lists its rows. -/
namespace CollibraGovernance.Scanner
open Library Domain

namespace CatalogRows

/-- The columns of the rows, each with its table. -/
def columnFacts (c : CatalogRows) : List (TableKey × ColumnFields) :=
  c.tableColumnRows.filterMap (fun r => r.column.map (fun f => (r.key, f)))

/-- The same rows in another order. -/
structure Permuted (c c' : CatalogRows) : Prop where
  schemaRows : c.schemaRows.Perm c'.schemaRows
  tableColumnRows : c.tableColumnRows.Perm c'.tableColumnRows
  primaryKeyRows : c.primaryKeyRows.Perm c'.primaryKeyRows
  foreignKeyRows : c.foreignKeyRows.Perm c'.foreignKeyRows

/-- Rows that describe one catalog: what has one key is one thing, and ordinals are distinct. -/
structure Consistent (c : CatalogRows) : Prop where
  schemas : (c.schemaRows.map SchemaRow.schemaName).Nodup
  tables : ∀ r ∈ c.tableColumnRows, ∀ r' ∈ c.tableColumnRows, r.key = r'.key →
    r.tableOwner = r'.tableOwner ∧ r.tableDescription = r'.tableDescription
  listed : ∀ r ∈ c.tableColumnRows, r.schemaName ∈ c.schemaRows.map SchemaRow.schemaName
  columns : (c.columnFacts.map (fun f => (f.1, f.2.columnName))).Nodup
  positions : (c.columnFacts.map (fun f => (f.1, f.2.ordinalPosition))).Nodup
  primaryKeys : ∀ r ∈ c.primaryKeyRows, ∀ r' ∈ c.primaryKeyRows,
    (r.schemaName, r.tableName) = (r'.schemaName, r'.tableName) → r.constraintName = r'.constraintName
  primaryKeyOrdinals : (c.primaryKeyRows.map (fun r => (r.key, r.keyOrdinal))).Nodup
  references : ∀ r ∈ c.foreignKeyRows, ∀ r' ∈ c.foreignKeyRows, r.key = r'.key →
    (r.referencedSchemaName, r.referencedTableName) = (r'.referencedSchemaName, r'.referencedTableName)
  foreignKeyOrdinals : (c.foreignKeyRows.map (fun r => (r.key, r.keyOrdinal))).Nodup

end CatalogRows

/-- The primary key of one constraint, where its table is known. -/
def primaryKeyOf (sourceName databaseName : String) (tables : Dict TableKey (Library.Group TableColumnRow))
    (e : ConstraintKey × Library.Group PrimaryKeyRow) : Except String (Option (TableKey × PrimaryKey)) := do
  let key : TableKey := (e.1.1, e.1.2.1)
  if tables.contains key then
    let tableId ← makeTableId sourceName databaseName key.1 key.2
    let columnIds ← (sortBy PrimaryKeyRow.keyOrdinal e.2.members).mapM
      (fun r => columnId sourceName databaseName tables key r.columnName)
    let id ← makePrimaryKeyId tableId e.1.2.2
    let primaryKey ← PrimaryKey.create id e.1.2.2 tableId columnIds
    return some (key, primaryKey)
  else return none

section Tables
variable {c c' : CatalogRows}

/-- What a table is built from. -/
def tableView (g : Library.Group TableColumnRow) : List ColumnFields × Option String × Option String :=
  (columnRows g, g.base.tableOwner, g.base.tableDescription)

/-- Table rows that lead to the same tables. -/
def SameTables (tables tables' : Dict TableKey (Library.Group TableColumnRow)) : Prop :=
  (tables.mapValues tableView).Same (tables'.mapValues tableView)

/-- The columns of one group of rows, as facts of its table. -/
lemma mem_columnFacts {k : TableKey} {g : Library.Group TableColumnRow} {f : ColumnFields}
    (hg : g.members = (c.tableColumnRows.filter (fun r => isUserSchema r.schemaName)).filter (fun r => r.key = k))
    (hf : f ∈ g.members.filterMap TableColumnRow.column) : (k, f) ∈ c.columnFacts := by
  obtain ⟨r, hr, hcolumn⟩ := List.mem_filterMap.mp hf
  rw [hg] at hr
  obtain ⟨hr, hk⟩ := List.mem_filter.mp hr
  refine List.mem_filterMap.mpr ⟨r, (List.mem_filter.mp hr).1, ?_⟩
  rw [hcolumn, ← of_decide_eq_true hk]
  rfl

lemma position_inj (hc : c.Consistent) {k : TableKey} {f f' : ColumnFields} (hf : (k, f) ∈ c.columnFacts)
    (hf' : (k, f') ∈ c.columnFacts) (h : f.ordinalPosition = f'.ordinalPosition) : f = f' := by
  have hfact := List.inj_on_of_nodup_map hc.positions hf hf' (by rw [h])
  exact congrArg Prod.snd hfact

theorem sameTables_of_permuted (hc : c.Consistent) (h : c.tableColumnRows.Perm c'.tableColumnRows) :
    SameTables (tablesMeta c.tableColumnRows) (tablesMeta c'.tableColumnRows) := by
  refine groupBy_same_of_perm (h.filter _) ?_
  intro k g g' hg hg'
  have hmembers : g.members.Perm g'.members := by
    rw [hg, hg']
    exact (h.filter _).filter _
  have hrow : ∀ r ∈ g.members, r ∈ c.tableColumnRows ∧ r.key = k := by
    intro r hr
    rw [hg] at hr
    obtain ⟨hr, hk⟩ := List.mem_filter.mp hr
    exact ⟨(List.mem_filter.mp hr).1, of_decide_eq_true hk⟩
  obtain ⟨hbase, hkey⟩ := hrow _ g.base_mem
  obtain ⟨hbase', hkey'⟩ := hrow _ (hmembers.mem_iff.mpr g'.base_mem)
  obtain ⟨howner, hdescription⟩ := hc.tables _ hbase _ hbase' (hkey.trans hkey'.symm)
  have hcolumns : columnRows g = columnRows g' := by
    refine sortBy_congr_perm (hmembers.filterMap _) ?_
    intro f hf f' hf' hposition
    exact position_inj hc (mem_columnFacts hg hf) (mem_columnFacts hg hf') hposition
  rw [tableView, tableView, hcolumns, howner, hdescription]

section Same
variable {tables tables' : Dict TableKey (Library.Group TableColumnRow)} (h : SameTables tables tables')
include h

lemma SameTables.get? (key : TableKey) : (tables.get? key).map tableView = (tables'.get? key).map tableView := by
  rw [← Dict.get?_mapValues, ← Dict.get?_mapValues]
  exact h key

lemma SameTables.contains (key : TableKey) : tables.contains key = tables'.contains key := by
  have hkey := congrArg Option.isSome (h.get? key)
  rwa [Option.isSome_map, Option.isSome_map] at hkey

lemma SameTables.hasColumn (key : TableKey) (columnName : String) :
    Scanner.hasColumn tables key columnName = Scanner.hasColumn tables' key columnName := by
  have hkey := h.get? key
  rw [Scanner.hasColumn, Scanner.hasColumn]
  cases hl : tables.get? key with
  | none =>
    cases hr : tables'.get? key with
    | none => rfl
    | some g' =>
      rw [hl, hr] at hkey
      cases hkey
  | some g =>
    cases hr : tables'.get? key with
    | none =>
      rw [hl, hr] at hkey
      cases hkey
    | some g' =>
      rw [hl, hr] at hkey
      have hcolumns : columnRows g = columnRows g' := congrArg Prod.fst (Option.some.inj hkey)
      simp only [hcolumns]

lemma SameTables.columnId (sourceName databaseName : String) : Scanner.columnId sourceName databaseName tables =
    Scanner.columnId sourceName databaseName tables' := by
  funext key columnName
  simp only [Scanner.columnId, h.hasColumn]

lemma SameTables.primaryKeyOf (sourceName databaseName : String) :
    Scanner.primaryKeyOf sourceName databaseName tables = Scanner.primaryKeyOf sourceName databaseName tables' := by
  funext e
  simp only [Scanner.primaryKeyOf, h.contains, h.columnId]

lemma SameTables.keptForeignKey : Scanner.keptForeignKey tables = Scanner.keptForeignKey tables' := by
  funext e
  simp only [Scanner.keptForeignKey, h.contains, h.hasColumn]

lemma SameTables.buildForeignKey (sourceName databaseName : String) :
    Scanner.buildForeignKey sourceName databaseName tables = Scanner.buildForeignKey sourceName databaseName tables' := by
  funext e
  simp only [Scanner.buildForeignKey, h.columnId]

lemma SameTables.entries_perm : (tables.entries.map (fun e => (e.1, tableView e.2))).Perm
    (tables'.entries.map (fun e => (e.1, tableView e.2))) := Dict.Same.perm h

/-- Sorted by key, the tables agree one by one. -/
lemma SameTables.sorted : List.Forall₂
    (fun e e' : TableKey × Library.Group TableColumnRow => e.1 = e'.1 ∧ tableView e.2 = tableView e'.2)
    (sortBy (fun e => toLex e.1) tables.entries) (sortBy (fun e => toLex e.1) tables'.entries) := by
  have hlists : (sortBy (fun e => toLex e.1) tables.entries).map (fun e => (e.1, tableView e.2)) =
      (sortBy (fun e => toLex e.1) tables'.entries).map (fun e => (e.1, tableView e.2)) := by
    have hsort : ∀ xs : List (TableKey × Library.Group TableColumnRow),
        (sortBy (fun e => toLex e.1) xs).map (fun e => (e.1, tableView e.2)) =
          sortBy (fun v => toLex v.1) (xs.map (fun e => (e.1, tableView e.2))) :=
      map_sortBy _ _ _ (fun _ => rfl)
    rw [hsort, hsort]
    refine sortBy_congr_perm h.entries_perm ?_
    intro v hv v' hv' hkey
    have hnodup : ((tables.mapValues tableView).entries.map Prod.fst).Nodup := Dict.keys_nodup _
    exact List.inj_on_of_nodup_map hnodup hv hv' (toLex.injective hkey)
  rw [← List.forall₂_eq_eq_eq, List.forall₂_map_left_iff, List.forall₂_map_right_iff] at hlists
  refine hlists.imp ?_
  intro e e' heq
  exact Prod.mk.inj heq

end Same
end Tables

section Constraints
variable {α : Type}

/-- A group with its members in the order of their ordinals. -/
def orderedGroup (ordinal : α → Int) (g : Library.Group α) : Library.Group α :=
  match sortBy ordinal g.members with
  | [] => g
  | first :: rest => ⟨first, rest⟩

lemma members_orderedGroup (ordinal : α → Int) (g : Library.Group α) :
    (orderedGroup ordinal g).members = sortBy ordinal g.members := by
  unfold orderedGroup
  cases hsorted : sortBy ordinal g.members with
  | nil =>
    have hmem : g.base ∈ sortBy ordinal g.members := mem_sortBy.mpr g.base_mem
    rw [hsorted] at hmem
    cases hmem
  | cons first rest => rfl

lemma orderedGroup_congr {ordinal : α → Int} {g g' : Library.Group α}
    (h : sortBy ordinal g.members = sortBy ordinal g'.members) : orderedGroup ordinal g = orderedGroup ordinal g' := by
  unfold orderedGroup
  rw [h]
  cases hsorted : sortBy ordinal g'.members with
  | nil =>
    have hmem : g'.base ∈ sortBy ordinal g'.members := mem_sortBy.mpr g'.base_mem
    rw [hsorted] at hmem
    cases hmem
  | cons first rest => rfl

/-- Constraint rows in another order make the same groups, once these are ordered. -/
lemma constraintGroups_perm (key : α → ConstraintKey) (ordinal : α → Int) {xs ys : List α} (h : xs.Perm ys)
    (hnodup : (xs.map (fun r => (key r, ordinal r))).Nodup) :
    ((groupBy key xs).entries.map (fun e => (e.1, orderedGroup ordinal e.2))).Perm
      ((groupBy key ys).entries.map (fun e => (e.1, orderedGroup ordinal e.2))) := by
  suffices hsame : ((groupBy key xs).mapValues (orderedGroup ordinal)).Same
      ((groupBy key ys).mapValues (orderedGroup ordinal)) from hsame.perm
  refine groupBy_same_of_perm h ?_
  intro k g g' hg hg'
  apply orderedGroup_congr
  have hmembers : g.members.Perm g'.members := by
    rw [hg, hg']
    exact h.filter _
  refine sortBy_congr_perm hmembers ?_
  intro r hr r' hr' hordinal
  rw [hg] at hr hr'
  obtain ⟨hr, hk⟩ := List.mem_filter.mp hr
  obtain ⟨hr', hk'⟩ := List.mem_filter.mp hr'
  refine List.inj_on_of_nodup_map hnodup hr hr' ?_
  rw [of_decide_eq_true hk, of_decide_eq_true hk', hordinal]

variable {sourceName databaseName : String} {tables : Dict TableKey (Library.Group TableColumnRow)}

lemma head?_sorted (g : Library.Group ForeignKeyRow) : ∃ first, ∀ base,
    (sortBy ForeignKeyRow.keyOrdinal g.members).head?.getD base = first := by
  cases hsorted : sortBy ForeignKeyRow.keyOrdinal g.members with
  | nil =>
    have hmem : g.base ∈ sortBy ForeignKeyRow.keyOrdinal g.members := mem_sortBy.mpr g.base_mem
    rw [hsorted] at hmem
    cases hmem
  | cons first rest => exact ⟨first, fun _ => rfl⟩

lemma keptForeignKey_ordered (e : ConstraintKey × Library.Group ForeignKeyRow) :
    keptForeignKey tables (e.1, orderedGroup ForeignKeyRow.keyOrdinal e.2) = keptForeignKey tables e := by
  obtain ⟨first, hfirst⟩ := head?_sorted e.2
  simp only [keptForeignKey, members_orderedGroup, sortBy_idem, hfirst]

lemma buildForeignKey_ordered (e : ConstraintKey × Library.Group ForeignKeyRow) :
    buildForeignKey sourceName databaseName tables (e.1, orderedGroup ForeignKeyRow.keyOrdinal e.2) =
      buildForeignKey sourceName databaseName tables e := by
  obtain ⟨first, hfirst⟩ := head?_sorted e.2
  simp only [buildForeignKey, members_orderedGroup, sortBy_idem, hfirst]

lemma primaryKeyOf_ordered (e : ConstraintKey × Library.Group PrimaryKeyRow) :
    primaryKeyOf sourceName databaseName tables (e.1, orderedGroup PrimaryKeyRow.keyOrdinal e.2) =
      primaryKeyOf sourceName databaseName tables e := by
  simp only [primaryKeyOf, members_orderedGroup, sortBy_idem]

lemma primaryKeyOf_key {e : ConstraintKey × Library.Group PrimaryKeyRow} {p : TableKey × PrimaryKey}
    (h : primaryKeyOf sourceName databaseName tables e = .ok (some p)) : p.1 = (e.1.1, e.1.2.1) := by
  unfold primaryKeyOf at h
  dsimp only at h
  split at h
  · obtain ⟨tableId, -, h⟩ := bind_eq_ok.mp h
    obtain ⟨columnIds, -, h⟩ := bind_eq_ok.mp h
    obtain ⟨id, -, h⟩ := bind_eq_ok.mp h
    obtain ⟨primaryKey, -, h⟩ := bind_eq_ok.mp h
    cases h
    rfl
  · cases h

/-- Adding a primary key is making it and then setting it. -/
lemma addPrimaryKey_eq_ok {d d' : Dict TableKey PrimaryKey} {e : ConstraintKey × Library.Group PrimaryKeyRow} :
    addPrimaryKey sourceName databaseName tables d e = .ok d' ↔
      ∃ o, primaryKeyOf sourceName databaseName tables e = .ok o ∧
        d' = o.elim d (fun p => d.set p.1 p.2) := by
  unfold addPrimaryKey primaryKeyOf
  dsimp only
  split
  · simp only [bind_eq_ok, pure_eq_ok]
    constructor
    · rintro ⟨tableId, ht, columnIds, hc, id, hid, k, hk, rfl⟩
      exact ⟨_, ⟨tableId, ht, columnIds, hc, id, hid, k, hk, rfl⟩, rfl⟩
    · rintro ⟨o, ⟨tableId, ht, columnIds, hc, id, hid, k, hk, rfl⟩, rfl⟩
      exact ⟨tableId, ht, columnIds, hc, id, hid, k, hk, rfl⟩
  · simp only [pure_eq_ok]
    constructor
    · rintro rfl
      exact ⟨none, rfl, rfl⟩
    · rintro ⟨o, rfl, rfl⟩
      rfl

/-- The primary keys that are kept are those that the constraints make, each set in its turn. -/
lemma foldlM_addPrimaryKey {groups : List (ConstraintKey × Library.Group PrimaryKeyRow)}
    {d d' : Dict TableKey PrimaryKey} :
    groups.foldlM (addPrimaryKey sourceName databaseName tables) d = .ok d' ↔
      ∃ os, groups.mapM (primaryKeyOf sourceName databaseName tables) = .ok os ∧
        d' = (os.filterMap id).foldl (fun d p => d.set p.1 p.2) d := by
  induction groups generalizing d with
  | nil =>
    rw [List.foldlM_nil, List.mapM_nil, pure_eq_ok]
    constructor
    · rintro rfl
      exact ⟨[], rfl, rfl⟩
    · rintro ⟨os, hos, rfl⟩
      cases pure_eq_ok.mp hos
      rfl
  | cons e rest ih =>
    rw [List.foldlM_cons, List.mapM_cons]
    simp only [bind_eq_ok, pure_eq_ok, ih, addPrimaryKey_eq_ok]
    constructor
    · rintro ⟨d₁, ⟨o, ho, rfl⟩, os, hos, rfl⟩
      refine ⟨o :: os, ⟨o, ho, os, hos, rfl⟩, ?_⟩
      cases o <;> rfl
    · rintro ⟨os', ⟨o, ho, os, hos, rfl⟩, rfl⟩
      refine ⟨_, ⟨o, ho, rfl⟩, os, hos, ?_⟩
      cases o <;> rfl

end Constraints

section Scan

variable {sourceName : String} {databaseRow : DatabaseRow} {c c' : CatalogRows} {m : GovernanceModel}

/-- The ids of the foreign keys that are kept. -/
def foreignKeyIds (sourceName databaseName : String) (c : CatalogRows) : List String :=
  (foreignKeyNames (tablesMeta c.tableColumnRows) c.foreignKeyRows).map
    (fun k => "fk:" ++ joined ("tbl:" ++ tablePath sourceName databaseName k.1 k.2.1) k.2.2)

lemma Scan.foreignKeyIds_eq {p : ScanParts} (h : Scan sourceName databaseRow c m p) :
    p.foreignKeys.map (fun k => k.2.1.id) = foreignKeyIds sourceName databaseRow.databaseName c := by
  have hids := mapM_map (p := fun k : TableKey × ForeignKey × Relationship => k.2.1.id) (fun e k hk =>
    (buildForeignKey_ok hk).2) h.foreignKeys
  rw [hids, foreignKeyIds, foreignKeyNames, List.map_map]
  rfl

lemma buildForeignKey_relationship {tables : Dict TableKey (Library.Group TableColumnRow)}
    {e : ConstraintKey × Library.Group ForeignKeyRow} {k : TableKey × ForeignKey × Relationship}
    {databaseName : String} (h : buildForeignKey sourceName databaseName tables e = .ok k) :
    k.2.2.id = "rel:" ++ k.2.1.id := by
  unfold buildForeignKey at h
  dsimp only at h
  obtain ⟨tableId, -, h⟩ := bind_eq_ok.mp h
  obtain ⟨referencedTableId, -, h⟩ := bind_eq_ok.mp h
  obtain ⟨sourceIds, -, h⟩ := bind_eq_ok.mp h
  obtain ⟨referencedIds, -, h⟩ := bind_eq_ok.mp h
  obtain ⟨id, -, h⟩ := bind_eq_ok.mp h
  obtain ⟨foreignKey, -, h⟩ := bind_eq_ok.mp h
  obtain ⟨relationshipId, hid, h⟩ := bind_eq_ok.mp h
  obtain ⟨relationship, hr, h⟩ := bind_eq_ok.mp h
  obtain rfl := pure_eq_ok.mp h
  obtain ⟨n, hn, hid⟩ := bind_eq_ok.mp hid
  obtain rfl := pure_eq_ok.mp hid
  rw [(Relationship.create_ok hr).1, requireNonEmpty_eq_ok hn]

/-- No two constraints make a primary key of one table. -/
lemma primaryKeys_inj {tables : Dict TableKey (Library.Group TableColumnRow)} {databaseName : String}
    {os : List (Option (TableKey × PrimaryKey))} (hc : c.Consistent)
    (hos : (primaryKeyGroups c.primaryKeyRows).entries.mapM (primaryKeyOf sourceName databaseName tables) = .ok os) :
    ∀ a ∈ os.filterMap id, ∀ b ∈ os.filterMap id, a.1 = b.1 → a = b := by
  intro a ha b hb hab
  have hmaker : ∀ a ∈ os.filterMap id, ∃ e ∈ (primaryKeyGroups c.primaryKeyRows).entries,
      primaryKeyOf sourceName databaseName tables e = .ok (some a) := by
    intro a ha
    obtain ⟨o, ho, rfl⟩ := List.mem_filterMap.mp ha
    exact (mapM_mem hos).1 _ ho
  obtain ⟨e, he, hea⟩ := hmaker a ha
  obtain ⟨e', he', heb⟩ := hmaker b hb
  have hrow : ∀ e ∈ (primaryKeyGroups c.primaryKeyRows).entries, e.2.base ∈ c.primaryKeyRows ∧ e.2.base.key = e.1 := by
    intro e he
    have hbase := e.2.base_mem
    rw [mem_entries_groupBy he] at hbase
    obtain ⟨hbase, hkey⟩ := List.mem_filter.mp hbase
    exact ⟨(List.mem_filter.mp hbase).1, of_decide_eq_true hkey⟩
  obtain ⟨hbase, hkey⟩ := hrow e he
  obtain ⟨hbase', hkey'⟩ := hrow e' he'
  have htable : (e.1.1, e.1.2.1) = (e'.1.1, e'.1.2.1) := by
    rw [← primaryKeyOf_key hea, ← primaryKeyOf_key heb]
    exact hab
  have hname := hc.primaryKeys _ hbase _ hbase' (by
    rw [← hkey, ← hkey'] at htable
    exact htable)
  have hconstraint : e.1 = e'.1 := by
    rw [← hkey, ← hkey'] at htable ⊢
    exact Prod.ext (Prod.mk.inj htable).1 (Prod.ext (Prod.mk.inj htable).2 hname)
  have heq : e = e' := List.inj_on_of_nodup_map (Dict.keys_nodup _) he he' hconstraint
  subst heq
  rw [hea] at heb
  cases heb
  rfl

section Transport
variable {p : ScanParts}

lemma Scan.primaryKeys_of_permuted (h : Scan sourceName databaseRow c m p) (hc : c.Consistent)
    (hperm : c.Permuted c') : ∃ primaryKeys', (primaryKeyGroups c'.primaryKeyRows).entries.foldlM
      (addPrimaryKey sourceName databaseRow.databaseName (tablesMeta c'.tableColumnRows)) Dict.empty =
        .ok primaryKeys' ∧ p.primaryKeys.Same primaryKeys' := by
  have hsame := sameTables_of_permuted hc hperm.tableColumnRows
  obtain ⟨os, hos, hkept⟩ := foldlM_addPrimaryKey.mp h.primaryKeys
  have hgroups := constraintGroups_perm PrimaryKeyRow.key PrimaryKeyRow.keyOrdinal
    (hperm.primaryKeyRows.filter (fun r => isUserSchema r.schemaName))
    (hc.primaryKeyOrdinals.sublist (List.filter_sublist.map _))
  have hordered : ∀ (tables : Dict TableKey (Library.Group TableColumnRow)) (rows : List PrimaryKeyRow),
      ((primaryKeyGroups rows).entries.map (fun e => (e.1, orderedGroup PrimaryKeyRow.keyOrdinal e.2))).mapM
        (primaryKeyOf sourceName databaseRow.databaseName tables) =
      (primaryKeyGroups rows).entries.mapM (primaryKeyOf sourceName databaseRow.databaseName tables) := by
    intro tables rows
    rw [List.mapM_map]
    exact congrArg (List.mapM · _) (funext primaryKeyOf_ordered)
  obtain ⟨os', hos', hosPerm⟩ := mapM_perm hgroups ((hordered _ _).trans hos)
  have hmade := (hordered _ _).symm.trans hos'
  rw [hsame.primaryKeyOf] at hmade
  refine ⟨_, foldlM_addPrimaryKey.mpr ⟨os', hmade, rfl⟩, ?_⟩
  rw [hkept]
  exact Dict.same_index_of_perm (hosPerm.filterMap id) (primaryKeys_inj hc hos)

lemma Scan.foreignKeys_of_permuted (h : Scan sourceName databaseRow c m p) (hc : c.Consistent)
    (hperm : c.Permuted c') : ∃ foreignKeys', ((foreignKeyGroups c'.foreignKeyRows).entries.filter
      (keptForeignKey (tablesMeta c'.tableColumnRows))).mapM
        (buildForeignKey sourceName databaseRow.databaseName (tablesMeta c'.tableColumnRows)) = .ok foreignKeys' ∧
      p.foreignKeys.Perm foreignKeys' := by
  have hsame := sameTables_of_permuted hc hperm.tableColumnRows
  have hgroups := constraintGroups_perm ForeignKeyRow.key ForeignKeyRow.keyOrdinal
    (hperm.foreignKeyRows.filter (fun r => isUserSchema r.schemaName && isUserSchema r.referencedSchemaName))
    (hc.foreignKeyOrdinals.sublist (List.filter_sublist.map _))
  have hordered : ∀ (tables : Dict TableKey (Library.Group TableColumnRow)) (rows : List ForeignKeyRow),
      (((foreignKeyGroups rows).entries.map (fun e => (e.1, orderedGroup ForeignKeyRow.keyOrdinal e.2))).filter
        (keptForeignKey tables)).mapM (buildForeignKey sourceName databaseRow.databaseName tables) =
      ((foreignKeyGroups rows).entries.filter (keptForeignKey tables)).mapM
        (buildForeignKey sourceName databaseRow.databaseName tables) := by
    intro tables rows
    rw [List.filter_map, List.mapM_map]
    have hkept : keptForeignKey tables ∘ (fun e => (e.1, orderedGroup ForeignKeyRow.keyOrdinal e.2)) =
        keptForeignKey tables := funext keptForeignKey_ordered
    rw [hkept]
    exact congrArg (List.mapM · _) (funext buildForeignKey_ordered)
  obtain ⟨foreignKeys', hmade, hforeign⟩ := mapM_perm (hgroups.filter _) ((hordered _ _).trans h.foreignKeys)
  refine ⟨foreignKeys', ?_, hforeign⟩
  rw [← hsame.keptForeignKey, ← hsame.buildForeignKey]
  exact (hordered _ _).symm.trans hmade

lemma Table.create_foreignKeys {id name schemaId : String} {columns : List Column} {primaryKey : Option PrimaryKey}
    {foreignKeys foreignKeys' : List ForeignKey} {description : Json} {owner : Option Ownership}
    (h : sortBy ForeignKey.id foreignKeys = sortBy ForeignKey.id foreignKeys') :
    Table.create id name schemaId columns primaryKey foreignKeys description owner [] =
      Table.create id name schemaId columns primaryKey foreignKeys' description owner [] := by
  simp only [Table.create, h]

lemma GovernanceModel.create_relationships {dataSources : List DataSource} {relationships relationships' : List Relationship}
    (h : sortBy Relationship.id relationships = sortBy Relationship.id relationships') :
    GovernanceModel.create dataSources relationships = GovernanceModel.create dataSources relationships' := by
  simp only [GovernanceModel.create, h]

lemma forall₂_zip {α β γ : Type} {R : α → β → Prop} {xs : List α} {ys : List β} (zs : List γ)
    (h : List.Forall₂ R xs ys) : List.Forall₂ (fun a b => R a.1 b.1 ∧ a.2 = b.2) (xs.zip zs) (ys.zip zs) := by
  induction h generalizing zs with
  | nil => exact .nil
  | cons hxy _ ih =>
    cases zs with
    | nil => exact .nil
    | cons z zs => exact .cons ⟨hxy, rfl⟩ (ih zs)

lemma buildTable_congr (sourceName databaseName : String) {columns columns' : List Column}
    {primaryKeys primaryKeys' : Dict TableKey PrimaryKey}
    {foreignKeys foreignKeys' : List (TableKey × ForeignKey × Relationship)}
    {e e' : TableKey × Library.Group TableColumnRow} (hkey : e.1 = e'.1)
    (hbase : e.2.base.tableOwner = e'.2.base.tableOwner ∧ e.2.base.tableDescription = e'.2.base.tableDescription)
    (hcolumns : columns = columns') (hprimary : primaryKeys.Same primaryKeys')
    (hforeign : foreignKeys.Perm foreignKeys') (hnodup : (foreignKeys.map (fun k => k.2.1.id)).Nodup) :
    buildTable sourceName databaseName columns primaryKeys foreignKeys e =
      buildTable sourceName databaseName columns' primaryKeys' foreignKeys' e' := by
  have hsorted : sortBy ForeignKey.id ((foreignKeys.filter (fun k => k.1 = e'.1)).map (fun k => k.2.1)) =
      sortBy ForeignKey.id ((foreignKeys'.filter (fun k => k.1 = e'.1)).map (fun k => k.2.1)) := by
    refine sortBy_congr_perm ((hforeign.filter _).map _) ?_
    intro f hf f' hf' hid
    obtain ⟨k, hk, rfl⟩ := List.mem_map.mp hf
    obtain ⟨k', hk', rfl⟩ := List.mem_map.mp hf'
    rw [List.inj_on_of_nodup_map hnodup (List.mem_filter.mp hk).1 (List.mem_filter.mp hk').1 hid]
  simp only [buildTable, hkey, hbase, hcolumns, hprimary e'.1, Table.create_foreignKeys hsorted]

/-- The model of accepted rows is the model of the same rows in any other order. -/
theorem build_of_permuted (hc : c.Consistent) (hids : (foreignKeyIds sourceName databaseRow.databaseName c).Nodup)
    (hperm : c.Permuted c') (hbuild : c.build sourceName databaseRow = .ok m) :
    c'.build sourceName databaseRow = .ok m := by
  obtain ⟨p, h⟩ := build_eq_ok.mp hbuild
  have hsame := sameTables_of_permuted hc hperm.tableColumnRows
  obtain ⟨primaryKeys', hprimary, hkept⟩ := h.primaryKeys_of_permuted hc hperm
  obtain ⟨foreignKeys', hforeign, hfperm⟩ := h.foreignKeys_of_permuted hc hperm
  have hnodup : (p.foreignKeys.map (fun k => k.2.1.id)).Nodup := h.foreignKeyIds_eq ▸ hids
  have hsorted : List.Forall₂ (fun e e' : TableKey × Library.Group TableColumnRow => e.1 = e'.1 ∧
      tableView e.2 = tableView e'.2) (sortedTables c) (sortedTables c') := hsame.sorted
  refine build_eq_ok.mpr ⟨⟨p.dataSourceId, p.databaseId, p.columns, primaryKeys', foreignKeys', p.built, p.schemas,
    p.owner, p.database, p.source⟩, h.isolation, h.dataSourceId, h.databaseId, ?_, ?_, hprimary, hforeign, ?_, ?_,
    h.owner, h.database, h.source, ?_, h.integrity⟩
  · have hany : ∀ c : CatalogRows, (tablesMeta c.tableColumnRows).entries.any (fun e => (columnRows e.2).isEmpty) =
        ((tablesMeta c.tableColumnRows).entries.map (fun e => (e.1, tableView e.2))).any (fun v => v.2.1.isEmpty) := by
      intro c
      rw [List.any_map]
      rfl
    have hrepresentable := h.representable
    rw [hany] at hrepresentable ⊢
    rw [← hsame.entries_perm.any_eq]
    exact hrepresentable
  · rw [← h.columns]
    refine (mapM_congr_forall₂ (hsorted.imp ?_)).symm
    rintro e e' ⟨hkey, hview⟩
    have hcolumns : columnRows e.2 = columnRows e'.2 := congrArg Prod.fst hview
    rw [hkey, hcolumns]
  · rw [← h.built]
    refine (mapM_congr_forall₂ ((forall₂_zip p.columns hsorted).imp ?_)).symm
    rintro ⟨e, columns⟩ ⟨e', columns'⟩ ⟨⟨hkey, hview⟩, hcolumns⟩
    have htable := buildTable_congr sourceName databaseRow.databaseName hkey
      (Prod.mk.inj (Prod.mk.inj hview).2) hcolumns hkept hfperm hnodup
    dsimp only
    rw [htable, hkey]
  · rw [← h.schemas]
    have hentries : (schemasMeta c.schemaRows).entries.Perm (schemasMeta c'.schemaRows).entries := by
      refine (Dict.same_index_of_perm (hperm.schemaRows.filter _) ?_).perm
      intro r hr r' hr' hname
      exact List.inj_on_of_nodup_map hc.schemas (List.mem_filter.mp hr).1 (List.mem_filter.mp hr').1 hname
    have hsorted := sortBy_congr_perm hentries (fun _ he _ he' h =>
      List.inj_on_of_nodup_map (Dict.keys_nodup (schemasMeta c.schemaRows)) he he' h)
    rw [hsorted]
  · rw [← h.model]
    refine GovernanceModel.create_relationships (sortBy_congr_perm (hfperm.map _) ?_).symm
    intro r hr r' hr' hid
    obtain ⟨k, hk, rfl⟩ := List.mem_map.mp hr
    obtain ⟨k', hk', rfl⟩ := List.mem_map.mp hr'
    obtain ⟨e, -, he⟩ := (mapM_mem h.foreignKeys).1 k hk
    obtain ⟨e', -, he'⟩ := (mapM_mem h.foreignKeys).1 k' hk'
    rw [buildForeignKey_relationship he, buildForeignKey_relationship he', String.append_right_inj] at hid
    rw [List.inj_on_of_nodup_map hnodup hk hk' hid]

end Transport
end Scan
end CollibraGovernance.Scanner
