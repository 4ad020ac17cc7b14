import CollibraGovernance.Reconciliation.PhysicalIndex
import CollibraGovernance.Scanner.UniqueIds

/-! The index of a scanned model: identities drop the white space around names, local ids keep it. -/
namespace CollibraGovernance.Reconciliation
open Library Domain Scanner

/-- The ids of schemas, tables and columns. -/
def elementIds (m : GovernanceModel) : List String :=
  m.schemas.map Schema.id ++ m.tables.map Table.id ++
    m.tables.flatMap (fun t => t.columns.map Column.id)

/-- Elements are told apart by their identities, and an identity projects back to its local id. -/
structure Bijective (m : GovernanceModel) (index : PhysicalReconciliationIndex) : Prop where
  indexed : ∀ id ∈ elementIds m, (index.get id).isSome = true
  distinct : ∀ id ∈ elementIds m, ∀ id' ∈ elementIds m, index.get id = index.get id' → id = id'
  exact : ∀ id identity, index.get id = some identity →
    projectPhysicalLocalId identity = .ok (some id)

/-- No name has white space around it. -/
structure NamesStripped (m : GovernanceModel) : Prop where
  dataSources : ∀ s ∈ m.dataSources, strip s.name = s.name
  databases : ∀ d ∈ m.databases, strip d.name = d.name
  schemas : ∀ s ∈ m.schemas, strip s.name = s.name
  tables : ∀ t ∈ m.tables, strip t.name = t.name
  columns : ∀ t ∈ m.tables, ∀ c ∈ t.columns, strip c.name = c.name

/-- Local ids that are the names down to the object, joined. -/
structure JoinedIds (sourceName databaseName : String) (m : GovernanceModel) (database : Database) :
    Prop where
  databases : m.databases = [database]
  name : database.name = databaseName
  database_id : database.id = "db:" ++ databasePath sourceName databaseName
  schema_id : ∀ s ∈ database.schemas, s.id = "sch:" ++ schemaPath sourceName databaseName s.name
  table_id : ∀ s ∈ database.schemas, ∀ t ∈ s.tables,
    t.id = "tbl:" ++ tablePath sourceName databaseName s.name t.name
  column_id : ∀ s ∈ database.schemas, ∀ t ∈ s.tables, ∀ c ∈ t.columns,
    c.id = "col:" ++ columnPath sourceName databaseName s.name t.name c.name

namespace JoinedIds
variable {sourceName databaseName : String} {m : GovernanceModel} {database : Database}

/-- Identities project back to local ids exactly when no name has white space around it. -/
theorem exact_iff (h : JoinedIds sourceName databaseName m database)
    (hsource : isBlank sourceName = false) :
    (∀ e ∈ physicalNodes (.of sourceName hsource) m, projectPhysicalLocalId e.2 = .ok (some e.1)) ↔
      strip sourceName = sourceName ∧ strip databaseName = databaseName ∧
        ∀ s ∈ database.schemas, strip s.name = s.name ∧ ∀ t ∈ s.tables, strip t.name = t.name ∧
          ∀ c ∈ t.columns, strip c.name = c.name := by
  have hdatabase : database ∈ m.databases := by
    rw [h.databases]
    exact List.mem_singleton_self _
  constructor
  · intro hexact
    have hpath := hexact _ ((mem_physicalNodes _).mpr ⟨database, hdatabase, Or.inl rfl⟩)
    rw [projectPhysicalLocalId_databaseChain, h.database_id] at hpath
    have hpath := (String.append_right_inj _).mp (Option.some.inj (Except.ok.inj hpath))
    simp only [Stripped.of, h.name] at hpath
    obtain ⟨hsrc, hdb⟩ := joined_strip_eq_iff.mp hpath
    refine ⟨hsrc, hdb, fun s hs => ?_⟩
    have hschema := hexact _ ((mem_physicalNodes _).mpr
      ⟨database, hdatabase, Or.inr ⟨s, hs, Or.inl rfl⟩⟩)
    rw [projectPhysicalLocalId_schemaChain, h.schema_id s hs] at hschema
    have hschema := (String.append_right_inj _).mp (Option.some.inj (Except.ok.inj hschema))
    simp only [Stripped.of, h.name, hsrc, hdb] at hschema
    have hs' := joined_inj.mp hschema
    refine ⟨hs', fun t ht => ?_⟩
    have htable := hexact _ ((mem_physicalNodes _).mpr
      ⟨database, hdatabase, Or.inr ⟨s, hs, Or.inr ⟨t, ht, Or.inl rfl⟩⟩⟩)
    rw [projectPhysicalLocalId_tableChain, h.table_id s hs t ht] at htable
    have htable := (String.append_right_inj _).mp (Option.some.inj (Except.ok.inj htable))
    simp only [Stripped.of, h.name, hsrc, hdb, hs'] at htable
    have ht' := joined_inj.mp htable
    refine ⟨ht', fun c hc => ?_⟩
    have hcolumn := hexact _ ((mem_physicalNodes _).mpr
      ⟨database, hdatabase, Or.inr ⟨s, hs, Or.inr ⟨t, ht, Or.inr ⟨c, hc, rfl⟩⟩⟩⟩)
    rw [projectPhysicalLocalId_columnChain, h.column_id s hs t ht c hc] at hcolumn
    have hcolumn := (String.append_right_inj _).mp (Option.some.inj (Except.ok.inj hcolumn))
    simp only [Stripped.of, h.name, hsrc, hdb, hs', ht'] at hcolumn
    exact joined_inj.mp hcolumn
  · rintro ⟨hsrc, hdb, hnames⟩ e he
    rw [mem_physicalNodes, h.databases] at he
    simp only [List.mem_singleton, exists_eq_left] at he
    rcases he with rfl | ⟨s, hs, rfl | ⟨t, ht, rfl | ⟨c, hc, rfl⟩⟩⟩
    · simp only [projectPhysicalLocalId_databaseChain, Stripped.of, h.name, hsrc, hdb, h.database_id]
    · obtain ⟨hs', -⟩ := hnames s hs
      simp only [projectPhysicalLocalId_schemaChain, Stripped.of, h.name, hsrc, hdb, hs',
        h.schema_id s hs]
    · obtain ⟨hs', htables⟩ := hnames s hs
      obtain ⟨ht', -⟩ := htables t ht
      simp only [projectPhysicalLocalId_tableChain, Stripped.of, h.name, hsrc, hdb, hs', ht',
        h.table_id s hs t ht]
    · obtain ⟨hs', htables⟩ := hnames s hs
      obtain ⟨ht', hcolumns⟩ := htables t ht
      simp only [projectPhysicalLocalId_columnChain, Stripped.of, h.name, hsrc, hdb, hs', ht',
        hcolumns c hc, h.column_id s hs t ht c hc]

end JoinedIds

section Scanned
variable {sourceName : String} {databaseRow : DatabaseRow} {schemaRows : List SchemaRow}
  {tableColumnRows : List TableColumnRow} {primaryKeyRows : List PrimaryKeyRow}
  {foreignKeyRows : List ForeignKeyRow} {m : GovernanceModel}

lemma joinedIds_of_built {source : DataSource} {database : Database} {built : List (TableKey × Table)}
    (h : BuiltModel sourceName databaseRow schemaRows tableColumnRows primaryKeyRows foreignKeyRows m
      source database built) : JoinedIds sourceName databaseRow.databaseName m database := by
  have htable : ∀ s ∈ database.schemas, ∀ t ∈ s.tables, ∃ key, key.1 = s.name ∧
      BuiltTable sourceName databaseRow.databaseName (tablesMeta tableColumnRows) primaryKeyRows
        foreignKeyRows key t := by
    intro s hs t ht
    obtain ⟨b, hb, rfl⟩ := List.mem_map.mp ((h.tables s hs).mem_iff.mp ht)
    obtain ⟨hmem, hname⟩ := List.mem_filter.mp hb
    exact ⟨b.1, of_decide_eq_true hname, h.built b hmem⟩
  refine ⟨h.databases_eq, h.database_name, h.database_id, ?_, ?_, ?_⟩
  · intro s hs
    have hmem := h.schemas.mem_iff.mp (List.mem_map_of_mem (f := fun s => (s.id, s.name)) hs)
    obtain ⟨n, -, hn⟩ := List.mem_map.mp hmem
    obtain ⟨hid, hname⟩ := Prod.mk.inj hn
    rw [← hid, ← hname]
  · intro s hs t ht
    obtain ⟨key, hkey, hbuilt⟩ := htable s hs t ht
    rw [hbuilt.id, hbuilt.name, hkey]
  · intro s hs t ht c hc
    obtain ⟨key, hkey, hbuilt⟩ := htable s hs t ht
    have hmem := hbuilt.columns.mem_iff.mp (List.mem_map_of_mem (f := fun c => (c.id, c.name)) hc)
    obtain ⟨n, -, hn⟩ := List.mem_map.mp hmem
    obtain ⟨hid, hname⟩ := Prod.mk.inj hn
    rw [← hid, ← hname, hbuilt.name, hkey]

lemma physicalNodes_nodup (ns : Stripped) (h : (modelIds m).Nodup) :
    ((physicalNodes ns m).map Prod.fst).Nodup := by
  rw [(physicalNodes_ids_perm ns m).nodup_iff]
  have hsplit : modelIds m = (m.databases.map Database.id ++ m.schemas.map Schema.id ++
      m.tables.map Table.id ++ m.tables.flatMap (fun t => t.columns.map Column.id)) ++
      (m.tables.filterMap (fun t => t.primaryKey.map PrimaryKey.id) ++
        m.tables.flatMap (fun t => t.foreignKeys.map ForeignKey.id)) := by
    simp [modelIds, idsByKind, List.append_assoc]
  rw [hsplit] at h
  exact h.of_append_left

lemma namesStripped_iff {source : DataSource} {database : Database} {built : List (TableKey × Table)}
    (h : BuiltModel sourceName databaseRow schemaRows tableColumnRows primaryKeyRows foreignKeyRows m
      source database built) :
    NamesStripped m ↔ strip sourceName = sourceName ∧
      strip databaseRow.databaseName = databaseRow.databaseName ∧
      ∀ s ∈ database.schemas, strip s.name = s.name ∧ ∀ t ∈ s.tables, strip t.name = t.name ∧
        ∀ c ∈ t.columns, strip c.name = c.name := by
  have hsource : source ∈ m.dataSources := by
    rw [h.dataSources]
    exact List.mem_singleton_self _
  have hdatabase : database ∈ m.databases := by
    rw [h.databases_eq]
    exact List.mem_singleton_self _
  have htable : ∀ t, t ∈ m.tables ↔ ∃ s ∈ database.schemas, t ∈ s.tables := by
    intro t
    rw [GovernanceModel.tables, h.schemas_eq, List.mem_flatMap]
  constructor
  · intro hnames
    have hsrc := hnames.dataSources _ hsource
    have hdb := hnames.databases _ hdatabase
    rw [h.source_name] at hsrc
    rw [h.database_name] at hdb
    refine ⟨hsrc, hdb, fun s hs => ⟨hnames.schemas s (h.schemas_eq ▸ hs), fun t ht => ?_⟩⟩
    have ht := (htable t).mpr ⟨s, hs, ht⟩
    exact ⟨hnames.tables t ht, hnames.columns t ht⟩
  · rintro ⟨hsrc, hdb, hschemas⟩
    refine ⟨?_, ?_, ?_, ?_, ?_⟩
    · intro s hs
      rw [h.dataSources, List.mem_singleton] at hs
      rw [hs, h.source_name, hsrc]
    · intro d hd
      rw [h.databases_eq, List.mem_singleton] at hd
      rw [hd, h.database_name, hdb]
    · intro s hs
      rw [h.schemas_eq] at hs
      exact (hschemas s hs).1
    · intro t ht
      obtain ⟨s, hs, ht⟩ := (htable t).mp ht
      exact ((hschemas s hs).2 t ht).1
    · intro t ht
      obtain ⟨s, hs, ht⟩ := (htable t).mp ht
      exact ((hschemas s hs).2 t ht).2

/-- Identities that project back to their local ids tell the elements apart. -/
lemma bijective_iff {index : PhysicalReconciliationIndex} {ns : Stripped}
    (hindex : index.byLocalId.entries = physicalNodes ns m) :
    Bijective m index ↔
      ∀ e ∈ physicalNodes ns m, projectPhysicalLocalId e.2 = .ok (some e.1) := by
  have hget : ∀ id identity, index.get id = some identity ↔ (id, identity) ∈ physicalNodes ns m := by
    intro id identity
    rw [← hindex, PhysicalReconciliationIndex.get, Dict.get?_eq_some]
  constructor
  · rintro hbij ⟨id, identity⟩ he
    exact hbij.exact id identity ((hget id identity).mpr he)
  · intro hexact
    have hindexed : ∀ id ∈ elementIds m, ∃ identity, index.get id = some identity := by
      intro id hid
      have hmem : id ∈ (physicalNodes ns m).map Prod.fst := by
        rw [(physicalNodes_ids_perm ns m).mem_iff]
        rw [elementIds, List.append_assoc] at hid
        rw [List.append_assoc, List.append_assoc]
        exact List.mem_append_right _ hid
      obtain ⟨⟨id, identity⟩, he, rfl⟩ := List.mem_map.mp hmem
      exact ⟨identity, (hget id identity).mpr he⟩
    refine ⟨?_, ?_, ?_⟩
    · intro id hid
      exact Option.isSome_iff_exists.mpr (hindexed id hid)
    · intro id hid id' hid' heq
      obtain ⟨identity, hidentity⟩ := hindexed id hid
      have hfirst := hexact _ ((hget id identity).mp hidentity)
      have hsecond := hexact _ ((hget id' identity).mp (heq ▸ hidentity))
      exact Option.some.inj (Except.ok.inj (hfirst.symm.trans hsecond))
    · intro id identity h
      exact hexact _ ((hget id identity).mp h)

/-- The index of a scanned model is a bijection exactly when no name has white space around it. -/
theorem physicalIndex_bijective_iff
    (h : buildGovernanceModel sourceName databaseRow schemaRows tableColumnRows primaryKeyRows
      foreignKeyRows = .ok m) (hids : (modelIds m).Nodup) :
    (∃ index, buildPhysicalReconciliationIndex m sourceName = .ok index ∧ Bijective m index) ↔
      NamesStripped m := by
  obtain ⟨source, database, built, hb⟩ := buildGovernanceModel_ok h
  have hsource : isBlank sourceName = false := hb.source_name ▸ source.name_nonblank
  obtain ⟨mapping, hrun, hentries⟩ := foldlM_put_ok (physicalNodes_nodup (.of sourceName hsource) hids)
  have hbuild : buildPhysicalReconciliationIndex m sourceName =
      .ok ⟨mapping, .of sourceName hsource⟩ := by
    rw [buildPhysicalReconciliationIndex, dif_pos hsource]
    exact bind_eq_ok.mpr ⟨mapping, hrun, rfl⟩
  have hbijective : Bijective m ⟨mapping, .of sourceName hsource⟩ ↔ _ := bijective_iff hentries
  rw [namesStripped_iff hb, ← (joinedIds_of_built hb).exact_iff hsource, ← hbijective, hbuild]
  constructor
  · rintro ⟨index, hindex, hbij⟩
    cases hindex
    exact hbij
  · intro hbij
    exact ⟨_, rfl, hbij⟩

end Scanned

section Blank

/-- Two schemas whose names differ in a leading blank. -/
def blankScan : Except String GovernanceModel :=
  buildGovernanceModel "pg" shopRow [⟨"a", none, none⟩, ⟨" a", none, none⟩]
    [shopTable "a" "t", shopTable " a" "t"] [] []

/-- The two schemas have different ids and one identity. -/
theorem blank_in_name_shares_identity : ∃ m, blankScan = .ok m ∧ (modelIds m).Nodup ∧
    ¬ ∃ index, buildPhysicalReconciliationIndex m "pg" = .ok index ∧ Bijective m index := by
  have hrun : (blankScan.toOption.bind (fun m =>
      (buildPhysicalReconciliationIndex m "pg").toOption.map (fun index =>
        decide ((modelIds m).Nodup ∧ "sch:pg/shop/a" ∈ elementIds m ∧ "sch:pg/shop/ a" ∈ elementIds m ∧
          index.get "sch:pg/shop/a" = index.get "sch:pg/shop/ a")))) = some true := by
    decide +kernel
  obtain ⟨m, hm, hrun⟩ := toOption_bind_eq_some.mp hrun
  obtain ⟨index, hindex, hrun⟩ := toOption_map_eq_some.mp hrun
  obtain ⟨hids, hfirst, hsecond, hget⟩ := of_decide_eq_true hrun
  refine ⟨m, hm, hids, ?_⟩
  rintro ⟨index', hindex', hbij⟩
  rw [hindex] at hindex'
  cases hindex'
  exact absurd (hbij.distinct _ hfirst _ hsecond hget) (by decide)

theorem shop_index_bijective : ∃ m, shopScan [shopTable "a" "b"] = .ok m ∧
    ((∃ index, buildPhysicalReconciliationIndex m "pg" = .ok index ∧ Bijective m index) ↔
      NamesStripped m) := by
  have hrun : ((shopScan [shopTable "a" "b"]).toOption.map (fun m => decide (modelIds m).Nodup)) =
      some true := by
    decide +kernel
  obtain ⟨m, hm, hids⟩ := toOption_map_eq_some.mp hrun
  exact ⟨m, hm, physicalIndex_bijective_iff hm (of_decide_eq_true hids)⟩

end Blank
end CollibraGovernance.Reconciliation
