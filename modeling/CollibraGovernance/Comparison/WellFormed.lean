import CollibraGovernance.Comparison.CompareSpec

/-! Elements under structured identities are well formed: names, owners, positions and references are
what the identities and the kinds ask for, and containers are there. -/
namespace CollibraGovernance.Comparison
open Library Domain Identity Snapshots

/-- The columns are columns of the table. -/
def ColumnsOf (table : ComparisonObjectIdentity) (columns : List ComparisonObjectIdentity) : Prop :=
  columns ≠ [] ∧ ∀ c ∈ columns, c.kind = .column ∧ c.expectedParent = some table

/-- The last segment of the path is the name. -/
def Named (i : ComparisonObjectIdentity) (name : String) : Prop :=
  i.path.getLast?.map Segment.val = some name

/-- What the constructors and the references guarantee of one element. -/
def WellFormed : Element ComparisonObjectIdentity → Prop
  | .dataSource _ name _ _ ownership _ => isBlank name = false ∧ ∃ o, ownershipValue o = ownership
  | .database _ _ name _ ownership => isBlank name = false ∧ ∃ o, ownershipValue o = ownership
  | .schema i _ name _ ownership => Named i name ∧ ∃ o, ownershipValue o = ownership
  | .table i _ name _ ownership _ => Named i name ∧ ∃ o, ownershipValue o = ownership
  | .column i _ name dataType ordinalPosition _ _ _ =>
    Named i name ∧ isBlank dataType = false ∧ 1 ≤ ordinalPosition
  | .primaryKey i table name columns => Named i name ∧ ColumnsOf table columns
  | .foreignKey i table name columns referencedTable referencedColumns =>
    Named i name ∧ ColumnsOf table columns ∧ referencedTable.kind = .table ∧
      ColumnsOf referencedTable referencedColumns
  | .relationship i fromTable toTable name key _ => Named i name ∧ toTable.kind = .table ∧
      ∀ k ∈ key, k.kind = .foreignKey ∧ k.expectedParent = some fromTable

section Located
variable {m : GovernanceModel} {source : DataSource} {d : Database}
  {raw : Dict String ComparisonObjectIdentity}

lemma identityOf_table (h : FirstPass m source d raw) {s : Schema} {t : Table} (hs : s ∈ d.schemas)
    (ht : t ∈ s.tables) : identityOf raw t.id = tableIdentity s t :=
  h.identityOf_located (h.table_mem hs ht (mem_tableLocated.mpr (Or.inl rfl)))

/-- Columns of a table are columns of it under their identities. -/
lemma columnsOf_table (h : FirstPass m source d raw) {s : Schema} {t : Table} (hs : s ∈ d.schemas)
    (ht : t ∈ s.tables) {ids : List String} (hne : ids ≠ []) (hids : ∀ i ∈ ids, i ∈ t.columns.map Column.id) :
    ColumnsOf (identityOf raw t.id) (ids.map (identityOf raw)) := by
  refine ⟨by simpa using hne, ?_⟩
  intro c hc
  obtain ⟨i, hi, rfl⟩ := List.mem_map.mp hc
  obtain ⟨column, hcolumn, rfl⟩ := List.mem_map.mp (hids i hi)
  have hidentity : identityOf raw column.id = columnIdentity s t column :=
    h.identityOf_located (h.table_mem hs ht (mem_tableLocated.mpr (Or.inr (Or.inl ⟨column, hcolumn, rfl⟩))))
  rw [hidentity, identityOf_table h hs ht]
  exact ⟨rfl, rfl⟩

/-- The elements of an accepted snapshot are well formed. -/
theorem wellFormed_located (h : FirstPass m source d raw) (hkeys : KeyReferences m) {l : Located}
    (hl : l ∈ located m source d) : WellFormed (l.2.map (identityOf raw)) := by
  have hid := h.identityOf_located hl
  rcases mem_located.mp hl with rfl | rfl | ⟨s, hs, rfl⟩ | ⟨s, hs, t, ht, hl'⟩ | ⟨r, hr, hr'⟩
  · exact ⟨source.name_nonblank, _, rfl⟩
  · exact ⟨d.name_nonblank, _, rfl⟩
  · refine ⟨?_, _, rfl⟩
    rw [Named]
    exact hid ▸ rfl
  · have htm : t ∈ m.tables := h.mem_tables.mpr ⟨s, hs, ht⟩
    rcases mem_tableLocated.mp hl' with rfl | ⟨c, hc, rfl⟩ | ⟨k, hk, rfl⟩ | ⟨k, hk, rfl⟩
    · refine ⟨?_, _, rfl⟩
      rw [Named]
      exact hid ▸ rfl
    · refine ⟨?_, c.dataType_nonblank, c.ordinalPosition_pos⟩
      rw [Named]
      exact hid ▸ rfl
    · refine ⟨?_, ?_⟩
      · rw [Named]
        exact hid ▸ rfl
      · rw [h.back.primaryKeys s hs t ht k hk]
        exact columnsOf_table h hs ht k.columnIds_nonempty (hkeys.primaryKeys t htm k hk)
    · obtain ⟨r, hr, hrid, hreferenced⟩ := hkeys.referenced t htm k hk
      obtain ⟨s', hs', hrs⟩ := h.mem_tables.mp hr
      refine ⟨?_, ?_, ?_, ?_⟩
      · rw [Named]
        exact hid ▸ rfl
      · rw [h.back.foreignKeys s hs t ht k hk]
        exact columnsOf_table h hs ht k.columnIds_nonempty (hkeys.foreignKeys t htm k hk)
      · rw [← hrid, identityOf_table h hs' hrs]
        rfl
      · rw [← hrid]
        exact columnsOf_table h hs' hrs k.referencedColumnIds_nonempty hreferenced
  · obtain ⟨s, t, hholder, rfl⟩ := relationshipLocated_eq_some hr'
    obtain ⟨u, hu, huid⟩ := hkeys.relationships r hr
    obtain ⟨s', hs', hus⟩ := h.mem_tables.mp hu
    refine ⟨?_, ?_, ?_⟩
    · rw [Named]
      exact hid ▸ rfl
    · rw [← huid, identityOf_table h hs' hus]
      rfl
    · intro k hk
      obtain ⟨i, hi, rfl⟩ := Option.map_eq_some_iff.mp hk
      obtain ⟨v, hv, f, hf, hfid, hfrom, -⟩ := hkeys.relationship_keys r hr i hi
      obtain ⟨s'', hs'', hvs⟩ := h.mem_tables.mp hv
      have hidentity : identityOf raw f.id = foreignKeyIdentity s'' v f :=
        h.identityOf_located (h.table_mem hs'' hvs
          (mem_tableLocated.mpr (Or.inr (Or.inr (Or.inr ⟨f, hf, rfl⟩)))))
      rw [← hfid, hidentity, ← hfrom, h.back.foreignKeys s'' hs'' v hvs f hf, identityOf_table h hs'' hvs]
      exact ⟨rfl, rfl⟩

/-- The container of an element is an element. -/
theorem parent_located (h : FirstPass m source d raw) {l : Located} (hl : l ∈ located m source d)
    {parent : ComparisonObjectIdentity} (hparent : l.1.expectedParent = some parent) :
    parent ∈ (located m source d).map Prod.fst := by
  have hsource : ComparisonObjectIdentity.dataSource ∈ (located m source d).map Prod.fst :=
    List.mem_map_of_mem (f := Prod.fst) (mem_located.mpr (Or.inl rfl))
  have hdatabase : ComparisonObjectIdentity.database ∈ (located m source d).map Prod.fst :=
    List.mem_map_of_mem (f := Prod.fst) (mem_located.mpr (Or.inr (Or.inl rfl)))
  have hschema : ∀ s ∈ d.schemas, schemaIdentity s ∈ (located m source d).map Prod.fst := by
    intro s hs
    exact List.mem_map_of_mem (f := Prod.fst) (mem_located.mpr (Or.inr (Or.inr (Or.inl ⟨s, hs, rfl⟩))))
  have htable : ∀ s ∈ d.schemas, ∀ t ∈ s.tables, tableIdentity s t ∈ (located m source d).map Prod.fst := by
    intro s hs t ht
    exact List.mem_map_of_mem (f := Prod.fst) (h.table_mem hs ht (mem_tableLocated.mpr (Or.inl rfl)))
  rcases mem_located.mp hl with rfl | rfl | ⟨s, hs, rfl⟩ | ⟨s, hs, t, ht, hl'⟩ | ⟨r, hr, hr'⟩
  · cases hparent
  · exact Option.some.inj hparent ▸ hsource
  · exact Option.some.inj hparent ▸ hdatabase
  · rcases mem_tableLocated.mp hl' with rfl | ⟨c, hc, rfl⟩ | ⟨k, hk, rfl⟩ | ⟨k, hk, rfl⟩
    · exact Option.some.inj hparent ▸ hschema s hs
    all_goals exact Option.some.inj hparent ▸ htable s hs t ht
  · obtain ⟨s, t, hholder, rfl⟩ := relationshipLocated_eq_some hr'
    obtain ⟨hs, ht, -⟩ := relationshipHolder_mem h hholder
    exact Option.some.inj hparent ▸ htable s hs t ht

end Located

/-- The elements of one side of a comparison. -/
structure Coherent (s : GovernanceSnapshot) (es : List (Element ComparisonObjectIdentity)) : Prop where
  wellFormed : ∀ e ∈ es, WellFormed e
  parents : ∀ e ∈ es, ∀ parent, e.id.expectedParent = some parent → parent ∈ es.map Element.id
  dataSource : ∃ description ownership attributes,
    .dataSource .dataSource s.sourceName s.systemType description ownership attributes ∈ es
  database : ∃ description ownership,
    .database .database .dataSource s.databaseName description ownership ∈ es

theorem coherent_of_ok {isPrintable : Char → Bool} {side : String} {s : GovernanceSnapshot}
    {p : ProjectedSnapshot} (hp : projectSnapshot isPrintable side s = .ok p) :
    Coherent s (relabelled p) := by
  obtain ⟨source, d, hacceptable, hprojects, rfl⟩ := projects_of_ok hp
  have hpass := hprojects.pass
  have hrelabelled : relabelled p = (located p.snapshot.model source d).map
      (fun l => l.2.map (identityOf p.rawToIdentity)) := by
    rw [relabelled, ← located_elements hpass.dataSources hpass.databases hpass.back, List.map_map]
    rfl
  have hid : ∀ l ∈ located p.snapshot.model source d,
      (l.2.map (identityOf p.rawToIdentity)).id = l.1 := by
    intro l hl
    rw [Element.id_map, hpass.identityOf_located hl]
  have hsource : identityOf p.rawToIdentity source.id = .dataSource :=
    hpass.identityOf_located (mem_located.mpr (Or.inl rfl))
  have hdatabase : identityOf p.rawToIdentity d.id = .database :=
    hpass.identityOf_located (mem_located.mpr (Or.inr (Or.inl rfl)))
  rw [hrelabelled]
  constructor
  · intro e he
    obtain ⟨l, hl, rfl⟩ := List.mem_map.mp he
    exact wellFormed_located hpass hacceptable.keys hl
  · intro e he parent hparent
    obtain ⟨l, hl, rfl⟩ := List.mem_map.mp he
    rw [hid l hl] at hparent
    have hids : ((located p.snapshot.model source d).map (fun l => l.2.map (identityOf p.rawToIdentity))).map
        Element.id = (located p.snapshot.model source d).map Prod.fst := by
      rw [List.map_map]
      exact List.map_congr_left hid
    rw [hids]
    exact parent_located hpass hl hparent
  · have hmem : (dataSourceElement source).map (identityOf p.rawToIdentity) ∈
        (located p.snapshot.model source d).map (fun l => l.2.map (identityOf p.rawToIdentity)) :=
      List.mem_map.mpr ⟨_, mem_located.mpr (Or.inl rfl), rfl⟩
    rw [dataSourceElement, Element.map, hsource, ← hacceptable.envelope.sourceName,
      ← hacceptable.envelope.systemType] at hmem
    exact ⟨_, _, _, hmem⟩
  · have hmem : (databaseElement d).map (identityOf p.rawToIdentity) ∈
        (located p.snapshot.model source d).map (fun l => l.2.map (identityOf p.rawToIdentity)) :=
      List.mem_map.mpr ⟨_, mem_located.mpr (Or.inr (Or.inl rfl)), rfl⟩
    rw [databaseElement, Element.map, hdatabase, ← hacceptable.envelope.databaseName, hpass.back.database,
      hsource] at hmem
    exact ⟨_, _, hmem⟩

end CollibraGovernance.Comparison
