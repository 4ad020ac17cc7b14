import CollibraGovernance.Comparison.Located

/-! When the references of keys and relationships resolve, and to which identities. -/
namespace CollibraGovernance.Comparison
open Library Domain Snapshots

section Located
variable {m : GovernanceModel} {source : DataSource} {d : Database} {l : Located}

lemma mem_tableLocated {s : Schema} {t : Table} : l ∈ tableLocated s t ↔
    l = (tableIdentity s t, tableElement t) ∨
      (∃ c ∈ t.columns, l = (columnIdentity s t c, columnElement t c)) ∨
      (∃ k ∈ t.primaryKey, l = (primaryKeyIdentity s t k, primaryKeyElement k)) ∨
      ∃ k ∈ t.foreignKeys, l = (foreignKeyIdentity s t k, foreignKeyElement k) := by
  simp only [tableLocated, List.mem_cons, List.mem_append, List.mem_map, Option.mem_toList,
    Option.mem_def, eq_comm (b := l), or_assoc]

/-- A located element is the root, a schema, something of a table, or a relationship. -/
theorem mem_located : l ∈ located m source d ↔
    l = (.dataSource, dataSourceElement source) ∨ l = (.database, databaseElement d) ∨
      (∃ s ∈ d.schemas, l = (schemaIdentity s, schemaElement s)) ∨
      (∃ s ∈ d.schemas, ∃ t ∈ s.tables, l ∈ tableLocated s t) ∨
      ∃ r ∈ m.relationships, relationshipLocated m r = some l := by
  simp only [located, List.cons_append, List.mem_cons, List.mem_append, List.mem_flatMap,
    schemaLocated, List.mem_filterMap]
  constructor
  · rintro (h | h | ⟨s, hs, h | ⟨t, ht, h⟩⟩ | ⟨r, hr, h⟩)
    · exact Or.inl h
    · exact Or.inr (Or.inl h)
    · exact Or.inr (Or.inr (Or.inl ⟨s, hs, h⟩))
    · exact Or.inr (Or.inr (Or.inr (Or.inl ⟨s, hs, t, ht, h⟩)))
    · exact Or.inr (Or.inr (Or.inr (Or.inr ⟨r, hr, h⟩)))
  · rintro (h | h | ⟨s, hs, h⟩ | ⟨s, hs, t, ht, h⟩ | ⟨r, hr, h⟩)
    · exact Or.inl h
    · exact Or.inr (Or.inl h)
    · exact Or.inr (Or.inr (Or.inl ⟨s, hs, Or.inl h⟩))
    · exact Or.inr (Or.inr (Or.inl ⟨s, hs, Or.inr ⟨t, ht, h⟩⟩))
    · exact Or.inr (Or.inr (Or.inr ⟨r, hr, h⟩))

lemma relationshipLocated_eq_some {r : Relationship} (h : relationshipLocated m r = some l) :
    ∃ s t, relationshipHolder m r = some (s, t) ∧
      l = (relationshipIdentity s t r, relationshipElement r) := by
  obtain ⟨⟨s, t⟩, hholder, rfl⟩ := Option.map_eq_some_iff.mp h
  exact ⟨s, t, hholder, rfl⟩

end Located

section Kinds
variable {m : GovernanceModel} {source : DataSource} {d : Database}

/-- The raw ids of the elements of one kind. -/
def idsOfKind (k : GovernedObjectKind) (ls : List Located) : List String :=
  (ls.filter (fun l => l.1.kind = k)).map (fun l => l.2.id)

lemma idsOfKind_append (k : GovernedObjectKind) (xs ys : List Located) :
    idsOfKind k (xs ++ ys) = idsOfKind k xs ++ idsOfKind k ys := by
  simp [idsOfKind]

lemma idsOfKind_flatMap {α : Type} (k : GovernedObjectKind) (xs : List α) (f : α → List Located) :
    idsOfKind k (xs.flatMap f) = xs.flatMap (fun x => idsOfKind k (f x)) := by
  induction xs with
  | nil => rfl
  | cons x xs ih => rw [List.flatMap_cons, idsOfKind_append, ih, List.flatMap_cons]

lemma idsOfKind_map {α : Type} {j k : GovernedObjectKind} (xs : List α) {f : α → Located}
    (hf : ∀ x, (f x).1.kind = j) : idsOfKind k (xs.map f) =
      if j = k then xs.map (fun x => (f x).2.id) else [] := by
  rw [idsOfKind, List.filter_map]
  simp only [Function.comp_def, hf]
  split_ifs with hk
  · simp [hk]
  · simp [hk]

lemma idsOfKind_tableLocated (k : GovernedObjectKind) (s : Schema) (t : Table) :
    idsOfKind k (tableLocated s t) = (if .table = k then [t.id] else []) ++
      ((if .column = k then t.columns.map Column.id else []) ++
        (if .primaryKey = k then t.primaryKey.toList.map PrimaryKey.id else []) ++
        if .foreignKey = k then t.foreignKeys.map ForeignKey.id else []) := by
  rw [tableLocated, ← List.singleton_append, idsOfKind_append, idsOfKind_append, idsOfKind_append]
  rw [idsOfKind_map (j := .column) t.columns (fun _ => rfl),
    idsOfKind_map (j := .primaryKey) t.primaryKey.toList (fun _ => rfl),
    idsOfKind_map (j := .foreignKey) t.foreignKeys (fun _ => rfl)]
  exact congrArg (· ++ _) (idsOfKind_map (j := .table) [t] (f := fun t => (tableIdentity s t, tableElement t))
    (fun _ => rfl))

lemma idsOfKind_relationships {k : GovernedObjectKind} (hk : k ≠ .relationship) :
    idsOfKind k (m.relationships.filterMap (relationshipLocated m)) = [] := by
  rw [idsOfKind, List.map_eq_nil_iff, List.filter_eq_nil_iff]
  intro l hl
  obtain ⟨r, -, hr⟩ := List.mem_filterMap.mp hl
  obtain ⟨s, t, -, rfl⟩ := relationshipLocated_eq_some hr
  simp [relationshipIdentity, ComparisonObjectIdentity.kind, Ne.symm hk]

lemma idsOfKind_located {k : GovernedObjectKind} (hk : k ≠ .relationship) (hs : k ≠ .dataSource)
    (hd : k ≠ .database) : idsOfKind k (located m source d) =
      d.schemas.flatMap (fun s => (if .schema = k then [s.id] else []) ++
        s.tables.flatMap (fun t => idsOfKind k (tableLocated s t))) := by
  have hschema : ∀ s, idsOfKind k (schemaLocated s) = (if .schema = k then [s.id] else []) ++
      s.tables.flatMap (fun t => idsOfKind k (tableLocated s t)) := by
    intro s
    rw [schemaLocated, ← List.singleton_append, idsOfKind_append, idsOfKind_flatMap]
    exact congrArg (· ++ _) (idsOfKind_map (j := .schema) [s]
      (f := fun s => (schemaIdentity s, schemaElement s)) (fun _ => rfl))
  have hroot : idsOfKind k [(.dataSource, dataSourceElement source), (.database, databaseElement d)] = [] := by
    simp [idsOfKind, ComparisonObjectIdentity.kind, Ne.symm hs, Ne.symm hd]
  have hsplit : located m source d = [(.dataSource, dataSourceElement source),
      (.database, databaseElement d)] ++ d.schemas.flatMap schemaLocated ++
        m.relationships.filterMap (relationshipLocated m) := rfl
  rw [hsplit, idsOfKind_append, idsOfKind_append, hroot, idsOfKind_relationships hk, idsOfKind_flatMap,
    List.nil_append, List.append_nil]
  simp only [hschema]

lemma idsOfKind_schema : idsOfKind .schema (located m source d) = d.schemas.map Schema.id := by
  have hnone : ∀ s : Schema, s.tables.flatMap (fun _ => ([] : List String)) = [] := by
    simp [List.flatMap_eq_nil_iff]
  rw [idsOfKind_located (by decide) (by decide) (by decide), List.map_eq_flatMap]
  simp [idsOfKind_tableLocated, hnone]

lemma idsOfKind_table : idsOfKind .table (located m source d) =
    d.schemas.flatMap (fun s => s.tables.map Table.id) := by
  rw [idsOfKind_located (by decide) (by decide) (by decide)]
  simp [idsOfKind_tableLocated, ← List.map_eq_flatMap]

lemma idsOfKind_column : idsOfKind .column (located m source d) =
    d.schemas.flatMap (fun s => s.tables.flatMap (fun t => t.columns.map Column.id)) := by
  rw [idsOfKind_located (by decide) (by decide) (by decide)]
  simp [idsOfKind_tableLocated]

lemma idsOfKind_foreignKey : idsOfKind .foreignKey (located m source d) =
    d.schemas.flatMap (fun s => s.tables.flatMap (fun t => t.foreignKeys.map ForeignKey.id)) := by
  rw [idsOfKind_located (by decide) (by decide) (by decide)]
  simp [idsOfKind_tableLocated]

end Kinds

/-- A first pass that found nothing to report. -/
structure FirstPass (m : GovernanceModel) (source : DataSource) (d : Database)
    (raw : Dict String ComparisonObjectIdentity) : Prop where
  dataSources : m.dataSources = [source]
  databases : source.databases = [d]
  back : BackReferences m source d
  raw_entries : raw.entries = (located m source d).map (fun l => (l.2.id, l.1))
  identities : ((located m source d).map Prod.fst).Nodup

/-- The identity a raw id stands for; every raw id of an accepted snapshot stands for one. -/
def identityOf (raw : Dict String ComparisonObjectIdentity) (rawId : String) :
    ComparisonObjectIdentity := (raw.get? rawId).getD .dataSource

namespace FirstPass
variable {m : GovernanceModel} {source : DataSource} {d : Database}
  {raw : Dict String ComparisonObjectIdentity}

lemma ids_nodup (h : FirstPass m source d raw) :
    ((located m source d).map (fun l => l.2.id)).Nodup := by
  have hnodup := raw.nodup
  rwa [h.raw_entries, List.map_map] at hnodup

lemma elementIds_nodup (h : FirstPass m source d raw) : (elementIdsOf m).Nodup := by
  rw [elementIdsOf, ← located_elements h.dataSources h.databases h.back, List.map_map]
  exact h.ids_nodup

lemma get?_eq_some (h : FirstPass m source d raw) {rawId : String} {i : ComparisonObjectIdentity} :
    raw.get? rawId = some i ↔ ∃ e : Element String, (i, e) ∈ located m source d ∧ e.id = rawId := by
  rw [Dict.get?_eq_some, h.raw_entries, List.mem_map]
  constructor
  · rintro ⟨⟨i', e⟩, hmem, heq⟩
    cases heq
    exact ⟨e, hmem, rfl⟩
  · rintro ⟨e, hmem, rfl⟩
    exact ⟨(i, e), hmem, rfl⟩

lemma get?_located (h : FirstPass m source d raw) {l : Located} (hl : l ∈ located m source d) :
    raw.get? l.2.id = some l.1 := h.get?_eq_some.mpr ⟨l.2, hl, rfl⟩

lemma identityOf_located (h : FirstPass m source d raw) {l : Located} (hl : l ∈ located m source d) :
    identityOf raw l.2.id = l.1 := by
  rw [identityOf, h.get?_located hl]
  rfl

lemma tables_eq (h : FirstPass m source d raw) : m.tables = d.schemas.flatMap Schema.tables := by
  simp [GovernanceModel.tables, GovernanceModel.schemas, GovernanceModel.databases, h.dataSources,
    h.databases]

lemma schemas_eq (h : FirstPass m source d raw) : m.schemas = d.schemas := by
  simp [GovernanceModel.schemas, GovernanceModel.databases, h.dataSources, h.databases]

lemma mem_tables (h : FirstPass m source d raw) {t : Table} :
    t ∈ m.tables ↔ ∃ s ∈ d.schemas, t ∈ s.tables := by
  rw [h.tables_eq, List.mem_flatMap]

lemma table_mem (_ : FirstPass m source d raw) {s : Schema} {t : Table} (hs : s ∈ d.schemas)
    (ht : t ∈ s.tables) {l : Located} (hl : l ∈ tableLocated s t) : l ∈ located m source d :=
  mem_located.mpr (Or.inr (Or.inr (Or.inr (Or.inl ⟨s, hs, t, ht, hl⟩))))

lemma idsOfKind_nodup (h : FirstPass m source d raw) (k : GovernedObjectKind) :
    (idsOfKind k (located m source d)).Nodup :=
  h.ids_nodup.sublist (List.filter_sublist.map _)

lemma schemas_nodup (h : FirstPass m source d raw) : (m.schemas.map Schema.id).Nodup := by
  rw [h.schemas_eq, ← @idsOfKind_schema m source d]
  exact h.idsOfKind_nodup _

lemma tables_nodup (h : FirstPass m source d raw) : (m.tables.map Table.id).Nodup := by
  have hkind := h.idsOfKind_nodup .table
  rwa [idsOfKind_table, ← List.map_flatMap, ← h.tables_eq] at hkind

lemma columns_nodup (h : FirstPass m source d raw) :
    ((m.tables.flatMap Table.columns).map Column.id).Nodup := by
  have hkind := h.idsOfKind_nodup .column
  rwa [idsOfKind_column, ← List.flatMap_assoc, ← h.tables_eq, ← List.map_flatMap] at hkind

lemma foreignKeys_nodup (h : FirstPass m source d raw) :
    ((m.tables.flatMap Table.foreignKeys).map ForeignKey.id).Nodup := by
  have hkind := h.idsOfKind_nodup .foreignKey
  rwa [idsOfKind_foreignKey, ← List.flatMap_assoc, ← h.tables_eq, ← List.map_flatMap] at hkind

end FirstPass
end CollibraGovernance.Comparison
