import CollibraGovernance.Domain.Elements

/-! Replacing the raw ids of a model by others, in every place that mentions them. -/
namespace CollibraGovernance.Domain
open Library

/-- New raw ids for old ones; an id is never blank. -/
structure Renaming where
  toFun : String → String
  nonblank : ∀ i, isBlank i = false → isBlank (toFun i) = false

namespace Renaming

instance : CoeFun Renaming (fun _ => String → String) := ⟨toFun⟩

end Renaming

section Rename
variable (ρ : Renaming)

def Column.rename (c : Column) : Column :=
  { c with id := ρ c.id, id_nonblank := ρ.nonblank _ c.id_nonblank }

theorem columnIds_nonblank_map {ids : List String} (h : ∀ c ∈ ids, isBlank c = false) :
    ∀ c ∈ ids.map ρ, isBlank c = false := by
  intro c hc
  obtain ⟨i, hi, rfl⟩ := List.mem_map.mp hc
  exact ρ.nonblank i (h i hi)

theorem map_ne_nil {α β : Type} {f : α → β} {xs : List α} (h : xs ≠ []) : xs.map f ≠ [] := by
  simpa using h

theorem length_map_eq {α β : Type} {f : α → β} {xs ys : List α} (h : xs.length = ys.length) :
    (xs.map f).length = (ys.map f).length := by
  simpa using h

def PrimaryKey.rename (k : PrimaryKey) : PrimaryKey where
  id := ρ k.id
  name := k.name
  tableId := ρ k.tableId
  columnIds := k.columnIds.map ρ
  id_nonblank := ρ.nonblank _ k.id_nonblank
  name_nonblank := k.name_nonblank
  tableId_nonblank := ρ.nonblank _ k.tableId_nonblank
  columnIds_nonempty := map_ne_nil k.columnIds_nonempty
  columnIds_nonblank := columnIds_nonblank_map ρ k.columnIds_nonblank

def ForeignKey.rename (k : ForeignKey) : ForeignKey where
  id := ρ k.id
  name := k.name
  tableId := ρ k.tableId
  columnIds := k.columnIds.map ρ
  referencedTableId := ρ k.referencedTableId
  referencedColumnIds := k.referencedColumnIds.map ρ
  id_nonblank := ρ.nonblank _ k.id_nonblank
  name_nonblank := k.name_nonblank
  tableId_nonblank := ρ.nonblank _ k.tableId_nonblank
  referencedTableId_nonblank := ρ.nonblank _ k.referencedTableId_nonblank
  columnIds_nonempty := map_ne_nil k.columnIds_nonempty
  referencedColumnIds_nonempty := map_ne_nil k.referencedColumnIds_nonempty
  length_eq := length_map_eq k.length_eq

def Relationship.rename (r : Relationship) : Relationship where
  id := ρ r.id
  name := r.name
  fromTableId := ρ r.fromTableId
  toTableId := ρ r.toTableId
  foreignKeyId := r.foreignKeyId.map ρ
  description := r.description
  id_nonblank := ρ.nonblank _ r.id_nonblank
  name_nonblank := r.name_nonblank
  fromTableId_nonblank := ρ.nonblank _ r.fromTableId_nonblank
  toTableId_nonblank := ρ.nonblank _ r.toTableId_nonblank

def Table.rename (t : Table) : Table where
  id := ρ t.id
  name := t.name
  schemaId := ρ t.schemaId
  columns := sortBy Column.sortKey (t.columns.map (Column.rename ρ))
  primaryKey := t.primaryKey.map (PrimaryKey.rename ρ)
  foreignKeys := sortBy ForeignKey.id (t.foreignKeys.map (ForeignKey.rename ρ))
  description := t.description
  ownership := t.ownership
  technicalAttributes := t.technicalAttributes
  id_nonblank := ρ.nonblank _ t.id_nonblank
  name_nonblank := t.name_nonblank
  schemaId_nonblank := ρ.nonblank _ t.schemaId_nonblank
  columns_nonempty := sortBy_ne_nil (map_ne_nil t.columns_nonempty)
  columns_sorted := sortBy_sorted _ _
  foreignKeys_sorted := sortBy_sorted _ _

def Schema.rename (s : Schema) : Schema where
  id := ρ s.id
  name := s.name
  databaseId := ρ s.databaseId
  tables := sortBy Table.id (s.tables.map (Table.rename ρ))
  description := s.description
  ownership := s.ownership
  id_nonblank := ρ.nonblank _ s.id_nonblank
  name_nonblank := s.name_nonblank
  databaseId_nonblank := ρ.nonblank _ s.databaseId_nonblank
  tables_sorted := sortBy_sorted _ _

def Database.rename (d : Database) : Database where
  id := ρ d.id
  name := d.name
  datasourceId := ρ d.datasourceId
  schemas := sortBy Schema.id (d.schemas.map (Schema.rename ρ))
  description := d.description
  ownership := d.ownership
  id_nonblank := ρ.nonblank _ d.id_nonblank
  name_nonblank := d.name_nonblank
  datasourceId_nonblank := ρ.nonblank _ d.datasourceId_nonblank
  schemas_sorted := sortBy_sorted _ _

def DataSource.rename (s : DataSource) : DataSource where
  id := ρ s.id
  name := s.name
  systemType := s.systemType
  databases := sortBy Database.id (s.databases.map (Database.rename ρ))
  description := s.description
  ownership := s.ownership
  technicalAttributes := s.technicalAttributes
  id_nonblank := ρ.nonblank _ s.id_nonblank
  name_nonblank := s.name_nonblank
  systemType_nonblank := s.systemType_nonblank
  databases_sorted := sortBy_sorted _ _

def GovernanceModel.rename (m : GovernanceModel) : GovernanceModel where
  dataSources := sortBy DataSource.id (m.dataSources.map (DataSource.rename ρ))
  relationships := sortBy Relationship.id (m.relationships.map (Relationship.rename ρ))
  dataSources_nonempty := sortBy_ne_nil (map_ne_nil m.dataSources_nonempty)
  dataSources_sorted := sortBy_sorted _ _
  relationships_sorted := sortBy_sorted _ _

variable {ρ}

lemma Table.mem_columns_rename {t : Table} {c : Column} :
    c ∈ (t.rename ρ).columns ↔ ∃ c' ∈ t.columns, c'.rename ρ = c := by
  simp [Table.rename]

lemma Table.mem_foreignKeys_rename {t : Table} {k : ForeignKey} :
    k ∈ (t.rename ρ).foreignKeys ↔ ∃ k' ∈ t.foreignKeys, k'.rename ρ = k := by
  simp [Table.rename]

lemma Table.columnIds_rename {t : Table} {i : String} (h : i ∈ t.columns.map Column.id) :
    ρ i ∈ (t.rename ρ).columns.map Column.id := by
  obtain ⟨c, hc, rfl⟩ := List.mem_map.mp h
  exact List.mem_map.mpr ⟨c.rename ρ, Table.mem_columns_rename.mpr ⟨c, hc, rfl⟩, rfl⟩

lemma Schema.mem_tables_rename {s : Schema} {t : Table} :
    t ∈ (s.rename ρ).tables ↔ ∃ t' ∈ s.tables, t'.rename ρ = t := by
  simp [Schema.rename]

lemma Database.mem_schemas_rename {d : Database} {s : Schema} :
    s ∈ (d.rename ρ).schemas ↔ ∃ s' ∈ d.schemas, s'.rename ρ = s := by
  simp [Database.rename]

lemma GovernanceModel.mem_relationships_rename {m : GovernanceModel} {r : Relationship} :
    r ∈ (m.rename ρ).relationships ↔ ∃ r' ∈ m.relationships, r'.rename ρ = r := by
  simp [GovernanceModel.rename]

end Rename
end CollibraGovernance.Domain
