import CollibraGovernance.Domain.Models
import CollibraGovernance.Library.Outcome

/-! What the constructors of the metadata model return, and that an element passes its own one. -/
namespace CollibraGovernance.Domain
open Library

section Created
variable {id name : String} {description : Json}

theorem Ownership.create_self (o : Ownership) : Ownership.create o.ownerName o.ownerType = .ok o := by
  rw [create, requireNonEmpty_ok _ o.ownerName_nonblank, requireNonEmpty_ok _ o.ownerType_nonblank]
  rfl

theorem Ownership.create_ok {ownerName ownerType : String} {o : Ownership}
    (h : Ownership.create ownerName ownerType = .ok o) :
    o.ownerName = ownerName ∧ o.ownerType = ownerType := by
  obtain ⟨n, hn, h⟩ := bind_eq_ok.mp h
  obtain ⟨t, ht, h⟩ := bind_eq_ok.mp h
  cases h
  exact ⟨requireNonEmpty_eq_ok hn, requireNonEmpty_eq_ok ht⟩

theorem Column.create_self (c : Column) : Column.create c.id c.name c.dataType c.ordinalPosition
    c.nullable c.description c.technicalAttributes = .ok c := by
  rw [create, requireNonEmpty_ok _ c.id_nonblank, requireNonEmpty_ok _ c.name_nonblank,
    requireNonEmpty_ok _ c.dataType_nonblank]
  simp only [ok_bind, dif_pos c.ordinalPosition_pos]
  rfl

theorem Column.create_ok {dataType : String} {ordinalPosition : Int} {nullable : Bool}
    {technicalAttributes : List (String × Json)} {c : Column}
    (h : Column.create id name dataType ordinalPosition nullable description technicalAttributes =
      .ok c) : c.id = id ∧ c.name = name ∧ c.dataType = dataType ∧
        c.ordinalPosition = ordinalPosition ∧ c.nullable = nullable ∧ c.description = description ∧
        c.technicalAttributes = technicalAttributes := by
  obtain ⟨i, hi, h⟩ := bind_eq_ok.mp h
  obtain ⟨n, hn, h⟩ := bind_eq_ok.mp h
  obtain ⟨d, hd, h⟩ := bind_eq_ok.mp h
  split at h
  · cases h
    exact ⟨requireNonEmpty_eq_ok hi, requireNonEmpty_eq_ok hn, requireNonEmpty_eq_ok hd, rfl, rfl,
      rfl, rfl⟩
  · cases h

theorem PrimaryKey.create_self (k : PrimaryKey) :
    PrimaryKey.create k.id k.name k.tableId k.columnIds = .ok k := by
  rw [create, requireNonEmpty_ok _ k.id_nonblank, requireNonEmpty_ok _ k.name_nonblank,
    requireNonEmpty_ok _ k.tableId_nonblank]
  simp only [ok_bind, dif_pos k.columnIds_nonempty, dif_pos k.columnIds_nonblank]
  rfl

theorem PrimaryKey.create_ok {tableId : String} {columnIds : List String} {k : PrimaryKey}
    (h : PrimaryKey.create id name tableId columnIds = .ok k) :
    k.id = id ∧ k.name = name ∧ k.tableId = tableId ∧ k.columnIds = columnIds := by
  obtain ⟨i, hi, h⟩ := bind_eq_ok.mp h
  obtain ⟨n, hn, h⟩ := bind_eq_ok.mp h
  obtain ⟨t, ht, h⟩ := bind_eq_ok.mp h
  split at h
  · split at h
    · cases h
      exact ⟨requireNonEmpty_eq_ok hi, requireNonEmpty_eq_ok hn, requireNonEmpty_eq_ok ht, rfl⟩
    · cases h
  · cases h

theorem ForeignKey.create_self (k : ForeignKey) : ForeignKey.create k.id k.name k.tableId k.columnIds
    k.referencedTableId k.referencedColumnIds = .ok k := by
  rw [create, requireNonEmpty_ok _ k.id_nonblank, requireNonEmpty_ok _ k.name_nonblank,
    requireNonEmpty_ok _ k.tableId_nonblank, requireNonEmpty_ok _ k.referencedTableId_nonblank]
  simp only [ok_bind, dif_pos k.columnIds_nonempty, dif_pos k.referencedColumnIds_nonempty,
    dif_pos k.length_eq]
  rfl

theorem ForeignKey.create_ok {tableId referencedTableId : String}
    {columnIds referencedColumnIds : List String} {k : ForeignKey}
    (h : ForeignKey.create id name tableId columnIds referencedTableId referencedColumnIds = .ok k) :
    k.id = id ∧ k.name = name ∧ k.tableId = tableId ∧ k.columnIds = columnIds ∧
      k.referencedTableId = referencedTableId ∧ k.referencedColumnIds = referencedColumnIds := by
  obtain ⟨i, hi, h⟩ := bind_eq_ok.mp h
  obtain ⟨n, hn, h⟩ := bind_eq_ok.mp h
  obtain ⟨t, ht, h⟩ := bind_eq_ok.mp h
  obtain ⟨r, hr, h⟩ := bind_eq_ok.mp h
  split at h
  · split at h
    · split at h
      · cases h
        exact ⟨requireNonEmpty_eq_ok hi, requireNonEmpty_eq_ok hn, requireNonEmpty_eq_ok ht, rfl,
          requireNonEmpty_eq_ok hr, rfl⟩
      · cases h
    · cases h
  · cases h

theorem Relationship.create_self (r : Relationship) : Relationship.create r.id r.name r.fromTableId
    r.toTableId r.foreignKeyId r.description = .ok r := by
  rw [create, requireNonEmpty_ok _ r.id_nonblank, requireNonEmpty_ok _ r.name_nonblank,
    requireNonEmpty_ok _ r.fromTableId_nonblank, requireNonEmpty_ok _ r.toTableId_nonblank]
  rfl

theorem Relationship.create_ok {fromTableId toTableId : String} {foreignKeyId : Option String}
    {r : Relationship}
    (h : Relationship.create id name fromTableId toTableId foreignKeyId description = .ok r) :
    r.id = id ∧ r.name = name ∧ r.fromTableId = fromTableId ∧ r.toTableId = toTableId ∧
      r.foreignKeyId = foreignKeyId ∧ r.description = description := by
  obtain ⟨i, hi, h⟩ := bind_eq_ok.mp h
  obtain ⟨n, hn, h⟩ := bind_eq_ok.mp h
  obtain ⟨f, hf, h⟩ := bind_eq_ok.mp h
  obtain ⟨t, ht, h⟩ := bind_eq_ok.mp h
  cases h
  exact ⟨requireNonEmpty_eq_ok hi, requireNonEmpty_eq_ok hn, requireNonEmpty_eq_ok hf,
    requireNonEmpty_eq_ok ht, rfl, rfl⟩

theorem Table.create_self (t : Table) : Table.create t.id t.name t.schemaId t.columns t.primaryKey
    t.foreignKeys t.description t.ownership t.technicalAttributes = .ok t := by
  rw [create, requireNonEmpty_ok _ t.id_nonblank, requireNonEmpty_ok _ t.name_nonblank,
    requireNonEmpty_ok _ t.schemaId_nonblank]
  simp only [ok_bind, dif_pos t.columns_nonempty, sortBy_eq_self t.columns_sorted,
    sortBy_eq_self t.foreignKeys_sorted]
  rfl

theorem Table.create_ok {schemaId : String} {columns : List Column} {primaryKey : Option PrimaryKey}
    {foreignKeys : List ForeignKey} {ownership : Option Ownership}
    {technicalAttributes : List (String × Json)} {t : Table}
    (h : Table.create id name schemaId columns primaryKey foreignKeys description ownership
      technicalAttributes = .ok t) :
    t.id = id ∧ t.name = name ∧ t.schemaId = schemaId ∧ t.columns = sortBy Column.sortKey columns ∧
      t.primaryKey = primaryKey ∧ t.foreignKeys = sortBy ForeignKey.id foreignKeys ∧
      t.description = description ∧ t.ownership = ownership ∧
      t.technicalAttributes = technicalAttributes := by
  obtain ⟨i, hi, h⟩ := bind_eq_ok.mp h
  obtain ⟨n, hn, h⟩ := bind_eq_ok.mp h
  obtain ⟨s, hs, h⟩ := bind_eq_ok.mp h
  split at h
  · cases h
    exact ⟨requireNonEmpty_eq_ok hi, requireNonEmpty_eq_ok hn, requireNonEmpty_eq_ok hs, rfl, rfl,
      rfl, rfl, rfl, rfl⟩
  · cases h

theorem Schema.create_self (s : Schema) : Schema.create s.id s.name s.databaseId s.tables
    s.description s.ownership = .ok s := by
  rw [create, requireNonEmpty_ok _ s.id_nonblank, requireNonEmpty_ok _ s.name_nonblank,
    requireNonEmpty_ok _ s.databaseId_nonblank]
  simp only [ok_bind, sortBy_eq_self s.tables_sorted]
  rfl

theorem Schema.create_ok {databaseId : String} {tables : List Table} {ownership : Option Ownership}
    {s : Schema} (h : Schema.create id name databaseId tables description ownership = .ok s) :
    s.id = id ∧ s.name = name ∧ s.databaseId = databaseId ∧ s.tables = sortBy Table.id tables ∧
      s.description = description ∧ s.ownership = ownership := by
  obtain ⟨i, hi, h⟩ := bind_eq_ok.mp h
  obtain ⟨n, hn, h⟩ := bind_eq_ok.mp h
  obtain ⟨d, hd, h⟩ := bind_eq_ok.mp h
  cases h
  exact ⟨requireNonEmpty_eq_ok hi, requireNonEmpty_eq_ok hn, requireNonEmpty_eq_ok hd, rfl, rfl, rfl⟩

theorem Database.create_self (d : Database) : Database.create d.id d.name d.datasourceId d.schemas
    d.description d.ownership = .ok d := by
  rw [create, requireNonEmpty_ok _ d.id_nonblank, requireNonEmpty_ok _ d.name_nonblank,
    requireNonEmpty_ok _ d.datasourceId_nonblank]
  simp only [ok_bind, sortBy_eq_self d.schemas_sorted]
  rfl

theorem Database.create_ok {datasourceId : String} {schemas : List Schema}
    {ownership : Option Ownership} {d : Database}
    (h : Database.create id name datasourceId schemas description ownership = .ok d) :
    d.id = id ∧ d.name = name ∧ d.datasourceId = datasourceId ∧
      d.schemas = sortBy Schema.id schemas ∧ d.description = description ∧
      d.ownership = ownership := by
  obtain ⟨i, hi, h⟩ := bind_eq_ok.mp h
  obtain ⟨n, hn, h⟩ := bind_eq_ok.mp h
  obtain ⟨s, hs, h⟩ := bind_eq_ok.mp h
  cases h
  exact ⟨requireNonEmpty_eq_ok hi, requireNonEmpty_eq_ok hn, requireNonEmpty_eq_ok hs, rfl, rfl, rfl⟩

theorem DataSource.create_self (s : DataSource) : DataSource.create s.id s.name s.systemType
    s.databases s.description s.ownership s.technicalAttributes = .ok s := by
  rw [create, requireNonEmpty_ok _ s.id_nonblank, requireNonEmpty_ok _ s.name_nonblank,
    requireNonEmpty_ok _ s.systemType_nonblank]
  simp only [ok_bind, sortBy_eq_self s.databases_sorted]
  rfl

theorem DataSource.create_ok {systemType : String} {databases : List Database}
    {ownership : Option Ownership} {technicalAttributes : List (String × Json)} {s : DataSource}
    (h : DataSource.create id name systemType databases description ownership technicalAttributes =
      .ok s) : s.id = id ∧ s.name = name ∧ s.systemType = systemType ∧
        s.databases = sortBy Database.id databases ∧ s.description = description ∧
        s.ownership = ownership ∧ s.technicalAttributes = technicalAttributes := by
  obtain ⟨i, hi, h⟩ := bind_eq_ok.mp h
  obtain ⟨n, hn, h⟩ := bind_eq_ok.mp h
  obtain ⟨t, ht, h⟩ := bind_eq_ok.mp h
  cases h
  exact ⟨requireNonEmpty_eq_ok hi, requireNonEmpty_eq_ok hn, requireNonEmpty_eq_ok ht, rfl, rfl, rfl,
    rfl⟩

theorem GovernanceModel.create_self (m : GovernanceModel) :
    GovernanceModel.create m.dataSources m.relationships = .ok m := by
  simp only [create, dif_pos m.dataSources_nonempty, sortBy_eq_self m.dataSources_sorted,
    sortBy_eq_self m.relationships_sorted]

theorem GovernanceModel.create_ok {dataSources : List DataSource} {relationships : List Relationship}
    {m : GovernanceModel} (h : GovernanceModel.create dataSources relationships = .ok m) :
    m.dataSources = sortBy DataSource.id dataSources ∧
      m.relationships = sortBy Relationship.id relationships := by
  unfold GovernanceModel.create at h
  split at h
  · cases h
    exact ⟨rfl, rfl⟩
  · cases h

end Created
end CollibraGovernance.Domain
