import CollibraGovernance.Domain.Created
import CollibraGovernance.Domain.Elements
import CollibraGovernance.Library.PyJson

/-! A model with the members of its descriptions and technical attributes in key order. Python mappings with the same
members are equal, so that this is the same model. -/
namespace CollibraGovernance.Domain
open Library

def Column.canonical (c : Column) : Column :=
  { c with
    description := c.description.normalize
    technicalAttributes := Json.sortedMembers c.technicalAttributes }

@[simp] lemma Column.id_canonical (c : Column) : c.canonical.id = c.id := rfl

lemma Column.sortKey_canonical (c : Column) : c.canonical.sortKey = c.sortKey := rfl

def Table.canonical (t : Table) : Table :=
  { t with
    columns := t.columns.map Column.canonical
    description := t.description.normalize
    technicalAttributes := Json.sortedMembers t.technicalAttributes
    columns_nonempty := fun h => t.columns_nonempty (List.map_eq_nil_iff.mp h)
    columns_sorted := (SortedBy.map Column.sortKey_canonical).mpr t.columns_sorted }

lemma sortedBy_nil {α κ : Type*} [LinearOrder κ] {key : α → κ} : SortedBy key [] := List.Pairwise.nil

/-- The table before its foreign keys are known. -/
def Table.unlinked (t : Table) : Table :=
  { t.canonical with
    foreignKeys := []
    foreignKeys_sorted := sortedBy_nil }

lemma Table.id_canonical (t : Table) : t.canonical.id = t.id := rfl

lemma Table.id_unlinked (t : Table) : t.unlinked.id = t.id := rfl

def Schema.canonical (s : Schema) : Schema :=
  { s with
    tables := s.tables.map Table.canonical
    description := s.description.normalize
    tables_sorted := (SortedBy.map Table.id_canonical).mpr s.tables_sorted }

/-- The schema before the foreign keys of its tables are known. -/
def Schema.unlinked (s : Schema) : Schema :=
  { s with
    tables := s.tables.map Table.unlinked
    description := s.description.normalize
    tables_sorted := (SortedBy.map Table.id_unlinked).mpr s.tables_sorted }

lemma Schema.id_canonical (s : Schema) : s.canonical.id = s.id := rfl

def Database.canonical (d : Database) : Database :=
  { d with
    schemas := d.schemas.map Schema.canonical
    description := d.description.normalize
    schemas_sorted := (SortedBy.map Schema.id_canonical).mpr d.schemas_sorted }

lemma Database.id_canonical (d : Database) : d.canonical.id = d.id := rfl

def DataSource.canonical (s : DataSource) : DataSource :=
  { s with
    databases := s.databases.map Database.canonical
    description := s.description.normalize
    technicalAttributes := Json.sortedMembers s.technicalAttributes
    databases_sorted := (SortedBy.map Database.id_canonical).mpr s.databases_sorted }

lemma DataSource.id_canonical (s : DataSource) : s.canonical.id = s.id := rfl

def Relationship.canonical (r : Relationship) : Relationship :=
  { r with description := r.description.normalize }

lemma Relationship.id_canonical (r : Relationship) : r.canonical.id = r.id := rfl

def GovernanceModel.canonical (m : GovernanceModel) : GovernanceModel :=
  { m with
    dataSources := m.dataSources.map DataSource.canonical
    relationships := m.relationships.map Relationship.canonical
    dataSources_nonempty := fun h => m.dataSources_nonempty (List.map_eq_nil_iff.mp h)
    dataSources_sorted := (SortedBy.map DataSource.id_canonical).mpr m.dataSources_sorted
    relationships_sorted := (SortedBy.map Relationship.id_canonical).mpr m.relationships_sorted }

section Written
/-! Both models are written as one document. -/

/-- Technical attributes are written in key order. -/
@[simp] lemma normalize_attributes (attributes : List (String × Json)) :
    (Json.obj (sortBy Prod.fst attributes)).normalize = .obj (Json.sortedMembers attributes) := by
  rw [Json.normalize_obj_eq, Json.sortedMembers_sortBy]

lemma normalize_canonicalAttributes (attributes : List (String × Json)) :
    (Json.obj (sortBy Prod.fst (Json.sortedMembers attributes))).normalize =
      (Json.obj (sortBy Prod.fst attributes)).normalize := by
  rw [normalize_attributes, normalize_attributes, Json.sortedMembers_idem]

lemma map_toDict_canonical {α : Type} {canonical : α → α} {toDict : α → Json} {xs : List α}
    (h : ∀ x, (toDict (canonical x)).normalize = (toDict x).normalize) :
    (Json.arr ((xs.map canonical).map toDict)).normalize = (Json.arr (xs.map toDict)).normalize := by
  simp [h, Function.comp_def]

lemma Column.toDict_canonical (c : Column) : c.canonical.toDict.normalize = c.toDict.normalize := by
  apply Json.normalize_obj_congr
  simp only [List.map_cons, List.map_nil, canonical, Json.normalize_idem, normalize_canonicalAttributes]

lemma Table.toDict_canonical (t : Table) : t.canonical.toDict.normalize = t.toDict.normalize := by
  apply Json.normalize_obj_congr
  simp only [List.map_cons, List.map_nil, canonical, Json.normalize_idem, normalize_canonicalAttributes,
    map_toDict_canonical Column.toDict_canonical]

lemma Schema.toDict_canonical (s : Schema) : s.canonical.toDict.normalize = s.toDict.normalize := by
  apply Json.normalize_obj_congr
  simp only [List.map_cons, List.map_nil, canonical, Json.normalize_idem,
    map_toDict_canonical Table.toDict_canonical]

lemma Database.toDict_canonical (d : Database) : d.canonical.toDict.normalize = d.toDict.normalize := by
  apply Json.normalize_obj_congr
  simp only [List.map_cons, List.map_nil, canonical, Json.normalize_idem,
    map_toDict_canonical Schema.toDict_canonical]

lemma DataSource.toDict_canonical (s : DataSource) : s.canonical.toDict.normalize = s.toDict.normalize := by
  apply Json.normalize_obj_congr
  simp only [List.map_cons, List.map_nil, canonical, Json.normalize_idem, normalize_canonicalAttributes,
    map_toDict_canonical Database.toDict_canonical]

lemma Relationship.toDict_canonical (r : Relationship) : r.canonical.toDict.normalize = r.toDict.normalize := by
  apply Json.normalize_obj_congr
  simp only [List.map_cons, List.map_nil, canonical, Json.normalize_idem]

theorem GovernanceModel.toDict_canonical (m : GovernanceModel) :
    m.canonical.toDict.normalize = m.toDict.normalize := by
  apply Json.normalize_obj_congr
  simp only [List.map_cons, List.map_nil, canonical, map_toDict_canonical DataSource.toDict_canonical,
    map_toDict_canonical Relationship.toDict_canonical]

end Written
end CollibraGovernance.Domain
