import CollibraGovernance.Domain.Models
import CollibraGovernance.Identity.JsonValues
import CollibraGovernance.Library.Dict

/-! A model as the list of its elements, with references of any type in place of the raw ids. -/
namespace CollibraGovernance.Domain
open Library Identity

/-- `technical_attributes` as a mapping, by key. -/
def attributesOf (attributes : List (String × Json)) : List (String × CanonicalValue) :=
  sortBy Prod.fst (Dict.index Prod.fst (fun m => canonicalizeJsonValue m.2) attributes).entries

def ownershipValue (ownership : Option Ownership) : CanonicalValue :=
  canonicalizeJsonValue (ownershipToDict ownership)

/-- One governed object with what it says of itself and the objects it refers to. -/
inductive Element (ι : Type) where
  | dataSource (id : ι) (name systemType : String) (description ownership : CanonicalValue)
      (attributes : List (String × CanonicalValue))
  | database (id datasourceId : ι) (name : String) (description ownership : CanonicalValue)
  | schema (id databaseId : ι) (name : String) (description ownership : CanonicalValue)
  | table (id schemaId : ι) (name : String) (description ownership : CanonicalValue)
      (attributes : List (String × CanonicalValue))
  | column (id tableId : ι) (name dataType : String) (ordinalPosition : Int) (nullable : Bool)
      (description : CanonicalValue) (attributes : List (String × CanonicalValue))
  | primaryKey (id tableId : ι) (name : String) (columnIds : List ι)
  | foreignKey (id tableId : ι) (name : String) (columnIds : List ι) (referencedTableId : ι)
      (referencedColumnIds : List ι)
  | relationship (id fromTableId toTableId : ι) (name : String) (foreignKeyId : Option ι)
      (description : CanonicalValue)
  deriving DecidableEq

namespace Element
variable {ι κ μ : Type}

def id : Element ι → ι
  | dataSource i _ _ _ _ _ => i
  | database i _ _ _ _ => i
  | schema i _ _ _ _ => i
  | table i _ _ _ _ _ => i
  | column i _ _ _ _ _ _ _ => i
  | primaryKey i _ _ _ => i
  | foreignKey i _ _ _ _ _ => i
  | relationship i _ _ _ _ _ => i

/-- Every reference replaced. -/
def map (f : ι → κ) : Element ι → Element κ
  | dataSource i n s d o a => dataSource (f i) n s d o a
  | database i p n d o => database (f i) (f p) n d o
  | schema i p n d o => schema (f i) (f p) n d o
  | table i p n d o a => table (f i) (f p) n d o a
  | column i p n t k z d a => column (f i) (f p) n t k z d a
  | primaryKey i p n cs => primaryKey (f i) (f p) n (cs.map f)
  | foreignKey i p n cs r rs => foreignKey (f i) (f p) n (cs.map f) (f r) (rs.map f)
  | relationship i s t n k d => relationship (f i) (f s) (f t) n (k.map f) d

/-- The references an element makes, its own id first. -/
def references : Element ι → List ι
  | dataSource i _ _ _ _ _ => [i]
  | database i p _ _ _ => [i, p]
  | schema i p _ _ _ => [i, p]
  | table i p _ _ _ _ => [i, p]
  | column i p _ _ _ _ _ _ => [i, p]
  | primaryKey i p _ cs => i :: p :: cs
  | foreignKey i p _ cs r rs => i :: p :: r :: (cs ++ rs)
  | relationship i s t _ k _ => i :: s :: t :: k.toList

@[simp] theorem id_map (f : ι → κ) (e : Element ι) : (e.map f).id = f e.id := by
  cases e <;> rfl

@[simp] theorem map_map (g : κ → μ) (f : ι → κ) (e : Element ι) : (e.map f).map g = e.map (g ∘ f) := by
  cases e <;> simp [map, Function.comp_def]

/-- Only the references that are made matter. -/
theorem map_congr {f g : ι → κ} {e : Element ι} (h : ∀ i ∈ e.references, f i = g i) :
    e.map f = e.map g := by
  cases e with
  | dataSource i n s d o a => simp_all [references, map]
  | database i p n d o => simp_all [references, map]
  | schema i p n d o => simp_all [references, map]
  | table i p n d o a => simp_all [references, map]
  | column i p n t k z d a => simp_all [references, map]
  | primaryKey i p n cs =>
    simp only [references, List.forall_mem_cons] at h
    simp only [map, h.1, h.2.1, List.map_congr_left h.2.2]
  | foreignKey i p n cs r rs =>
    simp only [references, List.forall_mem_cons, List.forall_mem_append] at h
    obtain ⟨hi, hp, hr, hcs, hrs⟩ := h
    simp only [map, hi, hp, hr, List.map_congr_left hcs, List.map_congr_left hrs]
  | relationship i s t n k d =>
    simp only [references, List.forall_mem_cons, Option.mem_toList] at h
    obtain ⟨hi, hs, ht, hk⟩ := h
    simp only [map, hi, hs, ht, Option.map_congr hk]

end Element

section Elements

def columnElement (t : Table) (c : Column) : Element String :=
  .column c.id t.id c.name c.dataType c.ordinalPosition c.nullable
    (canonicalizeJsonValue c.description) (attributesOf c.technicalAttributes)

def primaryKeyElement (k : PrimaryKey) : Element String :=
  .primaryKey k.id k.tableId k.name k.columnIds

def foreignKeyElement (k : ForeignKey) : Element String :=
  .foreignKey k.id k.tableId k.name k.columnIds k.referencedTableId k.referencedColumnIds

def relationshipElement (r : Relationship) : Element String :=
  .relationship r.id r.fromTableId r.toTableId r.name r.foreignKeyId
    (canonicalizeJsonValue r.description)

def tableElement (t : Table) : Element String :=
  .table t.id t.schemaId t.name (canonicalizeJsonValue t.description) (ownershipValue t.ownership)
    (attributesOf t.technicalAttributes)

def schemaElement (s : Schema) : Element String :=
  .schema s.id s.databaseId s.name (canonicalizeJsonValue s.description) (ownershipValue s.ownership)

def databaseElement (d : Database) : Element String :=
  .database d.id d.datasourceId d.name (canonicalizeJsonValue d.description)
    (ownershipValue d.ownership)

def dataSourceElement (s : DataSource) : Element String :=
  .dataSource s.id s.name s.systemType (canonicalizeJsonValue s.description)
    (ownershipValue s.ownership) (attributesOf s.technicalAttributes)

def tableElements (t : Table) : List (Element String) :=
  tableElement t :: (t.columns.map (columnElement t) ++ t.primaryKey.toList.map primaryKeyElement ++
    t.foreignKeys.map foreignKeyElement)

def schemaElements (s : Schema) : List (Element String) :=
  schemaElement s :: s.tables.flatMap tableElements

def databaseElements (d : Database) : List (Element String) :=
  databaseElement d :: d.schemas.flatMap schemaElements

def dataSourceElements (s : DataSource) : List (Element String) :=
  dataSourceElement s :: s.databases.flatMap databaseElements

/-- The elements of a model, containers before what they contain. -/
def elements (m : GovernanceModel) : List (Element String) :=
  m.dataSources.flatMap dataSourceElements ++ m.relationships.map relationshipElement

def elementIdsOf (m : GovernanceModel) : List String := (elements m).map Element.id

end Elements

/-- The columns and tables that keys and relationships name are there. -/
structure KeyReferences (m : GovernanceModel) : Prop where
  primaryKeys : ∀ t ∈ m.tables, ∀ k ∈ t.primaryKey, ∀ c ∈ k.columnIds, c ∈ t.columns.map Column.id
  foreignKeys : ∀ t ∈ m.tables, ∀ k ∈ t.foreignKeys, ∀ c ∈ k.columnIds, c ∈ t.columns.map Column.id
  referenced : ∀ t ∈ m.tables, ∀ k ∈ t.foreignKeys, ∃ r ∈ m.tables, r.id = k.referencedTableId ∧
    ∀ c ∈ k.referencedColumnIds, c ∈ r.columns.map Column.id
  relationships : ∀ r ∈ m.relationships, ∃ t ∈ m.tables, t.id = r.toTableId
  relationship_keys : ∀ r ∈ m.relationships, ∀ k ∈ r.foreignKeyId, ∃ t ∈ m.tables,
    ∃ f ∈ t.foreignKeys, f.id = k ∧ f.tableId = r.fromTableId ∧ f.referencedTableId = r.toTableId

/-- Every reference of the model leads to the element that is meant. -/
structure Closed (m : GovernanceModel) (source : DataSource) (database : Database) : Prop where
  dataSources : m.dataSources = [source]
  databases : source.databases = [database]
  ids : (elementIdsOf m).Nodup
  database_parent : database.datasourceId = source.id
  schema_parent : ∀ s ∈ database.schemas, s.databaseId = database.id
  table_parent : ∀ s ∈ database.schemas, ∀ t ∈ s.tables, t.schemaId = s.id
  primaryKey_table : ∀ t ∈ m.tables, ∀ k ∈ t.primaryKey, k.tableId = t.id
  foreignKey_table : ∀ t ∈ m.tables, ∀ k ∈ t.foreignKeys, k.tableId = t.id
  relationship_from : ∀ r ∈ m.relationships, ∃ t ∈ m.tables, t.id = r.fromTableId
  keys : KeyReferences m

section Shop
/-! A shop schema: customers, and orders that point at them. -/

def keyColumn (id : String) (h : isBlank id = false) : Column :=
  ⟨id, "id", "integer", 1, false, .null, [], h, by decide, by decide, by decide⟩

def customersTable : Table :=
  ⟨"tbl:customers", "customers", "sch:public", [keyColumn "col:customers.id" (by decide)], none, [],
    .null, none, [], by decide, by decide, by decide, by decide, by decide, by decide⟩

def customerKey (id : String) (h : isBlank id = false) : ForeignKey :=
  ⟨id, "customer", "tbl:orders", ["col:orders.id"], "tbl:customers", ["col:customers.id"], h,
    by decide, by decide, by decide, by decide, by decide, by decide⟩

def ordersTable (keys : List ForeignKey) (h : SortedBy ForeignKey.id keys) : Table :=
  ⟨"tbl:orders", "orders", "sch:public", [keyColumn "col:orders.id" (by decide)], none, keys,
    .null, none, [], by decide, by decide, by decide, by decide, by decide, h⟩

def customerLink (id : String) (h : isBlank id = false) : Relationship :=
  ⟨id, "customer", "tbl:orders", "tbl:customers", none, .null, h, by decide, by decide, by decide⟩

def shopModel (orders : Table) (ho : SortedBy Table.id [customersTable, orders])
    (rels : List Relationship) (hr : SortedBy Relationship.id rels) : GovernanceModel :=
  ⟨[⟨"ds:shop", "shop", "postgresql",
      [⟨"db:shop", "shop", "ds:shop",
        [⟨"sch:public", "public", "db:shop", [customersTable, orders], .null, none, by decide,
          by decide, by decide, ho⟩],
        .null, none, by decide, by decide, by decide, List.pairwise_singleton _ _⟩],
      .null, none, [], by decide, by decide, by decide, List.pairwise_singleton _ _⟩],
    rels, List.cons_ne_nil _ _, List.pairwise_singleton _ _, hr⟩

/-- Orders know their customer. -/
def customerShop : GovernanceModel :=
  shopModel (ordersTable [customerKey "fk:customer" (by decide)] (by decide)) (by decide)
    [customerLink "rel:customer" (by decide)] (by decide)

/-- Orders know their buyer and their payer, both customers. -/
def buyerAndPayerShop : GovernanceModel :=
  shopModel
    (ordersTable [customerKey "fk:buyer" (by decide), customerKey "fk:payer" (by decide)]
      (by decide)) (by decide)
    [customerLink "rel:buyer" (by decide), customerLink "rel:payer" (by decide)] (by decide)

/-- Orders know nobody. -/
def anonymousShop : GovernanceModel :=
  shopModel (ordersTable [] (by decide)) (by decide) [] (by decide)

example : (elementIdsOf buyerAndPayerShop).length = 11 := by decide

end Shop
end CollibraGovernance.Domain
