import CollibraGovernance.Identity.JsonValues
import CollibraGovernance.Library.Dict
import CollibraGovernance.Library.Outcome
import CollibraGovernance.Library.PyJson
import CollibraGovernance.Library.Text

/-! Structured comparison identities: a kind and the names down to the object, never joined. -/
namespace CollibraGovernance.Comparison
open Library

inductive GovernedObjectKind where
  | dataSource | database | schema | table | column | primaryKey | foreignKey | relationship
  deriving DecidableEq

namespace GovernedObjectKind

def text : GovernedObjectKind → String
  | dataSource => "data_source"
  | database => "database"
  | schema => "schema"
  | table => "table"
  | column => "column"
  | primaryKey => "primary_key"
  | foreignKey => "foreign_key"
  | relationship => "relationship"

end GovernedObjectKind

/-- A path segment is a non-empty name. -/
structure Segment where
  val : String
  nonempty : val ≠ ""

theorem Segment.ext {a b : Segment} (h : a.val = b.val) : a = b := by
  obtain ⟨val, ha⟩ := a
  cases h
  rfl

instance : DecidableEq Segment := fun a b => decidable_of_iff (a.val = b.val)
  ⟨Segment.ext, congrArg Segment.val⟩

def Segment.of (name : String) (h : isBlank name = false) : Segment := ⟨name, ne_empty_of_not_blank h⟩

@[simp] theorem Segment.of_val (name : String) (h : isBlank name = false) :
    (Segment.of name h).val = name := rfl

/-- An identity has as many path segments as its kind asks for. -/
inductive ComparisonObjectIdentity where
  | dataSource
  | database
  | schema (schemaName : Segment)
  | table (schemaName tableName : Segment)
  | column (schemaName tableName columnName : Segment)
  | primaryKey (schemaName tableName keyName : Segment)
  | foreignKey (schemaName tableName keyName : Segment)
  | relationship (schemaName tableName relationshipName : Segment)
  deriving DecidableEq

namespace ComparisonObjectIdentity

def kind : ComparisonObjectIdentity → GovernedObjectKind
  | dataSource => .dataSource
  | database => .database
  | schema _ => .schema
  | table _ _ => .table
  | column _ _ _ => .column
  | primaryKey _ _ _ => .primaryKey
  | foreignKey _ _ _ => .foreignKey
  | relationship _ _ _ => .relationship

def path : ComparisonObjectIdentity → List Segment
  | dataSource => []
  | database => []
  | schema s => [s]
  | table s t => [s, t]
  | column s t c => [s, t, c]
  | primaryKey s t k => [s, t, k]
  | foreignKey s t k => [s, t, k]
  | relationship s t r => [s, t, r]

def segment (name : String) : Except String Segment :=
  if h : name ≠ "" then .ok ⟨name, h⟩ else .error "identity path segments must be non-empty"

/-- The constructor called with the text of a kind. -/
def create : String → List String → Except String ComparisonObjectIdentity
  | "data_source", [] => return dataSource
  | "database", [] => return database
  | "schema", [s] => return schema (← segment s)
  | "table", [s, t] => return table (← segment s) (← segment t)
  | "column", [s, t, c] => return column (← segment s) (← segment t) (← segment c)
  | "primary_key", [s, t, k] => return primaryKey (← segment s) (← segment t) (← segment k)
  | "foreign_key", [s, t, k] => return foreignKey (← segment s) (← segment t) (← segment k)
  | "relationship", [s, t, r] => return relationship (← segment s) (← segment t) (← segment r)
  | _, _ => .error "unsupported comparison kind or path arity"

def toDict (i : ComparisonObjectIdentity) : Json :=
  .obj [("kind", .str i.kind.text), ("path", .arr (i.path.map (fun s => .str s.val)))]

def canonicalBytes (i : ComparisonObjectIdentity) : String := i.toDict.canonicalJson

lemma normalize_toDict (i : ComparisonObjectIdentity) : i.toDict.normalize = i.toDict := by
  have hkeys : SortedBy id ["kind", "path"] := by decide
  rw [toDict, Json.normalize_obj_of_sorted]
  · simp [Function.comp_def]
  · exact hkeys

theorem create_self (i : ComparisonObjectIdentity) :
    create i.kind.text (i.path.map Segment.val) = .ok i := by
  have hsegment : ∀ s : Segment, segment s.val = .ok s := fun s => dif_pos s.nonempty
  cases i with
  | dataSource => rfl
  | database => rfl
  | _ =>
    simp only [kind, GovernedObjectKind.text, path, List.map_cons, List.map_nil, create, hsegment,
      ok_bind]
    rfl

theorem toDict_inj {i j : ComparisonObjectIdentity} (h : i.toDict = j.toDict) : i = j := by
  have hdict := List.cons.inj (Json.obj.inj h)
  have hkind := Json.str.inj (Prod.ext_iff.mp hdict.1).2
  have hpath := Json.arr.inj (Prod.ext_iff.mp (List.cons.inj hdict.2).1).2
  have hpath : i.path.map Segment.val = j.path.map Segment.val := by
    have hstr : Function.Injective Json.str := fun _ _ => Json.str.inj
    rw [← Function.comp_def Json.str Segment.val, ← List.map_map, ← List.map_map] at hpath
    exact List.map_injective_iff.mpr hstr hpath
  have hcreate := create_self i
  rw [hkind, hpath, create_self j] at hcreate
  exact (Except.ok.inj hcreate).symm

theorem canonicalBytes_inj : Function.Injective canonicalBytes := by
  intro i j h
  have hnormal := Json.canonicalJson_inj.mp h
  rw [normalize_toDict, normalize_toDict] at hnormal
  exact toDict_inj hnormal

/-- `_expected_parent` -/
def expectedParent : ComparisonObjectIdentity → Option ComparisonObjectIdentity
  | dataSource => none
  | database => some dataSource
  | schema _ => some database
  | table s _ => some (schema s)
  | column s t _ => some (table s t)
  | primaryKey s t _ => some (table s t)
  | foreignKey s t _ => some (table s t)
  | relationship s t _ => some (table s t)

/-- `_ancestors` -/
def ancestors : ComparisonObjectIdentity → List ComparisonObjectIdentity
  | dataSource => []
  | database => [dataSource]
  | schema _ => [database, dataSource]
  | table s _ => [schema s, database, dataSource]
  | column s t _ => [table s t, schema s, database, dataSource]
  | primaryKey s t _ => [table s t, schema s, database, dataSource]
  | foreignKey s t _ => [table s t, schema s, database, dataSource]
  | relationship s t _ => [table s t, schema s, database, dataSource]

end ComparisonObjectIdentity

/-- A property value, or no value at all. -/
inductive ComparablePropertyValue where
  | missing
  | present (value : Identity.CanonicalValue)
  deriving DecidableEq

namespace ComparablePropertyValue

def toDict : ComparablePropertyValue → Json
  | missing => .obj [("has_value", .bool false)]
  | present v => .obj [("has_value", .bool true), ("value", v.val)]

/-- `_present` -/
def of (value : Json) : ComparablePropertyValue := present (Identity.canonicalizeJsonValue value)

end ComparablePropertyValue

/-- A governed object with its comparable properties, by pointer. -/
structure ComparableObject where
  objectIdentity : ComparisonObjectIdentity
  parentIdentity : Option ComparisonObjectIdentity
  properties : Dict String ComparablePropertyValue

end CollibraGovernance.Comparison
