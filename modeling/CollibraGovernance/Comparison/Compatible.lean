import CollibraGovernance.Comparison.Properties

/-! Which properties a change may name for each kind of object, and which values they may have. -/
namespace CollibraGovernance.Comparison
open Library Domain Identity

/-- `_FIXED_PATHS` -/
def fixedPaths : GovernedObjectKind → List String
  | .dataSource => ["/name", "/system_type", "/description", "/ownership"]
  | .database => ["/name", "/description", "/ownership"]
  | .schema => ["/name", "/description", "/ownership"]
  | .table => ["/name", "/description", "/ownership"]
  | .column => ["/name", "/data_type", "/ordinal_position", "/nullable", "/description"]
  | .primaryKey => ["/name", "/column_ids"]
  | .foreignKey => ["/name", "/column_ids", "/referenced_table_id", "/referenced_column_ids"]
  | .relationship => ["/name", "/to_table_id", "/foreign_key_id", "/description"]

/-- `_TECHNICAL_ATTRIBUTES_KINDS` -/
def technicalAttributesKind : GovernedObjectKind → Bool
  | .dataSource => true
  | .table => true
  | .column => true
  | _ => false

/-- `_NAME_ALLOWED_KINDS` -/
def nameAllowedKind : GovernedObjectKind → Bool
  | .dataSource => true
  | .database => true
  | _ => false

def isTechnicalAttributePointer (pointer : String) : Bool :=
  "/technical_attributes/".toList.isPrefixOf pointer.toList

def propertyPathCompatibleWithKind (kind : GovernedObjectKind) (pointer : String) : Bool :=
  if isTechnicalAttributePointer pointer then
    technicalAttributesKind kind &&
      match parsePointer pointer with
      | .ok [first, _] => first = "technical_attributes"
      | _ => false
  else (fixedPaths kind).contains pointer

def comparisonChangePropertyCompatibleWithKind (kind : GovernedObjectKind) (pointer : String) : Bool :=
  if kind = .dataSource ∧ pointer = "/system_type" then false
  else if pointer = "/name" ∧ nameAllowedKind kind = false then false
  else propertyPathCompatibleWithKind kind pointer

/-- The members of an object are the given ones. -/
def hasExactly (members : List (String × Json)) (keys : List String) : Bool :=
  members.all (fun m => keys.contains m.1) && keys.all (fun k => (Json.lookup members k).isSome)

def nonWhitespaceString : Json → Bool
  | .str s => strip s ≠ ""
  | _ => false

def pathTexts (items : List Json) : Option (List String) :=
  items.mapM (fun item => match item with
    | .str s => some s
    | _ => none)

/-- `_parse_identity_dict` -/
def parseIdentityDict : Json → Option ComparisonObjectIdentity
  | .obj members =>
    if hasExactly members ["kind", "path"] then
      match Json.get members "kind", Json.get members "path" with
      | .str kind, .arr items =>
        (pathTexts items).bind (fun path => (ComparisonObjectIdentity.create kind path).toOption)
      | _, _ => none
    else none
  | _ => none

def validOwnershipValue : Json → Bool
  | .null => true
  | .obj members => hasExactly members ["owner_name", "owner_type"] &&
      nonWhitespaceString (Json.get members "owner_name") &&
        nonWhitespaceString (Json.get members "owner_type")
  | _ => false

/-- The items of a list of columns; `shared` is the table of the ones before. -/
def validColumnItems (requiredTablePrefix : Option (List Segment)) (requireSameTablePrefix : Bool) :
    Option (List Segment) → List Json → Bool
  | _, [] => true
  | shared, item :: rest =>
    match parseIdentityDict item with
    | none => false
    | some i =>
      if i.kind ≠ .column then false
      else if requiredTablePrefix.any (fun required => i.path.take 2 ≠ required) then false
      else if requireSameTablePrefix then
        match shared with
        | none => validColumnItems requiredTablePrefix requireSameTablePrefix (some (i.path.take 2)) rest
        | some table => i.path.take 2 = table &&
            validColumnItems requiredTablePrefix requireSameTablePrefix (some table) rest
      else validColumnItems requiredTablePrefix requireSameTablePrefix shared rest

def validColumnIdentityList (value : Json) (requireNonEmpty : Bool)
    (requiredTablePrefix : Option (List Segment)) (requireSameTablePrefix : Bool) : Bool :=
  match value with
  | .arr items => !(requireNonEmpty && items.isEmpty) &&
      validColumnItems requiredTablePrefix requireSameTablePrefix none items
  | _ => false

def validTableIdentity (value : Json) : Bool :=
  match parseIdentityDict value with
  | some i => i.kind = .table
  | none => false

def validForeignKeyIdentity (value : Json) (relationshipTablePrefix : Option (List Segment)) : Bool :=
  match value with
  | .null => true
  | _ =>
    match parseIdentityDict value with
    | some i => i.kind = .foreignKey &&
        relationshipTablePrefix.all (fun table => i.path.take 2 = table)
    | none => false

/-- `_valid_fixed_value`; a JSON document has only values that a description may have. -/
def validFixedValue (pointer : String) (value : Json) (i : ComparisonObjectIdentity) : Bool :=
  match pointer with
  | "/name" => nonWhitespaceString value
  | "/description" => true
  | "/ownership" => validOwnershipValue value
  | "/data_type" => nonWhitespaceString value
  | "/ordinal_position" =>
    match value with
    | .int n => 1 ≤ n
    | _ => false
  | "/nullable" =>
    match value with
    | .bool _ => true
    | _ => false
  | "/column_ids" => validColumnIdentityList value true (some (i.path.take 2)) false
  | "/referenced_table_id" => validTableIdentity value
  | "/referenced_column_ids" => validColumnIdentityList value true none true
  | "/to_table_id" => validTableIdentity value
  | "/foreign_key_id" => validForeignKeyIdentity value (some (i.path.take 2))
  | _ => false

/-- One side of a property change has a value that the comparison could have written. -/
def comparableChangeValueCompatible (i : ComparisonObjectIdentity) (pointer : String) : Json → Bool
  | .obj members =>
    match Json.get members "has_value" with
    | .bool true =>
      if (Json.lookup members "value").isNone ∨ members.length ≠ 2 then false
      else if isTechnicalAttributePointer pointer then true
      else comparisonChangePropertyCompatibleWithKind i.kind pointer &&
        validFixedValue pointer (Json.get members "value") i
    | .bool false =>
      if members.length ≠ 1 ∨ (Json.lookup members "value").isSome then false
      else isTechnicalAttributePointer pointer
    | _ => false
  | _ => false

def membersOf : Json → List (String × Json)
  | .obj members => members
  | _ => []

/-- The first change of the given property. -/
def changeOf (propertyChanges : List Json) (pointer : String) : Option Json :=
  propertyChanges.find? (fun c => Json.get (membersOf c) "property" = .str pointer)

/-- The columns of one side lie in the table of that side, when it has both. -/
def referenceSideCoherent (tableSide columnSide : Json) : Bool :=
  match tableSide, columnSide with
  | .obj table, .obj column =>
    if (Json.get table "has_value").truthy && (Json.get column "has_value").truthy then
      match parseIdentityDict (Json.get table "value"), Json.get column "value" with
      | some t, .arr items => items.all (fun item =>
          (parseIdentityDict item).any (fun c => c.path.take 2 = t.path))
      | _, _ => false
    else true
  | _, _ => false

def foreignKeyReferenceSidesCoherent (propertyChanges : List Json) : Bool :=
  match changeOf propertyChanges "/referenced_table_id",
      changeOf propertyChanges "/referenced_column_ids" with
  | some tableChange, some columnChange => ["baseline", "candidate"].all (fun side =>
      referenceSideCoherent (Json.get (membersOf tableChange) side) (Json.get (membersOf columnChange) side))
  | _, _ => true

end CollibraGovernance.Comparison
