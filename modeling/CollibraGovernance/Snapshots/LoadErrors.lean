import CollibraGovernance.Snapshots.Load

/-! Which documents make the snapshot loader stop with an exception that is none of its own. -/
namespace CollibraGovernance.Snapshots
open Library Domain Identity

/-- The exceptions that are no `SnapshotError`. -/
def IsUncaught : SnapshotFailure → Prop
  | .uncaught _ => True
  | _ => False

/-- A member that is a text which is not empty. -/
def TextAt (mapping : List (String × Json)) (key text : String) : Prop :=
  Json.get mapping key = .str text ∧ text ≠ ""

section Checks

@[simp] lemma not_fails_payloadError {α : Type} {message path : String} :
    ¬ Fails IsUncaught (payloadError message path : Loaded α) := fun h => fails_error.mp h

lemma fails_raised {α : Type} {x : Except String α} :
    Fails IsUncaught (raised x) ↔ Fails (fun _ => True) x := fails_mapError

lemma raised_ok {α : Type} {x : Except String α} {a : α} : raised x = .ok a ↔ x = .ok a := mapError_eq_ok

@[simp] lemma not_fails_requireMapping {value : Json} {path : String} :
    ¬ Fails IsUncaught (requireMapping value path) := by
  cases value <;> first | exact not_fails_ok | exact not_fails_payloadError

@[simp] lemma not_fails_requireList {value : Json} {path : String} : ¬ Fails IsUncaught (requireList value path) := by
  cases value <;> first | exact not_fails_ok | exact not_fails_payloadError

@[simp] lemma not_fails_requireInt {value : Json} {path : String} : ¬ Fails IsUncaught (requireInt value path) := by
  cases value <;> first | exact not_fails_ok | exact not_fails_payloadError

@[simp] lemma not_fails_requireBool {value : Json} {path : String} : ¬ Fails IsUncaught (requireBool value path) := by
  cases value <;> first | exact not_fails_ok | exact not_fails_payloadError

@[simp] lemma not_fails_requireText {value : Json} {path : String} : ¬ Fails IsUncaught (requireText value path) := by
  unfold requireText
  refine not_fails_bind ?_ fun text => ?_
  · cases value <;> first | exact not_fails_ok | exact not_fails_payloadError
  · split_ifs
    · exact not_fails_payloadError
    · exact not_fails_ok

@[simp] lemma not_fails_textField {mapping : List (String × Json)} {key path : String} :
    ¬ Fails IsUncaught (textField mapping key path) := not_fails_requireText

@[simp] lemma not_fails_registerId {seen : List String} {id path : String} :
    ¬ Fails IsUncaught (registerId seen id path) := by
  unfold registerId
  split_ifs
  · exact not_fails_payloadError
  · exact not_fails_ok

@[simp] lemma not_fails_technicalAttributes {mapping : List (String × Json)} {path : String} :
    ¬ Fails IsUncaught (technicalAttributesFromDict mapping path) := not_fails_requireMapping

@[simp] lemma not_fails_parentId {mapping : List (String × Json)} {key message path parent : String} :
    ¬ Fails IsUncaught (parentId mapping key message path parent) := by
  refine not_fails_bind not_fails_textField fun found => ?_
  split_ifs
  · exact not_fails_ok
  · exact not_fails_payloadError

@[simp] lemma not_fails_columnIds {known : List String} {message path : String} {raw : List Json} :
    ¬ Fails IsUncaught (columnIdsFromList known message path raw) := by
  unfold columnIdsFromList
  rw [fails_mapM]
  rintro ⟨_, _, _, -, -, h⟩
  refine not_fails_bind not_fails_requireText (fun id => ?_) h
  split_ifs
  · exact not_fails_ok
  · exact not_fails_payloadError

@[simp] lemma requireMapping_ok {value : Json} {path : String} {members : List (String × Json)} :
    requireMapping value path = .ok members ↔ value = .obj members := by
  cases value <;> simp [requireMapping, payloadError]

@[simp] lemma requireList_ok {value : Json} {path : String} {items : List Json} :
    requireList value path = .ok items ↔ value = .arr items := by
  cases value <;> simp [requireList, payloadError]

@[simp] lemma requireInt_ok {value : Json} {path : String} {i : Int} :
    requireInt value path = .ok i ↔ value = .int i := by
  cases value <;> simp [requireInt, payloadError]

@[simp] lemma requireBool_ok {value : Json} {path : String} {b : Bool} :
    requireBool value path = .ok b ↔ value = .bool b := by
  cases value <;> simp [requireBool, payloadError]

lemma requireText_ok {value : Json} {path text : String} :
    requireText value path = .ok text ↔ value = .str text ∧ text ≠ "" := by
  unfold requireText
  cases value with
  | str s =>
    rw [show requireStr (.str s) path = .ok s from rfl, ok_bind]
    by_cases hs : s = ""
    · subst hs
      simp [payloadError, eq_comm]
    · simp only [hs, if_false, Except.ok.injEq, Json.str.injEq]
      constructor
      · rintro rfl
        exact ⟨rfl, hs⟩
      · exact And.left
  | _ => simp [requireStr, payloadError, bind, Except.bind]

@[simp] lemma textField_ok {mapping : List (String × Json)} {key path text : String} :
    textField mapping key path = .ok text ↔ TextAt mapping key text := requireText_ok

@[simp] lemma registerId_ok {seen seen' : List String} {id path : String} :
    registerId seen id path = .ok seen' ↔ id ∉ seen ∧ seen' = seen ++ [id] := by
  unfold registerId
  split_ifs with h <;> simp [h, payloadError, eq_comm]

@[simp] lemma technicalAttributes_ok {mapping attributes : List (String × Json)} {path : String} :
    technicalAttributesFromDict mapping path = .ok attributes ↔
      getOr mapping "technical_attributes" (.obj []) = .obj attributes := requireMapping_ok

@[simp] lemma parentId_ok {mapping : List (String × Json)} {key message path parent found : String} :
    parentId mapping key message path parent = .ok found ↔ TextAt mapping key parent ∧ found = parent := by
  unfold parentId
  rw [bind_eq_ok]
  simp only [textField_ok]
  constructor
  · rintro ⟨text, htext, h⟩
    split_ifs at h with heq
    · cases h
      exact ⟨heq ▸ htext, heq⟩
    · cases h
  · rintro ⟨htext, rfl⟩
    exact ⟨found, htext, if_pos rfl⟩

/-- A resolved column id is a text among the known ones. -/
lemma columnId_ok {known : List String} {message path id : String} {raw : Json} :
    (requireText raw path >>= fun columnId =>
      if columnId ∈ known then .ok columnId else payloadError message path) = .ok id ↔
      raw = .str id ∧ id ≠ "" ∧ id ∈ known := by
  rw [bind_eq_ok]
  constructor
  · rintro ⟨text, htext, h⟩
    obtain ⟨rfl, hne⟩ := requireText_ok.mp htext
    split_ifs at h with hmem
    · cases h
      exact ⟨rfl, hne, hmem⟩
    · cases h
  · rintro ⟨rfl, hne, hmem⟩
    exact ⟨id, requireText_ok.mpr ⟨rfl, hne⟩, if_pos hmem⟩

@[simp] lemma columnIds_ok {known : List String} {message path : String} {raw : List Json} {ids : List String} :
    columnIdsFromList known message path raw = .ok ids ↔
      raw = ids.map .str ∧ ∀ id ∈ ids, id ≠ "" ∧ id ∈ known := by
  suffices h : ∀ k : Nat, (raw.zipIdx k).mapM (fun entry => requireText entry.1 (path ++ "/" ++ toString entry.2) >>=
      fun columnId => if columnId ∈ known then Except.ok columnId
        else payloadError message (path ++ "/" ++ toString entry.2)) = .ok ids ↔
      raw = ids.map .str ∧ ∀ id ∈ ids, id ≠ "" ∧ id ∈ known from h 0
  induction raw generalizing ids with
  | nil =>
    intro k
    cases ids <;> simp [pure_eq_ok]
  | cons x raw ih =>
    intro k
    rw [List.zipIdx_cons, List.mapM_cons, bind_eq_ok]
    constructor
    · rintro ⟨first, hfirst, h⟩
      obtain ⟨rest, hrest, h⟩ := bind_eq_ok.mp h
      cases pure_eq_ok.mp h
      obtain ⟨rfl, hid⟩ := columnId_ok.mp hfirst
      obtain ⟨rfl, hids⟩ := (ih (k + 1)).mp hrest
      exact ⟨rfl, List.forall_mem_cons.mpr ⟨hid, hids⟩⟩
    · rintro ⟨h, hids⟩
      cases ids with
      | nil => cases h
      | cons id ids =>
        cases h
        obtain ⟨hid, hids⟩ := List.forall_mem_cons.mp hids
        exact ⟨id, columnId_ok.mpr ⟨rfl, hid⟩, bind_eq_ok.mpr ⟨ids, (ih (k + 1)).mpr ⟨rfl, hids⟩, rfl⟩⟩

end Checks
section Constructors
/-! What the constructors of the domain refuse. -/

variable {p : String → Prop}

/-- A name that has to be there stops the construction when it is blank. -/
lemma refuses_name {α : Type} {value fieldName : String} {next : NonBlank → Except String α} {refused : Prop}
    (h : ∀ name, Fails (fun _ => True) (next name) ↔ refused) :
    Fails (fun _ => True) (requireNonEmpty value fieldName >>= next) ↔ isBlank value = true ∨ refused := by
  unfold requireNonEmpty
  split_ifs with hblank
  · rw [ok_bind, h, hblank]
    simp
  · refine iff_of_true (fails_bind.mpr (Or.inl (fails_error.mpr trivial))) (Or.inl ?_)
    simpa using hblank

lemma refuses_none {α : Type} {a : α} : Fails (fun _ => True) (pure a : Except String α) ↔ False :=
  iff_of_false not_fails_pure id

lemma ownership_refused {ownerName ownerType : String} :
    Fails (fun _ => True) (Ownership.create ownerName ownerType) ↔
      isBlank ownerName = true ∨ isBlank ownerType = true := by
  unfold Ownership.create
  rw [refuses_name fun _ => refuses_name fun _ => refuses_none, or_false]

lemma column_refused {id name dataType : String} {ordinal : Int} {nullable : Bool} {description : Json}
    {attributes : List (String × Json)} :
    Fails (fun _ => True) (Column.create id name dataType ordinal nullable description attributes) ↔
      isBlank id = true ∨ isBlank name = true ∨ isBlank dataType = true ∨ ordinal < 1 := by
  unfold Column.create
  refine refuses_name fun _ => refuses_name fun _ => refuses_name fun _ => ?_
  split_ifs with h
  · exact iff_of_false not_fails_pure (by omega)
  · exact iff_of_true (fails_error.mpr trivial) (by omega)

lemma primaryKey_refused {id name tableId : String} {columnIds : List String} :
    Fails (fun _ => True) (PrimaryKey.create id name tableId columnIds) ↔
      isBlank id = true ∨ isBlank name = true ∨ isBlank tableId = true ∨
        (columnIds = [] ∨ ∃ c ∈ columnIds, isBlank c = true) := by
  unfold PrimaryKey.create
  refine refuses_name fun _ => refuses_name fun _ => refuses_name fun _ => ?_
  split_ifs with hne hblank
  · refine iff_of_false not_fails_pure ?_
    rintro (h | ⟨c, hc, h⟩)
    · exact hne h
    · rw [hblank c hc] at h
      cases h
  · refine iff_of_true (fails_error.mpr trivial) (Or.inr ?_)
    by_contra hno
    refine hblank fun c hc => ?_
    cases hc' : isBlank c with
    | false => rfl
    | true => exact absurd ⟨c, hc, hc'⟩ hno
  · exact iff_of_true (fails_error.mpr trivial) (Or.inl (not_not.mp hne))

lemma foreignKey_refused {id name tableId referencedTableId : String} {columnIds referencedColumnIds : List String}
    (hlength : columnIds.length = referencedColumnIds.length) :
    Fails (fun _ => True) (ForeignKey.create id name tableId columnIds referencedTableId referencedColumnIds) ↔
      isBlank id = true ∨ isBlank name = true ∨ isBlank tableId = true ∨ isBlank referencedTableId = true ∨
        columnIds = [] := by
  unfold ForeignKey.create
  refine refuses_name fun _ => refuses_name fun _ => refuses_name fun _ => refuses_name fun _ => ?_
  split_ifs with hc hr
  · exact iff_of_false not_fails_pure hc
  · refine iff_of_true (fails_error.mpr trivial) ?_
    rw [← List.length_eq_zero_iff, hlength, List.length_eq_zero_iff]
    exact not_not.mp hr
  · exact iff_of_true (fails_error.mpr trivial) (not_not.mp hc)

lemma table_refused {id name schemaId : String} {columns : List Column} {primaryKey : Option PrimaryKey}
    {foreignKeys : List ForeignKey} {description : Json} {ownership : Option Ownership}
    {attributes : List (String × Json)} :
    Fails (fun _ => True) (Table.create id name schemaId columns primaryKey foreignKeys description ownership
      attributes) ↔ isBlank id = true ∨ isBlank name = true ∨ isBlank schemaId = true ∨ columns = [] := by
  unfold Table.create
  refine refuses_name fun _ => refuses_name fun _ => refuses_name fun _ => ?_
  split_ifs with h
  · exact iff_of_false not_fails_pure h
  · exact iff_of_true (fails_error.mpr trivial) (not_not.mp h)

lemma schema_refused {id name databaseId : String} {tables : List Table} {description : Json}
    {ownership : Option Ownership} :
    Fails (fun _ => True) (Schema.create id name databaseId tables description ownership) ↔
      isBlank id = true ∨ isBlank name = true ∨ isBlank databaseId = true := by
  unfold Schema.create
  rw [refuses_name fun _ => refuses_name fun _ => refuses_name fun _ => refuses_none, or_false]

lemma database_refused {id name datasourceId : String} {schemas : List Schema} {description : Json}
    {ownership : Option Ownership} :
    Fails (fun _ => True) (Database.create id name datasourceId schemas description ownership) ↔
      isBlank id = true ∨ isBlank name = true ∨ isBlank datasourceId = true := by
  unfold Database.create
  rw [refuses_name fun _ => refuses_name fun _ => refuses_name fun _ => refuses_none, or_false]

lemma dataSource_refused {id name systemType : String} {databases : List Database} {description : Json}
    {ownership : Option Ownership} {attributes : List (String × Json)} :
    Fails (fun _ => True) (DataSource.create id name systemType databases description ownership attributes) ↔
      isBlank id = true ∨ isBlank name = true ∨ isBlank systemType = true := by
  unfold DataSource.create
  rw [refuses_name fun _ => refuses_name fun _ => refuses_name fun _ => refuses_none, or_false]

end Constructors

/-! Faults: records that pass every check of the loader, but not those of their constructor. -/

/-- A member that has to be an object, if it is there. -/
def AttributesAt (mapping : List (String × Json)) : Prop :=
  ∃ attributes, getOr mapping "technical_attributes" (.obj []) = .obj attributes

def OwnershipFault (raw : Json) : Prop :=
  ∃ mapping ownerName ownerType, raw = .obj mapping ∧ TextAt mapping "owner_name" ownerName ∧
    getOr mapping "owner_type" (.str "role") = .str ownerType ∧ ownerType ≠ "" ∧
    (isBlank ownerName = true ∨ isBlank ownerType = true)

def ColumnFault (seen : List String) (raw : Json) : Prop :=
  ∃ mapping id name dataType ordinal nullable, raw = .obj mapping ∧ TextAt mapping "id" id ∧ id ∉ seen ∧
    TextAt mapping "name" name ∧ TextAt mapping "data_type" dataType ∧
    Json.get mapping "ordinal_position" = .int ordinal ∧ Json.get mapping "nullable" = .bool nullable ∧
    AttributesAt mapping ∧ (isBlank id = true ∨ isBlank name = true ∨ isBlank dataType = true ∨ ordinal < 1)

lemma fails_ownership {raw : Json} {path : String} :
    Fails IsUncaught (ownershipFromDict raw path) ↔ OwnershipFault raw := by
  cases raw with
  | null => exact iff_of_false not_fails_ok (by rintro ⟨_, _, _, h, -⟩; cases h)
  | _ => simp [ownershipFromDict, fails_bind, requireText_ok, fails_raised, ownership_refused, OwnershipFault, and_assoc]

lemma fails_column {seen : List String} {raw : Json} {path : String} :
    Fails IsUncaught (columnFromDict path seen raw) ↔ ColumnFault seen raw := by
  simp [columnFromDict, fails_bind, fails_raised, column_refused, ColumnFault, AttributesAt, and_assoc]

def PrimaryKeyFault (tableId : String) (columnIds seen : List String) (raw : Json) : Prop :=
  ∃ mapping id ids name, raw = .obj mapping ∧ TextAt mapping "id" id ∧ id ∉ seen ∧
    TextAt mapping "table_id" tableId ∧ Json.get mapping "column_ids" = .arr (ids.map .str) ∧
    (∀ c ∈ ids, c ≠ "" ∧ c ∈ columnIds) ∧ TextAt mapping "name" name ∧
    (isBlank id = true ∨ isBlank name = true ∨ isBlank tableId = true ∨ ids = [] ∨ ∃ c ∈ ids, isBlank c = true)

def ForeignKeyFault (tables : List ParsedTable) (tableId : String) (seen : List String) (raw : Json) : Prop :=
  ∃ (mapping : List (String × Json)) (id : String) (ids : List String) (referencedTableId : String)
    (referencedIds : List String) (name : String), raw = .obj mapping ∧ TextAt mapping "id" id ∧ id ∉ seen ∧
    TextAt mapping "table_id" tableId ∧ Json.get mapping "column_ids" = .arr (ids.map .str) ∧
    (∀ c ∈ ids, c ≠ "" ∧ c ∈ columnsByTable tables tableId) ∧
    TextAt mapping "referenced_table_id" referencedTableId ∧
    referencedTableId ∈ tables.map (fun t => t.table.id) ∧
    Json.get mapping "referenced_column_ids" = .arr (referencedIds.map .str) ∧
    (∀ c ∈ referencedIds, c ≠ "" ∧ c ∈ columnsByTable tables referencedTableId) ∧
    ids.length = referencedIds.length ∧ TextAt mapping "name" name ∧
    (isBlank id = true ∨ isBlank name = true ∨ isBlank tableId = true ∨ isBlank referencedTableId = true ∨ ids = [])

lemma fails_primaryKey {path tableId : String} {columnIds seen : List String} {raw : Json} :
    Fails IsUncaught (primaryKeyFromDict path tableId columnIds seen raw) ↔
      PrimaryKeyFault tableId columnIds seen raw := by
  simp [primaryKeyFromDict, fails_bind, fails_raised, primaryKey_refused, PrimaryKeyFault, and_assoc]

lemma fails_foreignKey {tables : List ParsedTable} {path tableId : String} {seen : List String} {raw : Json} :
    Fails IsUncaught (foreignKeyFromDict tables path tableId seen raw) ↔
      ForeignKeyFault tables tableId seen raw := by
  have hrefused : ∀ (id referencedTableId : String) (ids referencedIds : List String) (named : String → Prop),
      (ids.length = referencedIds.length ∧ ∃ name, named name ∧
        Fails (fun _ => True) (ForeignKey.create id name tableId ids referencedTableId referencedIds)) ↔
      (ids.length = referencedIds.length ∧ ∃ name, named name ∧ (isBlank id = true ∨ isBlank name = true ∨
        isBlank tableId = true ∨ isBlank referencedTableId = true ∨ ids = [])) := by
    intro id referencedTableId ids referencedIds named
    apply and_congr_right
    intro hlength
    simp only [foreignKey_refused hlength]
  simp [foreignKeyFromDict, fails_bind, fails_raised, hrefused, ForeignKeyFault, fails_ite, and_assoc]

/-- The columns listed in a table. -/
def columnsRead (path : String) (seen : List String) (raw : List Json) : Loaded (List Column × List String) :=
  readEach (fun index => columnFromDict (path ++ "/columns/" ++ toString index)) 0 seen raw

/-- A table whose first unreadable part is a record with a fault, or which has one itself. -/
def TableFault (path schemaId : String) (seen : List String) (raw : Json) : Prop :=
  ∃ mapping id listed, raw = .obj mapping ∧ TextAt mapping "id" id ∧ id ∉ seen ∧
    TextAt mapping "schema_id" schemaId ∧ Json.get mapping "columns" = .arr listed ∧
    (FirstFaultFrom (fun index => columnFromDict (path ++ "/columns/" ++ toString index))
        (fun _ => ColumnFault) 0 (seen ++ [id]) listed ∨
      ∃ columns seen', columnsRead path (seen ++ [id]) listed = .ok (columns, seen') ∧
        (PrimaryKeyFault id (columns.map Column.id) seen' (Json.get mapping "primary_key") ∨
          ∃ primaryKey foreignKeys name, primaryKeyOf (path ++ "/primary_key") id (columns.map Column.id) seen'
              (Json.get mapping "primary_key") = .ok primaryKey ∧
            Json.get mapping "foreign_keys" = .arr foreignKeys ∧ TextAt mapping "name" name ∧
            (OwnershipFault (Json.get mapping "ownership") ∨
              ((∃ ownership, ownershipFromDict (Json.get mapping "ownership") (path ++ "/ownership") = .ok ownership) ∧
                AttributesAt mapping ∧
                (isBlank id = true ∨ isBlank name = true ∨ isBlank schemaId = true ∨ columns = [])))))

lemma fails_primaryKeyOf {path tableId : String} {columnIds seen : List String} {raw : Json} :
    Fails IsUncaught (primaryKeyOf path tableId columnIds seen raw) ↔ PrimaryKeyFault tableId columnIds seen raw := by
  cases raw with
  | null => exact iff_of_false not_fails_ok (by rintro ⟨_, _, _, _, h, -⟩; cases h)
  | _ => simp [primaryKeyOf, fails_primaryKey]

lemma fails_table {path schemaId : String} {seen : List String} {raw : Json} :
    Fails IsUncaught (tableFromDict path schemaId seen raw) ↔ TableFault path schemaId seen raw := by
  simp [tableFromDict, fails_bind, fails_raised, fails_readEach, fails_column, fails_primaryKeyOf, fails_ownership,
    table_refused, TableFault, columnsRead, AttributesAt, and_assoc]

def SchemaFault (path databaseId : String) (seen : List String) (raw : Json) : Prop :=
  ∃ mapping id listed, raw = .obj mapping ∧ TextAt mapping "id" id ∧ id ∉ seen ∧
    TextAt mapping "database_id" databaseId ∧ Json.get mapping "tables" = .arr listed ∧
    (FirstFaultFrom (fun index => tableFromDict (path ++ "/tables/" ++ toString index) id)
        (fun index => TableFault (path ++ "/tables/" ++ toString index) id) 0 (seen ++ [id]) listed ∨
      ((∃ tables, readEach (fun index => tableFromDict (path ++ "/tables/" ++ toString index) id) 0 (seen ++ [id])
          listed = .ok tables) ∧
        ∃ name, TextAt mapping "name" name ∧
          (OwnershipFault (Json.get mapping "ownership") ∨
            ((∃ ownership, ownershipFromDict (Json.get mapping "ownership") (path ++ "/ownership") = .ok ownership) ∧
              (isBlank id = true ∨ isBlank name = true ∨ isBlank databaseId = true)))))

lemma fails_schema {path databaseId : String} {seen : List String} {raw : Json} :
    Fails IsUncaught (schemaFromDict path databaseId seen raw) ↔ SchemaFault path databaseId seen raw := by
  simp [schemaFromDict, fails_bind, fails_raised, fails_readEach, fails_table, fails_ownership, schema_refused,
    SchemaFault, and_assoc]

lemma ok_or_refused {α : Type} (x : Except String α) : (∃ a, x = .ok a) ∨ Fails (fun _ => True) x := by
  cases x with
  | error e => exact Or.inr (fails_error.mpr trivial)
  | ok a => exact Or.inl ⟨a, rfl⟩

/-- What was read once is built again with its foreign keys. -/
lemma exists_rebuildTable (foreignKeys : List ForeignKey) (t : Table) :
    ∃ rebuilt, rebuildTable foreignKeys t = .ok rebuilt := by
  simp only [rebuildTable, raised_ok]
  refine (ok_or_refused _).resolve_right ?_
  rw [table_refused, t.id_nonblank, t.name_nonblank, t.schemaId_nonblank]
  simp [t.columns_nonempty]

lemma exists_rebuildSchema (foreignKeys : List ForeignKey) (s : Schema) :
    ∃ rebuilt, rebuildSchema foreignKeys s = .ok rebuilt := by
  obtain ⟨tables, htables⟩ : ∃ tables, s.tables.mapM (rebuildTable foreignKeys) = .ok tables :=
    exists_mapM_ok fun t _ => exists_rebuildTable foreignKeys t
  simp only [rebuildSchema, htables, ok_bind, raised_ok]
  refine (ok_or_refused _).resolve_right ?_
  rw [schema_refused, s.id_nonblank, s.name_nonblank, s.databaseId_nonblank]
  simp

lemma exists_rebuilt (foreignKeys : List ForeignKey) (schemas : List ParsedSchema) :
    ∃ rebuilt, schemas.mapM (fun s => rebuildSchema foreignKeys s.schema) = .ok rebuilt :=
  exists_mapM_ok fun s _ => exists_rebuildSchema foreignKeys s.schema

/-- The data source or its database, once everything in them is read. -/
def DataSourceFault (roots : Roots) : Prop :=
  OwnershipFault (Json.get roots.database "ownership") ∨
    (∃ ownership, ownershipFromDict (Json.get roots.database "ownership") (databasePath ++ "/ownership") =
      .ok ownership) ∧
    (isBlank roots.databaseId = true ∨ isBlank roots.databaseName = true ∨ isBlank roots.dataSourceId = true ∨
      OwnershipFault (Json.get roots.dataSource "ownership") ∨
        ((∃ ownership, ownershipFromDict (Json.get roots.dataSource "ownership") (dataSourcePath ++ "/ownership") =
          .ok ownership) ∧
        AttributesAt roots.dataSource ∧
        (isBlank roots.dataSourceName = true ∨ isBlank roots.dataSourceSystemType = true)))

/-- The first unreadable record of a data source has a fault. -/
def RootsFault (roots : Roots) : Prop :=
  FirstFaultFrom (fun index => schemaFromDict (schemaPath index) roots.databaseId)
      (fun index => SchemaFault (schemaPath index) roots.databaseId) 0 roots.seen roots.schemas ∨
    ∃ schemas seen, readEach (fun index => schemaFromDict (schemaPath index) roots.databaseId) 0 roots.seen
        roots.schemas = .ok (schemas, seen) ∧
      let tables := schemas.flatMap ParsedSchema.tables
      (FirstFaultFrom (fun _ seen entry => foreignKeyFromDict tables entry.2.2 entry.1 seen entry.2.1)
          (fun _ seen entry => ForeignKeyFault tables entry.1 seen entry.2.1) 0 seen (pendingForeignKeys tables) ∨
        ((∃ foreignKeys, foreignKeysFromDict tables seen = .ok foreignKeys) ∧ DataSourceFault roots))

lemma fails_dataSource {roots : Roots} {schemas : List Schema} :
    Fails IsUncaught (dataSourceFromDict roots schemas) ↔ DataSourceFault roots := by
  have hdatabase : ∀ (description : Json) (ownership : Option Ownership) (rest : Prop),
      ((isBlank roots.databaseId = true ∨ isBlank roots.databaseName = true ∨ isBlank roots.dataSourceId = true) ∨
        (∃ database, Database.create roots.databaseId roots.databaseName roots.dataSourceId schemas description
          ownership = .ok database) ∧ rest) ↔
      (isBlank roots.databaseId = true ∨ isBlank roots.databaseName = true ∨ isBlank roots.dataSourceId = true ∨
        rest) := by
    intro description ownership rest
    have hcases := ok_or_refused (Database.create roots.databaseId roots.databaseName roots.dataSourceId schemas
      description ownership)
    rw [database_refused] at hcases
    tauto
  simp [dataSourceFromDict, fails_bind, fails_raised, raised_ok, fails_ownership, database_refused, dataSource_refused,
    DataSourceFault, AttributesAt]
  simp only [hdatabase, exists_and_right]
  tauto

lemma fails_roots {roots : Roots} :
    Fails IsUncaught (schemasFromDict roots) ∨
        (∃ read, schemasFromDict roots = .ok read) ∧ DataSourceFault roots ↔ RootsFault roots := by
  have hrebuilt : ∀ (schemas : List ParsedSchema) (foreignKeys : List ForeignKey),
      ¬ Fails IsUncaught (schemas.mapM (fun s => rebuildSchema foreignKeys s.schema)) := by
    intro schemas foreignKeys
    obtain ⟨rebuilt, h⟩ := exists_rebuilt foreignKeys schemas
    rw [h]
    exact not_fails_ok
  have hread : (∃ read, schemasFromDict roots = .ok read) ↔
      ∃ schemas seen, readEach (fun index => schemaFromDict (schemaPath index) roots.databaseId) 0 roots.seen
        roots.schemas = .ok (schemas, seen) ∧
        ∃ foreignKeys, foreignKeysFromDict (schemas.flatMap ParsedSchema.tables) seen = .ok foreignKeys := by
    constructor
    · rintro ⟨read, h⟩
      obtain ⟨⟨schemas, seen⟩, hschemas, h⟩ := bind_eq_ok.mp h
      obtain ⟨foreignKeys, hforeign, -⟩ := bind_eq_ok.mp h
      exact ⟨schemas, seen, hschemas, foreignKeys, hforeign⟩
    · rintro ⟨schemas, seen, hschemas, foreignKeys, hforeign⟩
      obtain ⟨rebuilt, hrebuilt⟩ := exists_rebuilt foreignKeys.1 schemas
      refine ⟨_, bind_eq_ok.mpr ⟨_, hschemas, bind_eq_ok.mpr ⟨_, hforeign, bind_eq_ok.mpr ⟨_, hrebuilt, rfl⟩⟩⟩⟩
  have hfails : Fails IsUncaught (schemasFromDict roots) ↔
      FirstFaultFrom (fun index => schemaFromDict (schemaPath index) roots.databaseId)
        (fun index => SchemaFault (schemaPath index) roots.databaseId) 0 roots.seen roots.schemas ∨
      ∃ schemas seen, readEach (fun index => schemaFromDict (schemaPath index) roots.databaseId) 0 roots.seen
          roots.schemas = .ok (schemas, seen) ∧
        let tables := schemas.flatMap ParsedSchema.tables
        FirstFaultFrom (fun _ seen entry => foreignKeyFromDict tables entry.2.2 entry.1 seen entry.2.1)
          (fun _ seen entry => ForeignKeyFault tables entry.1 seen entry.2.1) 0 seen (pendingForeignKeys tables) := by
    simp [schemasFromDict, foreignKeysFromDict, fails_bind, fails_readEach, fails_schema, fails_foreignKey, hrebuilt]
  rw [hfails, hread, RootsFault, or_assoc]
  apply or_congr Iff.rfl
  simp only [← exists_and_right, ← exists_or]
  apply exists_congr
  intro schemas
  apply exists_congr
  intro seen
  simp only [exists_and_right, and_assoc, ← and_or_left]

lemma not_fails_onlyEntry {raw : Json} {message path : String} : ¬ Fails IsUncaught (onlyEntry raw message path) := by
  refine not_fails_bind not_fails_requireList fun entries => ?_
  split
  · exact not_fails_ok
  · exact not_fails_payloadError

lemma not_fails_rootsFromDict {governance : List (String × Json)} : ¬ Fails IsUncaught (rootsFromDict governance) := by
  simp [rootsFromDict, fails_bind, not_fails_onlyEntry]

lemma not_fails_envelope {payload : List (String × Json)} : ¬ Fails IsUncaught (envelopeFromDict payload) := by
  simp [envelopeFromDict, fails_bind, fails_ite]

/-- What these constructors refuse is reported as a fault of the payload. -/
lemma not_fails_reported {α : Type} {x : Except String α} {path : String} :
    ¬ Fails IsUncaught (x.mapError (fun message => payloadFailure message path)) := by
  rw [fails_mapError]
  rintro ⟨_, -, h⟩
  exact h

lemma not_fails_relationshipForeignKey {foreignKeys : List ForeignKey} {path fromTableId toTableId : String}
    {raw : Json} : ¬ Fails IsUncaught (relationshipForeignKey foreignKeys path fromTableId toTableId raw) := by
  cases raw with
  | null => exact not_fails_ok
  | _ =>
    refine not_fails_bind not_fails_requireText fun id => ?_
    cases foreignKeys.find? (fun k => k.id = id) with
    | none => exact not_fails_payloadError
    | some key =>
      dsimp only
      split_ifs
      · exact not_fails_payloadError
      · exact not_fails_payloadError
      · exact not_fails_ok

lemma not_fails_knownTableId {tableIds : List String} {id message path : String} :
    ¬ Fails IsUncaught (knownTableId tableIds id message path) := by
  unfold knownTableId
  split_ifs
  · exact not_fails_ok
  · exact not_fails_payloadError

lemma not_fails_relationship {tableIds : List String} {foreignKeys : List ForeignKey} {path : String}
    {seen : List String} {raw : Json} :
    ¬ Fails IsUncaught (relationshipFromDict tableIds foreignKeys path seen raw) := by
  simp [relationshipFromDict, fails_bind, not_fails_knownTableId, not_fails_relationshipForeignKey, not_fails_reported]

lemma not_fails_model {governance : List (String × Json)} {dataSource : DataSource} {tables : List ParsedTable}
    {foreignKeys : List ForeignKey} {seen : List String} :
    ¬ Fails IsUncaught (modelFromDict governance dataSource tables foreignKeys seen) := by
  refine not_fails_bind not_fails_requireList fun listed => not_fails_bind ?_ fun relationships => not_fails_reported
  rw [fails_readEach]
  rintro ⟨_, _, _, _, _, -, -, h⟩
  exact not_fails_relationship h

lemma not_fails_envelopeMatches {envelope : Envelope} {dataSource : DataSource} {database : Database} :
    ¬ Fails IsUncaught (envelopeMatches envelope dataSource database) := by
  simp [envelopeMatches, fails_ite]

/-- A payload with a readable envelope, whose data source has a fault. -/
def PayloadFault (payload : List (String × Json)) : Prop :=
  ∃ envelope roots, envelopeFromDict payload = .ok envelope ∧ rootsFromDict envelope.governance = .ok roots ∧
    RootsFault roots

lemma fails_payload {payload : List (String × Json)} :
    Fails IsUncaught (validateAndParseSnapshotPayload payload) ↔ PayloadFault payload := by
  simp [validateAndParseSnapshotPayload, fails_bind, not_fails_envelope, not_fails_rootsFromDict, fails_dataSource,
    not_fails_envelopeMatches, not_fails_model, PayloadFault, ← fails_roots]

section Load
variable {sha256 : String → String} {schemaErrors : Json → List JsonSchema.Failure}

lemma not_fails_checkIdentity {payload identity : List (String × Json)} :
    ¬ Fails IsUncaught (checkIdentity sha256 payload identity) := by
  have hmismatch : ¬ Fails IsUncaught (identityMismatch : Loaded Unit) := fun h => fails_error.mp h
  unfold checkIdentity
  dsimp only
  split
  · split_ifs
    · exact not_fails_ok
    · exact hmismatch
  · exact hmismatch

lemma not_fails_checkEnvelope {payload : List (String × Json)} :
    ¬ Fails IsUncaught (checkEnvelope sha256 schemaErrors payload) := by
  have hcompatibility : ∀ message code path, ¬ Fails IsUncaught (compatibilityError message code path : Loaded Unit) :=
    fun _ _ _ h => fails_error.mp h
  unfold checkEnvelope
  split_ifs
  · exact hcompatibility _ _ _
  · exact hcompatibility _ _ _
  · split
    · refine not_fails_bind ?_ fun _ => not_fails_checkIdentity
      unfold validateSnapshotSchema
      split
      · exact hcompatibility _ _ _
      · exact not_fails_ok
    · exact hcompatibility _ _ _

/-- The content identity of a payload is the one computed from its other members. -/
def CarriesIdentity (sha256 : String → String) (payload : List (String × Json)) : Prop :=
  let expected := snapshotIdentity sha256 (.obj (payload.filter (fun m => m.1 ≠ "content_identity")))
  ∃ identity, Json.get payload "content_identity" = .obj identity ∧
    Json.get identity "algorithm" = .str expected.algorithm ∧
    Json.get identity "hashing_contract_version" = .str expected.hashingContractVersion ∧
    Json.get identity "digest" = .str expected.digest

lemma checkIdentity_ok {payload identity : List (String × Json)}
    (hidentity : Json.get payload "content_identity" = .obj identity) :
    checkIdentity sha256 payload identity = .ok () ↔ CarriesIdentity sha256 payload := by
  unfold checkIdentity CarriesIdentity
  simp only [hidentity, Json.obj.injEq, exists_eq_left']
  split
  · rename_i algorithm version digest halgorithm hversion hdigest
    rw [halgorithm, hversion, hdigest]
    simp only [Json.str.injEq]
    split_ifs with h
    · exact iff_of_true rfl ⟨congrArg ContentIdentity.algorithm h, congrArg ContentIdentity.hashingContractVersion h,
        congrArg ContentIdentity.digest h⟩
    · refine iff_of_false (by simp [identityMismatch]) ?_
      rintro ⟨rfl, rfl, rfl⟩
      exact h rfl
  · rename_i hno
    refine iff_of_false (by simp [identityMismatch]) ?_
    rintro ⟨halgorithm, hversion, hdigest⟩
    exact hno _ _ _ halgorithm hversion hdigest

lemma validateSnapshotSchema_ok (hvalidator : ∀ d, schemaErrors d = [] ↔ snapshotSchemaAccepts d = true)
    (document : Json) : validateSnapshotSchema schemaErrors document = .ok () ↔ snapshotSchemaAccepts document = true := by
  have hreported : reportedFailure (schemaErrors document) = none ↔ schemaErrors document = [] := by
    rw [reportedFailure, List.head?_eq_none_iff]
    constructor
    · intro h
      exact List.Perm.nil_eq (h ▸ sortBy_perm _ (schemaErrors document)) |>.symm
    · intro h
      rw [h]
      rfl
  rw [← hvalidator, ← hreported]
  unfold validateSnapshotSchema
  cases reportedFailure (schemaErrors document) <;> simp [compatibilityError]

/-- A payload is parsed when the schema accepts it and it carries its identity. -/
lemma checkEnvelope_ok (hvalidator : ∀ d, schemaErrors d = [] ↔ snapshotSchemaAccepts d = true)
    (payload : List (String × Json)) : checkEnvelope sha256 schemaErrors payload = .ok () ↔
      snapshotSchemaAccepts (.obj payload) = true ∧ CarriesIdentity sha256 payload := by
  have htext : ∀ {key expected : String}, snapshotSchemaAccepts (.obj payload) = true →
      (⟨key, true, JsonSchema.texts [expected]⟩ : JsonSchema.Property) ∈
        [⟨"snapshot_schema", true, JsonSchema.texts [snapshotSchema]⟩,
          ⟨"snapshot_version", true, JsonSchema.texts [snapshotVersion]⟩] →
      Json.get payload key = .str expected := by
    intro key expected haccepts hmem
    obtain ⟨v, hv, haccept⟩ := JsonSchema.lookup_of_object haccepts (by decide)
      (List.mem_of_mem_take (i := 2) hmem) rfl
    rw [Json.get_of_lookup hv]
    cases v <;> simp [JsonSchema.texts] at haccept
    rw [haccept]
  constructor
  · intro h
    unfold checkEnvelope at h
    split_ifs at h
    · cases h
    · cases h
    · cases hidentity : Json.get payload "content_identity" with
      | obj identity =>
        rw [hidentity] at h
        obtain ⟨⟨⟩, hschema, hcheck⟩ := bind_eq_ok.mp h
        exact ⟨(validateSnapshotSchema_ok hvalidator _).mp hschema, (checkIdentity_ok hidentity).mp hcheck⟩
      | _ =>
        rw [hidentity] at h
        cases h
  · rintro ⟨haccepts, hcarries⟩
    obtain ⟨identity, hidentity, -⟩ := id hcarries
    unfold checkEnvelope
    rw [if_neg (not_not.mpr (htext haccepts (by simp))), if_neg (not_not.mpr (htext haccepts (by simp))), hidentity]
    dsimp only
    rw [(validateSnapshotSchema_ok hvalidator _).mpr haccepts, ok_bind]
    exact (checkIdentity_ok hidentity).mpr hcarries

/-- A document whose keys are distinct, that the schema accepts and that carries its identity, and whose first
unreadable record passes every check of the loader but not those of its constructor. -/
def UnguardedRecord (sha256 : String → String) (document : Json) : Prop :=
  ∃ payload, document = .obj payload ∧ document.uniqueKeys = true ∧ snapshotSchemaAccepts document = true ∧
    CarriesIdentity sha256 payload ∧ PayloadFault payload

/-- The loader raises one of its own errors or returns a snapshot, except for records whose constructor refuses what
the checks let through: blank names. -/
theorem snapshot_errors_total_iff (hvalidator : ∀ d, schemaErrors d = [] ↔ snapshotSchemaAccepts d = true)
    (document : Json) :
    (∀ message, loadSnapshotArtifact sha256 schemaErrors document ≠ .error (.uncaught message)) ↔
      ¬ UnguardedRecord sha256 document := by
  have hfails : (∀ message, loadSnapshotArtifact sha256 schemaErrors document ≠ .error (.uncaught message)) ↔
      ¬ Fails IsUncaught (loadSnapshotArtifact sha256 schemaErrors document) := by
    constructor
    · rintro h ⟨e, he, huncaught⟩
      cases e with
      | uncaught message => exact h message he
      | _ => exact huncaught
    · intro h message hmessage
      exact h ⟨_, hmessage, trivial⟩
  have hrefused : ∀ message code path, ¬ Fails IsUncaught
      (compatibilityError message code path : Loaded GovernanceSnapshot) := fun _ _ _ h => fails_error.mp h
  rw [hfails, not_iff_not]
  unfold loadSnapshotArtifact UnguardedRecord
  by_cases hkeys : document.uniqueKeys = false
  · rw [if_pos hkeys]
    refine iff_of_false (hrefused _ _ _) ?_
    rintro ⟨_, -, hunique, -⟩
    rw [hkeys] at hunique
    cases hunique
  · rw [if_neg hkeys]
    rw [Bool.not_eq_false] at hkeys
    cases document with
    | obj payload =>
      rw [fails_bind]
      simp only [not_fails_checkEnvelope, false_or, fails_payload, Json.obj.injEq, exists_eq_left', hkeys, true_and]
      constructor
      · rintro ⟨⟨⟩, hchecked, hfault⟩
        obtain ⟨haccepts, hcarries⟩ := (checkEnvelope_ok hvalidator payload).mp hchecked
        exact ⟨haccepts, hcarries, hfault⟩
      · rintro ⟨haccepts, hcarries, hfault⟩
        exact ⟨(), (checkEnvelope_ok hvalidator payload).mpr ⟨haccepts, hcarries⟩, hfault⟩
    | _ =>
      refine iff_of_false (hrefused _ _ _) ?_
      rintro ⟨_, h, -⟩
      cases h

end Load
/-- A snapshot of one table, with one column of the given name. -/
def columnSnapshot (columnName : String) : Json :=
  .obj [("snapshot_schema", .str snapshotSchema), ("snapshot_version", .str snapshotVersion),
    ("source", .obj [("name", .str "shop"), ("database", .str "orders"), ("system_type", .str "postgresql")]),
    ("scan", .obj [("scanner", .str "postgresql"), ("scanner_contract_version", .str "1")]),
    ("governance", .obj [("data_sources", .arr [.obj [("id", .str "ds:shop"), ("name", .str "shop"),
      ("system_type", .str "postgresql"), ("databases", .arr [.obj [("id", .str "db:shop/orders"),
        ("name", .str "orders"), ("datasource_id", .str "ds:shop"), ("schemas", .arr [.obj [("id", .str "sch"),
          ("name", .str "public"), ("database_id", .str "db:shop/orders"), ("tables", .arr [.obj [("id", .str "tbl"),
            ("name", .str "lines"), ("schema_id", .str "sch"), ("columns", .arr [.obj [("id", .str "col"),
              ("name", .str columnName), ("data_type", .str "text"), ("ordinal_position", .int 1),
              ("nullable", .bool true), ("description", .null), ("technical_attributes", .obj [])]]),
            ("primary_key", .null), ("foreign_keys", .arr []), ("description", .null), ("ownership", .null),
            ("technical_attributes", .obj [])]]), ("description", .null), ("ownership", .null)]]),
        ("description", .null), ("ownership", .null)]]), ("description", .null), ("ownership", .null),
      ("technical_attributes", .obj [])]]), ("relationships", .arr [])]),
    ("content_identity", .obj [("algorithm", .str "sha256"), ("hashing_contract_version", .str "1"),
      ("digest", .str (String.ofList (List.replicate 64 'a')))])]

/-- Reports something of exactly the documents that the schema refuses. -/
def snapshotValidator (document : Json) : List JsonSchema.Failure :=
  if snapshotSchemaAccepts document then [] else [⟨"type", []⟩]

lemma snapshotValidator_iff (document : Json) :
    snapshotValidator document = [] ↔ snapshotSchemaAccepts document = true := by
  unfold snapshotValidator
  split_ifs with h <;> simp [h]

/-- A column named by a space: not empty for the schema and the loader, but blank for the constructor. -/
theorem blank_column_uncaught : loadSnapshotArtifact (fun _ => String.ofList (List.replicate 64 'a'))
    snapshotValidator (columnSnapshot " ") = .error (.uncaught "name is required") := by
  rfl

/-- A column with a proper name. -/
theorem named_column_guarded : ¬ UnguardedRecord (fun _ => String.ofList (List.replicate 64 'a'))
    (columnSnapshot "quantity") := by
  refine (snapshot_errors_total_iff snapshotValidator_iff (columnSnapshot "quantity")).mp ?_
  intro message h
  have hloaded : (loadSnapshotArtifact (fun _ => String.ofList (List.replicate 64 'a')) snapshotValidator
      (columnSnapshot "quantity")).toOption.isSome = true := rfl
  rw [h] at hloaded
  cases hloaded

end CollibraGovernance.Snapshots
