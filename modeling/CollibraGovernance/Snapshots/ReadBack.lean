import CollibraGovernance.Domain.Canonical
import CollibraGovernance.Snapshots.LoadErrors

/-! Each record of a written snapshot is read back, provided its ids are new. -/
namespace CollibraGovernance.Snapshots
open Library Domain Identity

section Fields
variable {members : List (String × Json)} {key path text : String} {seen : List String}

lemma get_written {j : Json} (h : Json.lookup members key = some j) :
    Json.get (Json.sortedMembers members) key = j.normalize := by
  rw [Json.get_sortedMembers, Json.get_of_lookup h]

lemma getOr_written {j default : Json} (h : Json.lookup members key = some j) :
    getOr (Json.sortedMembers members) key default = j.normalize := by
  rw [getOr, Json.lookup_sortedMembers, h]
  rfl

lemma textField_written (h : Json.lookup members key = some (.str text)) (hne : isBlank text = false) :
    textField (Json.sortedMembers members) key path = .ok text :=
  textField_ok.mpr ⟨get_written h, ne_empty_of_not_blank hne⟩

lemma parentId_written {message parent : String} (h : Json.lookup members key = some (.str text))
    (hne : isBlank text = false) (hparent : text = parent) :
    parentId (Json.sortedMembers members) key message path parent = .ok text :=
  parentId_ok.mpr ⟨hparent ▸ ⟨get_written h, ne_empty_of_not_blank hne⟩, hparent⟩

lemma registerId_new {id : String} (h : (seen ++ [id]).Nodup) : registerId seen id path = .ok (seen ++ [id]) :=
  registerId_ok.mpr ⟨fun hmem => (List.disjoint_of_nodup_append h) hmem (List.mem_singleton_self id), rfl⟩

lemma intField_written {i : Int} (h : Json.lookup members key = some (.int i)) :
    requireInt (Json.get (Json.sortedMembers members) key) path = .ok i := by
  rw [requireInt_ok, get_written h]
  rfl

lemma boolField_written {b : Bool} (h : Json.lookup members key = some (.bool b)) :
    requireBool (Json.get (Json.sortedMembers members) key) path = .ok b := by
  rw [requireBool_ok, get_written h]
  rfl

/-- A list of documents is written entry by entry. -/
lemma listField_written {items : List Json} (h : Json.lookup members key = some (.arr items)) :
    requireList (Json.get (Json.sortedMembers members) key) path = .ok (items.map Json.normalize) := by
  rw [requireList_ok, get_written h, Json.normalize_arr]

lemma normalize_ids (ids : List String) : (ids.map Json.str).map Json.normalize = ids.map .str := by
  rw [List.map_map]
  rfl

lemma columnIds_written {known : List String} {message : String} {ids : List String}
    (hknown : ∀ id ∈ ids, id ∈ known) (hproper : ∀ id ∈ known, isBlank id = false) :
    columnIdsFromList known message path (ids.map .str) = .ok ids :=
  columnIds_ok.mpr ⟨rfl, fun id hid => ⟨ne_empty_of_not_blank (hproper id (hknown id hid)), hknown id hid⟩⟩

lemma description_written {j : Json} (h : Json.lookup members key = some j) :
    descriptionFromValue (Json.get (Json.sortedMembers members) key) = j.normalize := by
  rw [get_written h, descriptionFromValue, Json.normalize_idem]

lemma technicalAttributes_written {attributes : List (String × Json)}
    (h : Json.lookup members "technical_attributes" = some (.obj (sortBy Prod.fst attributes))) :
    technicalAttributesFromDict (Json.sortedMembers members) path = .ok (Json.sortedMembers attributes) := by
  rw [technicalAttributes_ok, getOr_written h, normalize_attributes]

lemma ownership_written {ownership : Option Ownership}
    (h : Json.lookup members key = some (ownershipToDict ownership)) :
    ownershipFromDict (Json.get (Json.sortedMembers members) key) path = .ok ownership := by
  rw [get_written h]
  cases ownership with
  | none => rfl
  | some o =>
    have hname : textField (Json.sortedMembers [("owner_name", .str o.ownerName), ("owner_type", .str o.ownerType)])
        "owner_name" path = .ok o.ownerName := textField_written rfl o.ownerName_nonblank
    have htype : requireText (getOr (Json.sortedMembers [("owner_name", .str o.ownerName),
        ("owner_type", .str o.ownerType)]) "owner_type" (.str "role")) (path ++ "/owner_type") = .ok o.ownerType := by
      rw [getOr_written rfl]
      exact requireText_ok.mpr ⟨rfl, ne_empty_of_not_blank o.ownerType_nonblank⟩
    rw [ownershipToDict, Ownership.toDict, Json.normalize_obj_eq, ownershipFromDict]
    · rw [requireMapping_ok.mpr rfl, ok_bind, hname, ok_bind, htype, ok_bind, o.create_self]
      rfl
    · intro h
      cases h

end Fields

section Records
variable {path : String} {seen : List String}

theorem column_readBack (c : Column) (h : (seen ++ [c.id]).Nodup) :
    columnFromDict path seen c.toDict.normalize = .ok (c.canonical, seen ++ [c.id]) := by
  have hcreated : raised (Column.create c.id c.name c.dataType c.ordinalPosition c.nullable c.description.normalize
      (Json.sortedMembers c.technicalAttributes)) = .ok c.canonical := raised_ok.mpr c.canonical.create_self
  rw [Column.toDict, Json.normalize_obj_eq, columnFromDict, requireMapping_ok.mpr rfl, ok_bind,
    textField_written rfl c.id_nonblank, ok_bind, registerId_new h, ok_bind, textField_written rfl c.name_nonblank,
    ok_bind, textField_written rfl c.dataType_nonblank, ok_bind, intField_written (i := c.ordinalPosition) rfl,
    ok_bind, boolField_written (b := c.nullable) rfl, ok_bind, technicalAttributes_written rfl, ok_bind,
    description_written rfl, hcreated]
  rfl

/-- The ids of the columns of a table. -/
def columnIdsOf (t : Table) : List String := t.columns.map Column.id

lemma columnIdsOf_proper (t : Table) : ∀ id ∈ columnIdsOf t, isBlank id = false := by
  intro id hid
  obtain ⟨c, -, rfl⟩ := List.mem_map.mp hid
  exact c.id_nonblank

theorem primaryKey_readBack {t : Table} {k : PrimaryKey} (htable : k.tableId = t.id)
    (hcolumns : ∀ c ∈ k.columnIds, c ∈ columnIdsOf t) (h : (seen ++ [k.id]).Nodup) :
    primaryKeyFromDict path t.id (columnIdsOf t) seen k.toDict.normalize = .ok (k, seen ++ [k.id]) := by
  rw [PrimaryKey.toDict, Json.normalize_obj_eq, primaryKeyFromDict, requireMapping_ok.mpr rfl, ok_bind,
    textField_written rfl k.id_nonblank, ok_bind, registerId_new h, ok_bind,
    parentId_written rfl k.tableId_nonblank htable, ok_bind, listField_written rfl, ok_bind, normalize_ids,
    columnIds_written hcolumns (columnIdsOf_proper t), ok_bind, textField_written rfl k.name_nonblank, ok_bind,
    raised_ok.mpr k.create_self]
  rfl

/-- The ids of the optional primary key. -/
def primaryKeyIds (t : Table) : List String := t.primaryKey.toList.map PrimaryKey.id

theorem primaryKeyOf_readBack {t : Table} (htable : ∀ k ∈ t.primaryKey, k.tableId = t.id)
    (hcolumns : ∀ k ∈ t.primaryKey, ∀ c ∈ k.columnIds, c ∈ columnIdsOf t) (h : (seen ++ primaryKeyIds t).Nodup) :
    primaryKeyOf path t.id (columnIdsOf t) seen (primaryKeyToDict t.primaryKey).normalize =
      .ok (t.primaryKey, seen ++ primaryKeyIds t) := by
  unfold primaryKeyIds at h ⊢
  cases hkey : t.primaryKey with
  | none => exact congrArg (fun ids => Except.ok (none, ids)) (List.append_nil seen).symm
  | some k =>
    rw [hkey] at h
    have hread : primaryKeyFromDict path t.id (columnIdsOf t) seen k.toDict.normalize = .ok (k, seen ++ [k.id]) :=
      primaryKey_readBack (htable k hkey) (hcolumns k hkey) h
    rw [primaryKeyToDict, PrimaryKey.toDict, Json.normalize_obj_eq] at *
    rw [primaryKeyOf]
    · rw [hread]
      rfl
    · intro h
      cases h

/-- What a table brings before the foreign keys are read. -/
def tableIds (t : Table) : List String := t.id :: (columnIdsOf t ++ primaryKeyIds t)

/-- A table as read, with the foreign keys that wait to be read. -/
structure ParsedFrom (t : Table) (p : ParsedTable) : Prop where
  table : p.table = t.unlinked
  columnIds : p.columnIds = columnIdsOf t
  pending : p.pending.map Prod.fst = t.foreignKeys.map (Json.normalize ∘ ForeignKey.toDict)

/-- What a table says of itself and its keys is coherent. -/
structure TableClosed (schemaId : String) (t : Table) : Prop where
  parent : t.schemaId = schemaId
  primaryKey_table : ∀ k ∈ t.primaryKey, k.tableId = t.id
  primaryKey_columns : ∀ k ∈ t.primaryKey, ∀ c ∈ k.columnIds, c ∈ columnIdsOf t

/-- Reading the columns of a table gives them all, under the ids that were new. -/
lemma columns_readBack (t : Table) (h : (seen ++ columnIdsOf t).Nodup) :
    readEach (fun index => columnFromDict (path ++ "/columns/" ++ toString index)) 0 seen
      (t.columns.map (Json.normalize ∘ Column.toDict)) = .ok (t.columns.map Column.canonical, seen ++ columnIdsOf t) := by
  have hcolumns : t.columns.flatMap (fun c => [c.id]) = columnIdsOf t := List.map_eq_flatMap.symm
  have hentries : List.Forall₂ (fun (c : Column) raw => ∀ (i : Nat) (seen : List String), (seen ++ [c.id]).Nodup →
      ∃ y, columnFromDict (path ++ "/columns/" ++ toString i) seen raw = .ok (y, seen ++ [c.id]) ∧ c.canonical = y)
      t.columns (t.columns.map (Json.normalize ∘ Column.toDict)) := by
    rw [List.forall₂_map_right_iff]
    exact List.forall₂_same.mpr fun c _ i seen hnew => ⟨_, column_readBack c hnew, rfl⟩
  obtain ⟨ys, hread, hys⟩ := readEach_written hentries 0 seen (by rwa [hcolumns])
  rw [hread, hcolumns, eq_map_of_forall₂ hys]

theorem table_readBack {schemaId : String} {t : Table} (hclosed : TableClosed schemaId t)
    (h : (seen ++ tableIds t).Nodup) : ∃ p, tableFromDict path schemaId seen t.toDict.normalize =
      .ok (p, seen ++ tableIds t) ∧ ParsedFrom t p := by
  have hids : seen ++ tableIds t = seen ++ [t.id] ++ columnIdsOf t ++ primaryKeyIds t := by simp [tableIds]
  rw [hids] at h ⊢
  have hcanonical : (t.columns.map Column.canonical).map Column.id = columnIdsOf t := by
    rw [List.map_map]
    rfl
  have hcreated : raised (Table.create t.id t.name t.schemaId (t.columns.map Column.canonical) t.primaryKey []
      t.description.normalize t.ownership (Json.sortedMembers t.technicalAttributes)) = .ok t.unlinked :=
    raised_ok.mpr t.unlinked.create_self
  refine ⟨⟨t.unlinked, columnIdsOf t, (t.foreignKeys.map (Json.normalize ∘ ForeignKey.toDict)).zipIdx.map
    (fun entry => (entry.1, path ++ "/foreign_keys/" ++ toString entry.2))⟩, ?_, rfl, rfl, ?_⟩
  · rw [Table.toDict, Json.normalize_obj_eq, tableFromDict, requireMapping_ok.mpr rfl, ok_bind,
      textField_written rfl t.id_nonblank, ok_bind, registerId_new h.of_append_left.of_append_left, ok_bind,
      parentId_written rfl t.schemaId_nonblank hclosed.parent, ok_bind, listField_written rfl, ok_bind,
      List.map_map, columns_readBack t h.of_append_left, ok_bind]
    dsimp only
    rw [hcanonical, get_written rfl, primaryKeyOf_readBack hclosed.primaryKey_table hclosed.primaryKey_columns h,
      ok_bind, listField_written rfl, ok_bind, List.map_map, textField_written rfl t.name_nonblank, ok_bind,
      ownership_written rfl, ok_bind, technicalAttributes_written rfl, ok_bind, description_written rfl]
    dsimp only
    rw [hcreated]
    rfl
  · rw [List.map_map]
    exact List.zipIdx_map_fst 0 _

/-- What a schema brings before the foreign keys are read. -/
def schemaIds (s : Schema) : List String := s.id :: s.tables.flatMap tableIds

structure SchemaParsedFrom (s : Schema) (p : ParsedSchema) : Prop where
  schema : p.schema = s.unlinked
  tables : List.Forall₂ ParsedFrom s.tables p.tables

theorem schema_readBack {databaseId : String} {s : Schema} (hparent : s.databaseId = databaseId)
    (htables : ∀ t ∈ s.tables, TableClosed s.id t) (h : (seen ++ schemaIds s).Nodup) :
    ∃ p, schemaFromDict path databaseId seen s.toDict.normalize = .ok (p, seen ++ schemaIds s) ∧
      SchemaParsedFrom s p := by
  have hids : seen ++ schemaIds s = seen ++ [s.id] ++ s.tables.flatMap tableIds := by simp [schemaIds]
  rw [hids] at h ⊢
  have hentries : List.Forall₂ (fun t raw => ∀ (i : Nat) (seen : List String), (seen ++ tableIds t).Nodup →
      ∃ y, tableFromDict (path ++ "/tables/" ++ toString i) s.id seen raw = .ok (y, seen ++ tableIds t) ∧
        ParsedFrom t y) s.tables (s.tables.map (Json.normalize ∘ Table.toDict)) := by
    rw [List.forall₂_map_right_iff]
    exact List.forall₂_same.mpr fun t ht i seen hnew => table_readBack (htables t ht) hnew
  obtain ⟨ps, hread, hps⟩ := readEach_written hentries 0 (seen ++ [s.id]) h
  have hunlinked : ps.map ParsedTable.table = s.unlinked.tables :=
    eq_map_of_forall₂ (List.forall₂_map_right_iff.mpr (hps.imp fun t p hp => hp.table.symm))
  refine ⟨⟨s.unlinked, ps⟩, ?_, rfl, hps⟩
  have hcreated : raised (Schema.create s.id s.name s.databaseId s.unlinked.tables s.description.normalize
      s.ownership) = .ok s.unlinked := raised_ok.mpr s.unlinked.create_self
  rw [Schema.toDict, Json.normalize_obj_eq, schemaFromDict, requireMapping_ok.mpr rfl, ok_bind,
    textField_written rfl s.id_nonblank, ok_bind, registerId_new h.of_append_left, ok_bind,
    parentId_written rfl s.databaseId_nonblank hparent, ok_bind, listField_written rfl, ok_bind, List.map_map, hread, ok_bind,
    textField_written rfl s.name_nonblank, ok_bind, ownership_written rfl, ok_bind, description_written rfl]
  dsimp only
  rw [hunlinked, hcreated]
  rfl

end Records
end CollibraGovernance.Snapshots
