import CollibraGovernance.Snapshots.Inverse

/-! When the identity that is stored with a snapshot is the one of the snapshot that is loaded from it. -/
namespace CollibraGovernance.Snapshots
open Library Domain Identity

/-! The canonical order of the lists of a document. -/

def TableListed (raw : Json) : Prop :=
  SortedBy rawColumnKey (rawList "columns" raw) ∧ SortedBy (rawText "id") (rawList "foreign_keys" raw)

def SchemaListed (raw : Json) : Prop :=
  SortedBy (rawText "id") (rawList "tables" raw) ∧ ∀ table ∈ rawList "tables" raw, TableListed table

def DatabaseListed (raw : Json) : Prop :=
  SortedBy (rawText "id") (rawList "schemas" raw) ∧ ∀ schema ∈ rawList "schemas" raw, SchemaListed schema

/-- Every list of the document stands in the order in which it is written. -/
def CanonicallyListed (document : Json) : Prop :=
  (∀ source ∈ rawList "data_sources" (rawMember document "governance"),
    ∀ database ∈ rawList "databases" source, DatabaseListed database) ∧
  SortedBy (rawText "id") (rawList "relationships" (rawMember document "governance"))

instance (raw : Json) : Decidable (TableListed raw) := inferInstanceAs (Decidable (_ ∧ _))

instance (raw : Json) : Decidable (SchemaListed raw) := inferInstanceAs (Decidable (_ ∧ _))

instance (raw : Json) : Decidable (DatabaseListed raw) := inferInstanceAs (Decidable (_ ∧ _))

instance (document : Json) : Decidable (CanonicallyListed document) := inferInstanceAs (Decidable (_ ∧ _))

section Lists
variable {raw : Json} {mapping : List (String × Json)} {key : String}

/-- The listed records of an accepted document are accepted, and have distinct keys. -/
lemma items_proper {items : List Json} {accepts : Json → Bool} (hunique : (Json.obj mapping).uniqueKeys = true)
    (hlisted : Json.get mapping key = .arr items) (haccepts : JsonSchema.array accepts (Json.get mapping key) = true) :
    ∀ j ∈ items, j.uniqueKeys = true ∧ accepts j = true := by
  have hkeys := Json.uniqueKeys_get hunique key
  obtain ⟨_, heq, hall⟩ := JsonSchema.array_iff.mp haccepts
  rw [hlisted] at hkeys heq
  cases heq
  exact fun j hj => ⟨(Json.uniqueKeys_arr items).mp hkeys j hj, hall j hj⟩

lemma array_of_sized {accepts : Json → Bool} {j : Json} (h : JsonSchema.sized 1 none accepts j = true) :
    JsonSchema.array accepts j = true := by
  cases j with
  | arr items => exact JsonSchema.array_iff.mpr ⟨items, rfl, (JsonSchema.sized_iff.mp h).2.2⟩
  | _ => cases h

/-- A list whose entries are all written as they were. -/
lemma entries_iff {α κ : Type} [LinearOrder κ] {rawKey : Json → κ} {key : α → κ} {toDict : α → Json}
    {raws : List Json} {xs : List α} (hraw : ∀ j : Json, rawKey j.normalize = rawKey j)
    (hdict : ∀ x, rawKey (toDict x) = key x)
    (h : List.Forall₂ (fun raw x => raw.normalize = (toDict x).normalize) raws xs) :
    (Json.arr raws).normalize = (Json.arr ((sortBy key xs).map toDict)).normalize ↔ SortedBy rawKey raws := by
  rw [listed_iff hraw hdict, and_iff_left h]
  exact h.imp fun raw x hx => by rw [← hraw raw, hx, hraw, hdict]

end Lists

@[simp] lemma rawText_foreignKey (k : ForeignKey) : rawText "id" k.toDict = k.id := rfl
@[simp] lemma rawText_table (t : Table) : rawText "id" t.toDict = t.id := rfl
@[simp] lemma rawText_schema (s : Schema) : rawText "id" s.toDict = s.id := rfl
@[simp] lemma rawText_relationship (r : Relationship) : rawText "id" r.toDict = r.id := rfl

/-! Tables. -/

/-- The table with foreign keys of its own. -/
def Table.linked (t : Table) (keys : List ForeignKey) : Table :=
  { t with
    foreignKeys := sortBy ForeignKey.id keys
    foreignKeys_sorted := sortBy_sorted _ _ }

lemma rebuildTable_eq (keys : List ForeignKey) (t : Table) :
    rebuildTable keys t = .ok (Table.linked t (keys.filter (fun k => k.tableId = t.id))) := by
  have h := (Table.linked t (keys.filter (fun k => k.tableId = t.id))).create_self
  refine raised_ok.mpr (Eq.trans ?_ h)
  simp only [Table.create, Table.linked, sortBy_idem]

/-- The ids that a table brings before the foreign keys are read. -/
def readIds (p : ParsedTable) : List String :=
  p.table.id :: (p.columnIds ++ p.table.primaryKey.toList.map PrimaryKey.id)

/-- What is read of a raw table, up to its foreign keys. -/
structure TableFrom (raw : Json) (p : ParsedTable) : Prop where
  id : rawText "id" raw = p.table.id
  pending : p.pending.map Prod.fst = rawList "foreign_keys" raw
  keys : ∀ j ∈ rawList "foreign_keys" raw, j.uniqueKeys = true ∧ foreignKeySchema j = true
  written : ∀ keys, raw.normalize = (Table.linked p.table keys).toDict.normalize ↔
    SortedBy rawColumnKey (rawList "columns" raw) ∧ (Json.arr (rawList "foreign_keys" raw)).normalize =
      (Json.arr ((sortBy ForeignKey.id keys).map ForeignKey.toDict)).normalize

section Records
variable {raw : Json} {path : String} {seen seen' : List String}

lemma columns_inv {listed : List Json} {columns : List Column}
    (hproper : ∀ j ∈ listed, j.uniqueKeys = true ∧ columnSchema j = true) (hseen : seen.Nodup)
    (h : readEach (fun index => columnFromDict (path ++ "/columns/" ++ toString index)) 0 seen listed =
      .ok (columns, seen')) : seen' = seen ++ columns.map Column.id ∧ seen'.Nodup ∧
      List.Forall₂ (fun raw c => raw.normalize = c.toDict.normalize) listed columns := by
  have hread := readEach_inv (fun x hx i seen c seen' hseen hcolumn =>
    column_inv (hproper x hx).1 (hproper x hx).2 hseen hcolumn) hseen h
  rwa [← List.map_eq_flatMap] at hread

theorem table_inv {p : ParsedTable} {schemaId : String} (hunique : raw.uniqueKeys = true)
    (haccepts : tableSchema raw = true) (hseen : seen.Nodup)
    (h : tableFromDict path schemaId seen raw = .ok (p, seen')) :
    seen' = seen ++ readIds p ∧ seen'.Nodup ∧ TableFrom raw p := by
  unfold tableFromDict at h
  obtain ⟨mapping, hmapping, hread⟩ := bind_eq_ok.mp h
  cases requireMapping_ok.mp hmapping
  obtain ⟨id, hid, hread⟩ := bind_eq_ok.mp hread
  obtain ⟨seen₁, hregister, hread⟩ := bind_eq_ok.mp hread
  obtain ⟨parent, hparent, hread⟩ := bind_eq_ok.mp hread
  obtain ⟨listed, hlisted, hread⟩ := bind_eq_ok.mp hread
  obtain ⟨⟨columns, seen₂⟩, hcolumns, hread⟩ := bind_eq_ok.mp hread
  obtain ⟨⟨primaryKey, seen₃⟩, hprimary, hread⟩ := bind_eq_ok.mp hread
  obtain ⟨foreignKeys, hforeign, hread⟩ := bind_eq_ok.mp hread
  obtain ⟨name, hname, hread⟩ := bind_eq_ok.mp hread
  obtain ⟨ownership, hownership, hread⟩ := bind_eq_ok.mp hread
  obtain ⟨attributes, hattributes, hread⟩ := bind_eq_ok.mp hread
  obtain ⟨table, htable, hread⟩ := bind_eq_ok.mp hread
  cases pure_eq_ok.mp hread
  rw [tableSchema] at haccepts
  obtain ⟨rfl, rfl, rfl, hsorted, rfl, -, hdescription, rfl, rfl⟩ := Table.create_ok (raised_ok.mp htable)
  obtain ⟨⟨htext, -⟩, hsame⟩ := parentId_ok.mp hparent
  rw [← hsame] at htext
  obtain ⟨rfl, hnodup⟩ := registered_inv hseen hregister
  have hlisted := requireList_ok.mp hlisted
  have hforeign := requireList_ok.mp hforeign
  have hcolumnsAccepted := JsonSchema.accepts_get haccepts (by decide)
    (p := ⟨"columns", true, JsonSchema.sized 1 none columnSchema⟩) (by simp) rfl
  have hkeysAccepted := JsonSchema.accepts_get haccepts (by decide)
    (p := ⟨"foreign_keys", true, JsonSchema.array foreignKeySchema⟩) (by simp) rfl
  have hprimaryAccepted := JsonSchema.accepts_get haccepts (by decide)
    (p := ⟨"primary_key", true, JsonSchema.oneOf [JsonSchema.isNull, primaryKeySchema]⟩) (by simp) rfl
  have hownershipAccepted := JsonSchema.accepts_get haccepts (by decide)
    (p := ⟨"ownership", true, nullableOwnershipSchema⟩) (by simp) rfl
  have hproper := items_proper hunique hlisted (array_of_sized hcolumnsAccepted)
  obtain ⟨rfl, hnodup, hwritten⟩ := columns_inv hproper hnodup hcolumns
  obtain ⟨rfl, hnodup, hprimaryWritten⟩ := primaryKeyOf_inv (Json.uniqueKeys_get hunique _) hprimaryAccepted hnodup hprimary
  refine ⟨by simp [readIds], hnodup, rawText_of (text_inv hid), ?_, ?_, ?_⟩
  · rw [rawList_of hforeign, List.map_map]
    exact List.zipIdx_map_fst 0 _
  · rw [rawList_of hforeign]
    exact items_proper hunique hforeign hkeysAccepted
  · intro keys
    have hdescribed : table.description.normalize = (Json.get mapping "description").normalize := by
      rw [hdescription, descriptionFromValue, Json.normalize_idem]
    have hcolumnsWritten : (Json.arr listed).normalize = (Json.arr (table.columns.map Column.toDict)).normalize ↔
        SortedBy rawColumnKey listed := by
      rw [hsorted]
      exact entries_iff (fun _ => rawColumnKey_normalize) (fun _ => rfl) hwritten
    rw [rawList_of hlisted, rawList_of hforeign, ← hcolumnsWritten, Table.toDict,
      JsonSchema.normalize_eq_iff haccepts ((Json.uniqueKeys_obj mapping).mp hunique).1 (by simp) (.refl _) (by simp)]
    simp only [List.forall_mem_cons, Table.linked, text_inv hid, text_inv hname, htext, hlisted, hforeign,
      hprimaryWritten, hdescribed, attributes_inv haccepts (by decide) (by simp) hattributes,
      ownership_inv (Json.uniqueKeys_get hunique _) hownershipAccepted hownership, true_and]
    simp

/-! Schemas. -/

/-- The schema with tables of its own. -/
def Schema.withTables (s : Schema) (tables : List Table) : Schema :=
  { s with
    tables := sortBy Table.id tables
    tables_sorted := sortBy_sorted _ _ }

/-- The tables of a schema, each with its foreign keys. -/
def linkedTables (keys : List ForeignKey) (tables : List ParsedTable) : List Table :=
  tables.map (fun p => Table.linked p.table (keys.filter (fun k => k.tableId = p.table.id)))

lemma rebuildSchema_eq {keys : List ForeignKey} {p : ParsedSchema}
    (h : p.schema.tables = sortBy Table.id (p.tables.map ParsedTable.table)) :
    rebuildSchema keys p.schema = .ok (Schema.withTables p.schema (linkedTables keys p.tables)) := by
  have htables : p.schema.tables.mapM (rebuildTable keys) = .ok (sortBy Table.id (linkedTables keys p.tables)) := by
    rw [mapM_eq_map fun t _ => rebuildTable_eq keys t, h,
      map_sortBy (fun t => Table.linked t (keys.filter (fun k => k.tableId = t.id))) Table.id Table.id fun _ => rfl,
      List.map_map]
    rfl
  have hcreated := (Schema.withTables p.schema (linkedTables keys p.tables)).create_self
  rw [rebuildSchema, htables, ok_bind]
  exact raised_ok.mpr hcreated

/-- What is read of a raw schema, up to the foreign keys of its tables. -/
structure SchemaFrom (raw : Json) (p : ParsedSchema) : Prop where
  id : rawText "id" raw = p.schema.id
  tables : List.Forall₂ TableFrom (rawList "tables" raw) p.tables
  sorted : p.schema.tables = sortBy Table.id (p.tables.map ParsedTable.table)
  written : ∀ tables, raw.normalize = (Schema.withTables p.schema tables).toDict.normalize ↔
    (Json.arr (rawList "tables" raw)).normalize = (Json.arr ((sortBy Table.id tables).map Table.toDict)).normalize

def schemaReadIds (p : ParsedSchema) : List String := p.schema.id :: p.tables.flatMap readIds

theorem schema_inv {p : ParsedSchema} {databaseId : String} (hunique : raw.uniqueKeys = true)
    (haccepts : schemaSchema raw = true) (hseen : seen.Nodup)
    (h : schemaFromDict path databaseId seen raw = .ok (p, seen')) :
    seen' = seen ++ schemaReadIds p ∧ seen'.Nodup ∧ SchemaFrom raw p := by
  unfold schemaFromDict at h
  obtain ⟨mapping, hmapping, hread⟩ := bind_eq_ok.mp h
  cases requireMapping_ok.mp hmapping
  obtain ⟨id, hid, hread⟩ := bind_eq_ok.mp hread
  obtain ⟨seen₁, hregister, hread⟩ := bind_eq_ok.mp hread
  obtain ⟨parent, hparent, hread⟩ := bind_eq_ok.mp hread
  obtain ⟨listed, hlisted, hread⟩ := bind_eq_ok.mp hread
  obtain ⟨⟨tables, seen₂⟩, htables, hread⟩ := bind_eq_ok.mp hread
  obtain ⟨name, hname, hread⟩ := bind_eq_ok.mp hread
  obtain ⟨ownership, hownership, hread⟩ := bind_eq_ok.mp hread
  obtain ⟨schema, hschema, hread⟩ := bind_eq_ok.mp hread
  cases pure_eq_ok.mp hread
  rw [schemaSchema] at haccepts
  obtain ⟨rfl, rfl, rfl, hsorted, hdescription, rfl⟩ := Schema.create_ok (raised_ok.mp hschema)
  obtain ⟨⟨htext, -⟩, hsame⟩ := parentId_ok.mp hparent
  rw [← hsame] at htext
  obtain ⟨rfl, hnodup⟩ := registered_inv hseen hregister
  have hlisted := requireList_ok.mp hlisted
  have htablesAccepted := JsonSchema.accepts_get haccepts (by decide)
    (p := ⟨"tables", true, JsonSchema.array tableSchema⟩) (by simp) rfl
  have hownershipAccepted := JsonSchema.accepts_get haccepts (by decide)
    (p := ⟨"ownership", true, nullableOwnershipSchema⟩) (by simp) rfl
  have hproper := items_proper hunique hlisted htablesAccepted
  obtain ⟨rfl, hnodup, hfrom⟩ := readEach_inv (fun x hx i seen p seen' hseen htable =>
    table_inv (hproper x hx).1 (hproper x hx).2 hseen htable) hnodup htables
  refine ⟨by simp [schemaReadIds], hnodup, rawText_of (text_inv hid), ?_, hsorted, ?_⟩
  · rw [rawList_of hlisted]
    exact hfrom
  · intro tables'
    have hdescribed : schema.description.normalize = (Json.get mapping "description").normalize := by
      rw [hdescription, descriptionFromValue, Json.normalize_idem]
    rw [rawList_of hlisted, Schema.toDict,
      JsonSchema.normalize_eq_iff haccepts ((Json.uniqueKeys_obj mapping).mp hunique).1 (by simp) (.refl _) (by simp)]
    simp only [List.forall_mem_cons, Schema.withTables, text_inv hid, text_inv hname, htext, hlisted, hdescribed,
      ownership_inv (Json.uniqueKeys_get hunique _) hownershipAccepted hownership, true_and]
    simp

/-! Foreign keys, which are read after all tables. -/

/-- The foreign keys of one table among all that are read. -/
lemma keys_of_table {ps : List ParsedTable} {keys : List ForeignKey} (hids : (ps.map (fun p => p.table.id)).Nodup)
    (hkeys : List.Forall₂ (fun (entry : String × Json × String) k => k.tableId = entry.1 ∧
      entry.2.1.normalize = k.toDict.normalize) (pendingForeignKeys ps) keys) {raw : Json} {p : ParsedTable}
    (hp : p ∈ ps) (hfrom : TableFrom raw p) :
    List.Forall₂ (fun raw k => raw.normalize = k.toDict.normalize) (rawList "foreign_keys" raw)
      (keys.filter (fun k => k.tableId = p.table.id)) := by
  have howned : (pendingForeignKeys ps).filter (fun entry => entry.1 = p.table.id) =
      p.pending.map (fun entry => (p.table.id, entry)) := by
    refine filter_flatMap_owned hids ?_ hp
    intro q _ entry hentry
    obtain ⟨_, -, rfl⟩ := List.mem_map.mp hentry
    rfl
  have hfiltered := forall₂_filter (p := fun entry => decide (entry.1 = p.table.id))
    (q := fun k => decide (k.tableId = p.table.id)) hkeys fun entry k h => by rw [h.1]
  rw [howned, List.forall₂_map_left_iff] at hfiltered
  rw [← hfrom.pending, List.forall₂_map_left_iff]
  exact hfiltered.imp fun _ _ h => h.2

theorem foreignKeys_inv {ps : List ParsedTable} {keys : List ForeignKey} {raws : List Json}
    (hps : List.Forall₂ TableFrom raws ps) (hseen : seen.Nodup)
    (h : foreignKeysFromDict ps seen = .ok (keys, seen')) :
    seen'.Nodup ∧ List.Forall₂ (fun (entry : String × Json × String) k => k.tableId = entry.1 ∧
      entry.2.1.normalize = k.toDict.normalize) (pendingForeignKeys ps) keys := by
  have hproper : ∀ entry ∈ pendingForeignKeys ps, entry.2.1.uniqueKeys = true ∧ foreignKeySchema entry.2.1 = true := by
    intro entry hentry
    obtain ⟨p, hp, hentry⟩ := List.mem_flatMap.mp hentry
    obtain ⟨pending, hpending, rfl⟩ := List.mem_map.mp hentry
    obtain ⟨raw, -, hfrom⟩ := (forall₂_mem hps).1 p hp
    refine hfrom.keys _ ?_
    rw [← hfrom.pending]
    exact List.mem_map_of_mem hpending
  have hread := readEach_inv
    (R := fun (entry : String × Json × String) k => k.tableId = entry.1 ∧ entry.2.1.normalize = k.toDict.normalize)
    (fun entry hentry i seen k seen' hseen hk => by
      obtain ⟨hids, hnodup, htable, hwritten⟩ := foreignKey_inv (hproper entry hentry).1 (hproper entry hentry).2 hseen hk
      exact ⟨hids, hnodup, htable, hwritten⟩) hseen h
  exact hread.2

end Records

section Written
/-! Each record is written as it was exactly when its lists stand in canonical order. -/
variable {ps : List ParsedTable} {keys : List ForeignKey}

lemma table_written_iff (hids : (ps.map (fun p => p.table.id)).Nodup)
    (hkeys : List.Forall₂ (fun (entry : String × Json × String) k => k.tableId = entry.1 ∧
      entry.2.1.normalize = k.toDict.normalize) (pendingForeignKeys ps) keys) {raw : Json} {p : ParsedTable}
    (hp : p ∈ ps) (hfrom : TableFrom raw p) :
    raw.normalize = (Table.linked p.table (keys.filter (fun k => k.tableId = p.table.id))).toDict.normalize ↔
      TableListed raw := by
  rw [hfrom.written, entries_iff (fun _ => rawText_normalize) rawText_foreignKey (keys_of_table hids hkeys hp hfrom)]
  rfl

lemma schema_written_iff (hids : (ps.map (fun p => p.table.id)).Nodup)
    (hkeys : List.Forall₂ (fun (entry : String × Json × String) k => k.tableId = entry.1 ∧
      entry.2.1.normalize = k.toDict.normalize) (pendingForeignKeys ps) keys) {raw : Json} {p : ParsedSchema}
    (hp : ∀ q ∈ p.tables, q ∈ ps) (hfrom : SchemaFrom raw p) :
    raw.normalize = (Schema.withTables p.schema (linkedTables keys p.tables)).toDict.normalize ↔ SchemaListed raw := by
  have hnames : List.Forall₂ (fun raw t => rawText "id" raw = t.id) (rawList "tables" raw)
      (linkedTables keys p.tables) := by
    rw [linkedTables, List.forall₂_map_right_iff]
    exact hfrom.tables.imp fun _ _ h => h.id
  have hpairs : List.Forall₂ (fun raw t => raw.normalize = t.toDict.normalize ↔ TableListed raw)
      (rawList "tables" raw) (linkedTables keys p.tables) := by
    rw [linkedTables, List.forall₂_map_right_iff]
    have hlisted : ∀ {raws : List Json} {qs : List ParsedTable}, List.Forall₂ TableFrom raws qs → (∀ q ∈ qs, q ∈ ps) →
        List.Forall₂ (fun raw q => raw.normalize = (Table.linked q.table
          (keys.filter (fun k => k.tableId = q.table.id))).toDict.normalize ↔ TableListed raw) raws qs := by
      intro raws qs hqs hmem
      induction hqs with
      | nil => exact .nil
      | cons hq _ ih =>
        obtain ⟨hfirst, hrest⟩ := List.forall_mem_cons.mp hmem
        exact .cons (table_written_iff hids hkeys hfirst hq) (ih hrest)
    exact hlisted hfrom.tables hp
  rw [hfrom.written, listed_iff (fun _ => rawText_normalize) rawText_table hnames, forall₂_iff_forall hpairs]
  rfl

end Written

section Roots
variable {governance : List (String × Json)} {roots : Roots}

/-- Where the loader found the data source and its database. -/
structure RootsFrom (governance : List (String × Json)) (roots : Roots) : Prop where
  source : Json.get governance "data_sources" = .arr [.obj roots.dataSource]
  source_id : Json.get roots.dataSource "id" = .str roots.dataSourceId
  source_name : Json.get roots.dataSource "name" = .str roots.dataSourceName
  source_system : Json.get roots.dataSource "system_type" = .str roots.dataSourceSystemType
  database : Json.get roots.dataSource "databases" = .arr [.obj roots.database]
  database_id : Json.get roots.database "id" = .str roots.databaseId
  database_name : Json.get roots.database "name" = .str roots.databaseName
  database_parent : Json.get roots.database "datasource_id" = .str roots.dataSourceId
  schemas : Json.get roots.database "schemas" = .arr roots.schemas
  seen : roots.seen.Nodup

lemma onlyEntry_inv {raw entry : Json} {message path : String} (h : onlyEntry raw message path = .ok entry) :
    raw = .arr [entry] := by
  obtain ⟨entries, hentries, h⟩ := bind_eq_ok.mp h
  rw [requireList_ok.mp hentries]
  match entries, h with
  | [e], h =>
    cases h
    rfl

theorem roots_inv (h : rootsFromDict governance = .ok roots) : RootsFrom governance roots := by
  unfold rootsFromDict at h
  obtain ⟨rawSource, hsource, hread⟩ := bind_eq_ok.mp h
  obtain ⟨source, hsourceMapping, hread⟩ := bind_eq_ok.mp hread
  obtain ⟨sourceId, hsourceId, hread⟩ := bind_eq_ok.mp hread
  obtain ⟨seen, hseen, hread⟩ := bind_eq_ok.mp hread
  obtain ⟨sourceName, hsourceName, hread⟩ := bind_eq_ok.mp hread
  obtain ⟨systemType, hsystem, hread⟩ := bind_eq_ok.mp hread
  obtain ⟨rawDatabase, hdatabase, hread⟩ := bind_eq_ok.mp hread
  obtain ⟨database, hdatabaseMapping, hread⟩ := bind_eq_ok.mp hread
  obtain ⟨databaseId, hdatabaseId, hread⟩ := bind_eq_ok.mp hread
  obtain ⟨seen', hseen', hread⟩ := bind_eq_ok.mp hread
  obtain ⟨databaseName, hdatabaseName, hread⟩ := bind_eq_ok.mp hread
  obtain ⟨parent, hparent, hread⟩ := bind_eq_ok.mp hread
  obtain ⟨schemas, hschemas, hread⟩ := bind_eq_ok.mp hread
  cases pure_eq_ok.mp hread
  have hsource := onlyEntry_inv hsource
  have hdatabase := onlyEntry_inv hdatabase
  rw [requireMapping_ok.mp hsourceMapping] at hsource
  rw [requireMapping_ok.mp hdatabaseMapping] at hdatabase
  obtain ⟨rfl, hnodup⟩ := registered_inv List.nodup_nil hseen
  obtain ⟨rfl, hnodup⟩ := registered_inv hnodup hseen'
  exact ⟨hsource, text_inv hsourceId, text_inv hsourceName, text_inv hsystem, hdatabase, text_inv hdatabaseId,
    text_inv hdatabaseName, (parentId_ok.mp hparent).1.1, requireList_ok.mp hschemas, hnodup⟩

end Roots
end CollibraGovernance.Snapshots
