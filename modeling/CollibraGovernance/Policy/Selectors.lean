import CollibraGovernance.Reconciliation.ScannedIndex

/-! Policy selectors: over the objects of a model, and over the identities of a graph. -/
namespace CollibraGovernance.Policy
open Library Domain Reconciliation

inductive ObjectKind where
  | dataSource | database | schema | table | column | relationship
  deriving DecidableEq

def ObjectKind.text : ObjectKind → String
  | dataSource => "data_source"
  | database => "database"
  | schema => "schema"
  | table => "table"
  | column => "column"
  | relationship => "relationship"

lemma ObjectKind.text_inj : Function.Injective ObjectKind.text := by
  intro a b h
  cases a <;> cases b <;> first | rfl | exact absurd h (by decide)

/-- A selector as a policy file tells it: white space around an id is dropped, and at most one of the id and
the prefix is given. -/
structure PolicySelector where
  kind : ObjectKind
  objectId : Option Stripped
  idPrefix : Option Stripped
  exclusive : objectId = none ∨ idPrefix = none

/-- An object as policies see it. -/
structure GovernedObject where
  kind : ObjectKind
  id : String
  name : String
  deriving DecidableEq

section Objects

def columnObjects (t : Table) : List GovernedObject := t.columns.map fun c => ⟨.column, c.id, c.name⟩

def tableObjects (s : Schema) : List GovernedObject :=
  s.tables.flatMap fun t => ⟨.table, t.id, t.name⟩ :: columnObjects t

def schemaObjects (d : Database) : List GovernedObject :=
  d.schemas.flatMap fun s => ⟨.schema, s.id, s.name⟩ :: tableObjects s

def databaseObjects (source : DataSource) : List GovernedObject :=
  source.databases.flatMap fun d => ⟨.database, d.id, d.name⟩ :: schemaObjects d

/-- `_iter_objects` -/
def iterObjects (m : GovernanceModel) : List GovernedObject :=
  m.dataSources.flatMap (fun source => ⟨.dataSource, source.id, source.name⟩ :: databaseObjects source) ++
    m.relationships.map fun r => ⟨.relationship, r.id, r.name⟩

/-- Whether an object passes the selector. -/
def PolicySelector.passes (selector : PolicySelector) (o : GovernedObject) : Bool :=
  if o.kind ≠ selector.kind then false
  else if selector.objectId.any (fun objectId => o.id ≠ objectId.val) then false
  else if selector.idPrefix.any (fun idPrefix => !idPrefix.val.toList.isPrefixOf o.id.toList) then false
  else true

/-- `_select_objects` -/
def selectObjects (m : GovernanceModel) (selector : PolicySelector) : List GovernedObject :=
  (iterObjects m).filter selector.passes

end Objects

/-- What a graph identity is to a selector. -/
structure ProjectedObject where
  objectKind : String
  objectId : String
  node : GraphNodeIdentity

def projectPhysicalSelectorTarget (identity : GraphNodeIdentity) : Except String (Option ProjectedObject) := do
  let projected ← projectPhysicalIdentity identity
  return projected.map fun p => ⟨p.objectKind, p.localId, p.node⟩

def selectorMatches (selector : PolicySelector) (projected : ProjectedObject) : Bool :=
  if selector.kind.text ≠ projected.objectKind then false
  else if selector.objectId.any (fun objectId => projected.objectId ≠ objectId.val) then false
  else selector.idPrefix.all fun idPrefix => idPrefix.val.toList.isPrefixOf projected.objectId.toList

/-- The identity projects to a target that the selector matches. -/
def Matched (selector : PolicySelector) (identity : GraphNodeIdentity) : Prop :=
  ∃ projected, projectPhysicalSelectorTarget identity = .ok (some projected) ∧
    selectorMatches selector projected = true

section Physical
variable (ns : Stripped)

def columnIdentities (database schema table : Stripped) (t : Table) :
    List (GovernedObject × GraphNodeIdentity) :=
  t.columns.map fun c =>
    (⟨.column, c.id, c.name⟩, columnChain ns database schema table (.of c.name c.name_nonblank))

def tableIdentities (database schema : Stripped) (t : Table) : List (GovernedObject × GraphNodeIdentity) :=
  (⟨.table, t.id, t.name⟩, tableChain ns database schema (.of t.name t.name_nonblank)) ::
    columnIdentities ns database schema (.of t.name t.name_nonblank) t

def schemaIdentities (database : Stripped) (s : Schema) : List (GovernedObject × GraphNodeIdentity) :=
  (⟨.schema, s.id, s.name⟩, schemaChain ns database (.of s.name s.name_nonblank)) ::
    s.tables.flatMap (tableIdentities ns database (.of s.name s.name_nonblank))

def databaseIdentities (d : Database) : List (GovernedObject × GraphNodeIdentity) :=
  (⟨.database, d.id, d.name⟩, databaseChain ns (.of d.name d.name_nonblank)) ::
    d.schemas.flatMap (schemaIdentities ns (.of d.name d.name_nonblank))

/-- The databases, schemas, tables and columns of a model with the identities the physical index gives them. -/
def physicalObjects (m : GovernanceModel) : List (GovernedObject × GraphNodeIdentity) :=
  m.databases.flatMap (databaseIdentities ns)

/-- They are what the index is built from. -/
theorem physicalObjects_nodes (m : GovernanceModel) :
    (physicalObjects ns m).map (fun e => (e.1.id, e.2)) = physicalNodes ns m := by
  have htable : ∀ database schema t, (tableIdentities ns database schema t).map (fun e => (e.1.id, e.2)) =
      tableNodes ns database schema t := by
    intro database schema t
    simp [tableIdentities, columnIdentities, tableNodes, columnNodes]
  have hschema : ∀ database s, (schemaIdentities ns database s).map (fun e => (e.1.id, e.2)) =
      schemaNodes ns database s := by
    intro database s
    rw [schemaIdentities, schemaNodes, List.map_cons, List.map_flatMap]
    simp only [htable]
  have hdatabase : ∀ d, (databaseIdentities ns d).map (fun e => (e.1.id, e.2)) = databaseNodes ns d := by
    intro d
    rw [databaseIdentities, databaseNodes, List.map_cons, List.map_flatMap]
    simp only [hschema]
  rw [physicalObjects, physicalNodes, List.map_flatMap]
  simp only [hdatabase]

theorem mem_physicalObjects {m : GovernanceModel} {e : GovernedObject × GraphNodeIdentity} :
    e ∈ physicalObjects ns m ↔ ∃ d ∈ m.databases,
      e = (⟨.database, d.id, d.name⟩, databaseChain ns (.of d.name d.name_nonblank)) ∨ ∃ s ∈ d.schemas,
        e = (⟨.schema, s.id, s.name⟩,
          schemaChain ns (.of d.name d.name_nonblank) (.of s.name s.name_nonblank)) ∨
        ∃ t ∈ s.tables,
          e = (⟨.table, t.id, t.name⟩, tableChain ns (.of d.name d.name_nonblank)
            (.of s.name s.name_nonblank) (.of t.name t.name_nonblank)) ∨
          ∃ c ∈ t.columns,
            e = (⟨.column, c.id, c.name⟩, columnChain ns (.of d.name d.name_nonblank)
              (.of s.name s.name_nonblank) (.of t.name t.name_nonblank) (.of c.name c.name_nonblank)) := by
  simp only [physicalObjects, databaseIdentities, schemaIdentities, tableIdentities, columnIdentities,
    List.mem_flatMap, List.mem_cons, List.mem_map, eq_comm]

/-- They are objects of the model. -/
theorem mem_iterObjects {m : GovernanceModel} {e : GovernedObject × GraphNodeIdentity}
    (he : e ∈ physicalObjects ns m) : e.1 ∈ iterObjects m := by
  obtain ⟨d, hd, he⟩ := (mem_physicalObjects ns).mp he
  obtain ⟨source, hsource, hd⟩ := List.mem_flatMap.mp hd
  refine List.mem_append_left _ (List.mem_flatMap.mpr ⟨source, hsource, List.mem_cons_of_mem _ ?_⟩)
  refine List.mem_flatMap.mpr ⟨d, hd, ?_⟩
  rcases he with rfl | ⟨s, hs, he⟩
  · exact List.mem_cons_self ..
  refine List.mem_cons_of_mem _ (List.mem_flatMap.mpr ⟨s, hs, ?_⟩)
  rcases he with rfl | ⟨t, ht, he⟩
  · exact List.mem_cons_self ..
  refine List.mem_cons_of_mem _ (List.mem_flatMap.mpr ⟨t, ht, ?_⟩)
  rcases he with rfl | ⟨c, hc, rfl⟩
  · exact List.mem_cons_self ..
  · exact List.mem_cons_of_mem _ (List.mem_map.mpr ⟨c, hc, rfl⟩)

end Physical

/-! ### Targets -/

/-- Text that starts outside the white space and ends with a stripped name is stripped. -/
lemma strip_append_stripped {c : Char} {before : String} (hc : isSpace c = false) (last : Stripped)
    (hbefore : before.toList.head? = some c) : strip (before ++ last.val) = before ++ last.val := by
  have hright : last.val.toList.reverse.dropWhile isSpace = last.val.toList.reverse := by
    have hlength := congrArg (fun s => s.toList.length) last.stripped
    simp only [strip, String.toList_ofList, List.length_reverse] at hlength
    have hleft := (List.dropWhile_suffix isSpace (l := last.val.toList))
    have hinner := (List.dropWhile_suffix isSpace (l := (last.val.toList.dropWhile isSpace).reverse))
    have hle := hinner.length_le
    rw [List.length_reverse] at hle
    have hwhole : last.val.toList.dropWhile isSpace = last.val.toList :=
      hleft.eq_of_length (by have := hleft.length_le; omega)
    rw [hwhole] at hinner hlength
    exact hinner.eq_of_length (by rw [List.length_reverse]; exact hlength)
  have hne : last.val.toList.reverse ≠ [] := by
    intro h
    have hblank := last.nonblank
    rw [isBlank, List.reverse_eq_nil_iff.mp h] at hblank
    cases hblank
  obtain ⟨d, rest, hlast⟩ := List.exists_cons_of_ne_nil hne
  have hd : isSpace d = false := by
    rw [hlast] at hright
    by_contra hspace
    rw [List.dropWhile_cons_of_pos (by simpa using hspace)] at hright
    have hlength := congrArg List.length hright
    have hle := (List.dropWhile_suffix isSpace (l := rest)).length_le
    rw [List.length_cons] at hlength
    omega
  obtain ⟨rest', hbefore⟩ := List.head?_eq_some_iff.mp hbefore
  apply String.toList_inj.mp
  rw [strip, String.toList_ofList, String.toList_append, hbefore, List.cons_append,
    List.dropWhile_cons_of_neg (by simp [hc]), ← List.cons_append, List.reverse_append, hlast,
    List.cons_append, List.dropWhile_cons_of_neg (by simp [hd]), ← List.cons_append, ← hlast,
    ← List.reverse_append, List.reverse_reverse]

section Targets
variable (ns database schema table column : Stripped)

/-- The identity is a target of the given kind under the given id. -/
def Targets (identity : GraphNodeIdentity) (kind : ObjectKind) (id : String) : Prop :=
  ∃ node, projectPhysicalSelectorTarget identity = .ok (some ⟨kind.text, id, node⟩)

lemma targets_of {identity : GraphNodeIdentity} {kind : ObjectKind} {id : String}
    (hid : projectPhysicalLocalId identity = .ok (some id))
    (hkind : ∀ p, projectPhysicalIdentity identity = .ok (some p) → p.objectKind = kind.text) :
    Targets identity kind id := by
  obtain ⟨projected, hprojected, hid⟩ := bind_eq_ok.mp hid
  obtain ⟨p, rfl, rfl⟩ := Option.map_eq_some_iff.mp (pure_eq_ok.mp hid)
  refine ⟨p.node, ?_⟩
  rw [projectPhysicalSelectorTarget, hprojected, ok_bind, ← hkind p hprojected]
  rfl

theorem targets_databaseChain : Targets (databaseChain ns database) .database
    ("db:" ++ databasePath ns.val database.val) := by
  refine targets_of (projectPhysicalLocalId_databaseChain ns database) ?_
  intro p hp
  rw [projectPhysicalIdentity, if_pos (isRootDataSource_databaseChain ..)] at hp
  obtain ⟨id, -, hp⟩ := bind_eq_ok.mp hp
  cases hp
  rfl

theorem targets_schemaChain : Targets (schemaChain ns database schema) .schema
    ("sch:" ++ schemaPath ns.val database.val schema.val) := by
  refine targets_of (projectPhysicalLocalId_schemaChain ns database schema) ?_
  intro p hp
  simp [projectPhysicalIdentity, schemaChain] at hp
  obtain ⟨id, -, hp⟩ := bind_eq_ok.mp hp
  cases hp
  rfl

theorem targets_tableChain : Targets (tableChain ns database schema table) .table
    ("tbl:" ++ tablePath ns.val database.val schema.val table.val) := by
  refine targets_of (projectPhysicalLocalId_tableChain ns database schema table) ?_
  intro p hp
  have hkind : ¬ nodeKindTable = nodeKindDataset := by decide
  simp [projectPhysicalIdentity, tableChain, schemaChain, hkind] at hp
  obtain ⟨id, -, hp⟩ := bind_eq_ok.mp hp
  cases hp
  rfl

theorem targets_columnChain : Targets (columnChain ns database schema table column) .column
    ("col:" ++ columnPath ns.val database.val schema.val table.val column.val) := by
  refine targets_of (projectPhysicalLocalId_columnChain ns database schema table column) ?_
  intro p hp
  have hdataset : ¬ nodeKindColumn = nodeKindDataset := by decide
  have htable : ¬ nodeKindColumn = nodeKindTable := by decide
  simp [projectPhysicalIdentity, columnChain, tableChain, schemaChain, hdataset, htable] at hp
  obtain ⟨id, -, hp⟩ := bind_eq_ok.mp hp
  cases hp
  rfl

end Targets

/-! ### Agreement -/

section Agreement
variable {selector : PolicySelector} {o : GovernedObject} {identity : GraphNodeIdentity} {id : String}

lemma passes_iff : selector.passes o = true ↔ o.kind = selector.kind ∧
    (∀ objectId ∈ selector.objectId, o.id = objectId.val) ∧
      ∀ idPrefix ∈ selector.idPrefix, idPrefix.val.toList.isPrefixOf o.id.toList = true := by
  rw [PolicySelector.passes]
  cases selector.objectId <;> cases selector.idPrefix <;> simp

lemma matched_iff (h : Targets identity o.kind id) : Matched selector identity ↔
    o.kind = selector.kind ∧ (∀ objectId ∈ selector.objectId, id = objectId.val) ∧
      ∀ idPrefix ∈ selector.idPrefix, idPrefix.val.toList.isPrefixOf id.toList = true := by
  obtain ⟨node, htarget⟩ := h
  have hmatches : Matched selector identity ↔
      selectorMatches selector ⟨o.kind.text, id, node⟩ = true := by
    constructor
    · rintro ⟨projected, hprojected, hmatch⟩
      rw [htarget] at hprojected
      obtain rfl := Option.some.inj (Except.ok.inj hprojected)
      exact hmatch
    · exact fun hmatch => ⟨_, htarget, hmatch⟩
  rw [hmatches, selectorMatches]
  have hkind : selector.kind.text = o.kind.text ↔ o.kind = selector.kind :=
    ⟨fun h => (ObjectKind.text_inj h).symm, fun h => by rw [h]⟩
  cases selector.objectId <;> cases selector.idPrefix <;> simp [hkind]

/-- A target under a stripped id is told apart from an object under another id. -/
theorem agree_iff (h : Targets identity o.kind id) (hid : strip id = id) (hblank : isBlank id = false) :
    (∀ selector : PolicySelector, selector.passes o = true ↔ Matched selector identity) ↔ o.id = id := by
  constructor
  · intro hagree
    have hselected := hagree ⟨o.kind, some ⟨id, hid, hblank⟩, none, .inr rfl⟩
    rw [matched_iff h, passes_iff] at hselected
    exact (hselected.mpr ⟨rfl, by simp, by simp⟩).2.1 _ rfl
  · intro heq selector
    rw [matched_iff h, passes_iff, heq]

end Agreement

/-- Every local id is its kind's mark and the namespace and names down to the object, without the white space
around them, joined by slashes. -/
structure IdsJoined (ns : Stripped) (m : GovernanceModel) : Prop where
  databases : ∀ d ∈ m.databases, d.id = "db:" ++ databasePath ns.val (strip d.name)
  schemas : ∀ d ∈ m.databases, ∀ s ∈ d.schemas,
    s.id = "sch:" ++ schemaPath ns.val (strip d.name) (strip s.name)
  tables : ∀ d ∈ m.databases, ∀ s ∈ d.schemas, ∀ t ∈ s.tables,
    t.id = "tbl:" ++ tablePath ns.val (strip d.name) (strip s.name) (strip t.name)
  columns : ∀ d ∈ m.databases, ∀ s ∈ d.schemas, ∀ t ∈ s.tables, ∀ c ∈ t.columns,
    c.id = "col:" ++ columnPath ns.val (strip d.name) (strip s.name) (strip t.name) (strip c.name)

section Marks

/-- A mark followed by names that end in a stripped one. -/
lemma strip_mark (mark path : String) (last : Stripped) {c : Char} (hc : isSpace c = false)
    (hmark : mark.toList.head? = some c) :
    strip (mark ++ joined path last.val) = mark ++ joined path last.val := by
  have hsplit : mark ++ joined path last.val = (mark ++ path ++ "/") ++ last.val := by
    simp only [joined, String.append_assoc]
  rw [hsplit]
  refine strip_append_stripped hc last ?_
  obtain ⟨rest, hrest⟩ := List.head?_eq_some_iff.mp hmark
  simp [String.toList_append, hrest]

lemma isBlank_mark (mark path : String) (last : Stripped) :
    isBlank (mark ++ joined path last.val) = false :=
  isBlank_append_eq_false_right (isBlank_append_eq_false_right last.nonblank)

variable (ns database schema table column : Stripped) (id name : String)

/-- The selectors agree on an object and the identity. -/
def AgreeOn (o : GovernedObject) (identity : GraphNodeIdentity) : Prop :=
  ∀ selector : PolicySelector, selector.passes o = true ↔ Matched selector identity

theorem agreeOn_database : AgreeOn ⟨.database, id, name⟩ (databaseChain ns database) ↔
    id = "db:" ++ databasePath ns.val database.val :=
  agree_iff (o := ⟨.database, id, name⟩) (targets_databaseChain ns database)
    (strip_mark "db:" ns.val database (c := 'd') (by decide) rfl) (isBlank_mark "db:" ns.val database)

theorem agreeOn_schema : AgreeOn ⟨.schema, id, name⟩ (schemaChain ns database schema) ↔
    id = "sch:" ++ schemaPath ns.val database.val schema.val :=
  agree_iff (o := ⟨.schema, id, name⟩) (targets_schemaChain ns database schema)
    (strip_mark "sch:" (databasePath ns.val database.val) schema (c := 's') (by decide) rfl)
    (isBlank_mark "sch:" (databasePath ns.val database.val) schema)

theorem agreeOn_table : AgreeOn ⟨.table, id, name⟩ (tableChain ns database schema table) ↔
    id = "tbl:" ++ tablePath ns.val database.val schema.val table.val :=
  agree_iff (o := ⟨.table, id, name⟩) (targets_tableChain ns database schema table)
    (strip_mark "tbl:" (schemaPath ns.val database.val schema.val) table (c := 't') (by decide) rfl)
    (isBlank_mark "tbl:" (schemaPath ns.val database.val schema.val) table)

theorem agreeOn_column : AgreeOn ⟨.column, id, name⟩ (columnChain ns database schema table column) ↔
    id = "col:" ++ columnPath ns.val database.val schema.val table.val column.val :=
  agree_iff (o := ⟨.column, id, name⟩) (targets_columnChain ns database schema table column)
    (strip_mark "col:" (tablePath ns.val database.val schema.val table.val) column (c := 'c')
      (by decide) rfl)
    (isBlank_mark "col:" (tablePath ns.val database.val schema.val table.val) column)

end Marks

/-- The evaluator and the impact analysis select the same objects exactly when every local id is joined from
the stripped names. -/
theorem selectors_agree_iff (m : GovernanceModel) (ns : Stripped) :
    (∀ e ∈ physicalObjects ns m, ∀ selector : PolicySelector,
      e.1 ∈ selectObjects m selector ↔ Matched selector e.2) ↔ IdsJoined ns m := by
  have hselect : ∀ e ∈ physicalObjects ns m, ∀ selector : PolicySelector,
      e.1 ∈ selectObjects m selector ↔ selector.passes e.1 = true := by
    intro e he selector
    rw [selectObjects, List.mem_filter, and_iff_right (mem_iterObjects ns he)]
  have hall : (∀ e ∈ physicalObjects ns m, ∀ selector : PolicySelector,
      e.1 ∈ selectObjects m selector ↔ Matched selector e.2) ↔
        ∀ e ∈ physicalObjects ns m, AgreeOn e.1 e.2 :=
    forall₂_congr fun e he => forall_congr' fun selector => by rw [hselect e he selector]
  rw [hall]
  constructor
  · intro hagree
    constructor
    · intro d hd
      have h := hagree _ ((mem_physicalObjects ns).mpr ⟨d, hd, .inl rfl⟩)
      have hid := (agreeOn_database ..).mp h
      exact hid
    · intro d hd s hs
      have h := hagree _ ((mem_physicalObjects ns).mpr ⟨d, hd, .inr ⟨s, hs, .inl rfl⟩⟩)
      have hid := (agreeOn_schema ..).mp h
      exact hid
    · intro d hd s hs t ht
      have h := hagree _ ((mem_physicalObjects ns).mpr ⟨d, hd, .inr ⟨s, hs, .inr ⟨t, ht, .inl rfl⟩⟩⟩)
      have hid := (agreeOn_table ..).mp h
      exact hid
    · intro d hd s hs t ht c hc
      have h := hagree _ ((mem_physicalObjects ns).mpr
        ⟨d, hd, .inr ⟨s, hs, .inr ⟨t, ht, .inr ⟨c, hc, rfl⟩⟩⟩⟩)
      have hid := (agreeOn_column ..).mp h
      exact hid
  · intro hjoined e he
    obtain ⟨d, hd, he⟩ := (mem_physicalObjects ns).mp he
    rcases he with rfl | ⟨s, hs, rfl | ⟨t, ht, rfl | ⟨c, hc, rfl⟩⟩⟩
    · exact (agreeOn_database ..).mpr (hjoined.databases d hd)
    · exact (agreeOn_schema ..).mpr (hjoined.schemas d hd s hs)
    · exact (agreeOn_table ..).mpr (hjoined.tables d hd s hs t ht)
    · exact (agreeOn_column ..).mpr (hjoined.columns d hd s hs t ht c hc)

/-- Ids are joined from the stripped names exactly when every identity projects back to its local id. -/
theorem idsJoined_iff (m : GovernanceModel) (ns : Stripped) : IdsJoined ns m ↔
    ∀ e ∈ physicalNodes ns m, projectPhysicalLocalId e.2 = .ok (some e.1) := by
  constructor
  · intro hjoined e he
    obtain ⟨d, hd, he⟩ := (mem_physicalNodes ns).mp he
    rcases he with rfl | ⟨s, hs, rfl | ⟨t, ht, rfl | ⟨c, hc, rfl⟩⟩⟩
    · rw [projectPhysicalLocalId_databaseChain, hjoined.databases d hd]
      rfl
    · rw [projectPhysicalLocalId_schemaChain, hjoined.schemas d hd s hs]
      rfl
    · rw [projectPhysicalLocalId_tableChain, hjoined.tables d hd s hs t ht]
      rfl
    · rw [projectPhysicalLocalId_columnChain, hjoined.columns d hd s hs t ht c hc]
      rfl
  · intro hexact
    constructor
    · intro d hd
      have h := hexact _ ((mem_physicalNodes ns).mpr ⟨d, hd, .inl rfl⟩)
      rw [projectPhysicalLocalId_databaseChain] at h
      exact (Option.some.inj (Except.ok.inj h)).symm
    · intro d hd s hs
      have h := hexact _ ((mem_physicalNodes ns).mpr ⟨d, hd, .inr ⟨s, hs, .inl rfl⟩⟩)
      rw [projectPhysicalLocalId_schemaChain] at h
      exact (Option.some.inj (Except.ok.inj h)).symm
    · intro d hd s hs t ht
      have h := hexact _ ((mem_physicalNodes ns).mpr ⟨d, hd, .inr ⟨s, hs, .inr ⟨t, ht, .inl rfl⟩⟩⟩)
      rw [projectPhysicalLocalId_tableChain] at h
      exact (Option.some.inj (Except.ok.inj h)).symm
    · intro d hd s hs t ht c hc
      have h := hexact _ ((mem_physicalNodes ns).mpr
        ⟨d, hd, .inr ⟨s, hs, .inr ⟨t, ht, .inr ⟨c, hc, rfl⟩⟩⟩⟩)
      rw [projectPhysicalLocalId_columnChain] at h
      exact (Option.some.inj (Except.ok.inj h)).symm

section Scanned
open Scanner
variable {sourceName : String} {databaseRow : DatabaseRow} {schemaRows : List SchemaRow}
  {tableColumnRows : List TableColumnRow} {primaryKeyRows : List PrimaryKeyRow}
  {foreignKeyRows : List ForeignKeyRow} {m : GovernanceModel}

/-- The ids of a scanned model are joined from the stripped names exactly when its names are stripped. -/
theorem scanned_idsJoined_iff
    (h : buildGovernanceModel sourceName databaseRow schemaRows tableColumnRows primaryKeyRows
      foreignKeyRows = .ok m) (hsource : isBlank sourceName = false) :
    IdsJoined (.of sourceName hsource) m ↔ NamesStripped m := by
  obtain ⟨source, database, built, hb⟩ := buildGovernanceModel_ok h
  rw [idsJoined_iff, namesStripped_iff hb]
  exact (joinedIds_of_built hb).exact_iff hsource

end Scanned

section Blank

theorem pg_nonblank : isBlank "pg" = false := by decide
theorem spaced_id_stripped : strip "sch:pg/shop/a" = "sch:pg/shop/a" := by decide
theorem spaced_id_nonblank : isBlank "sch:pg/shop/a" = false := by decide

/-- The namespace of the scan and the rule about schema `a`. -/
def pgNamespace : Stripped := .of "pg" pg_nonblank
def schemaSelector : PolicySelector := ⟨.schema, some ⟨_, spaced_id_stripped, spaced_id_nonblank⟩, none, .inr rfl⟩

/-- The schema `" a"` is not selected by the rule about schema `a`, but its identity is matched. -/
theorem blank_in_name_matched : ∃ m, blankScan = .ok m ∧
    ¬ ∀ e ∈ physicalObjects pgNamespace m, ∀ selector : PolicySelector,
      e.1 ∈ selectObjects m selector ↔ Matched selector e.2 := by
  have hrun : (blankScan.toOption.map fun m => (physicalObjects pgNamespace m).any fun e =>
      decide (e.1 ∉ selectObjects m schemaSelector) &&
        ((projectPhysicalSelectorTarget e.2).toOption.bind fun projected => projected).any
          (selectorMatches schemaSelector)) = some true := by
    decide +kernel
  obtain ⟨m, hm, hrun⟩ := toOption_map_eq_some.mp hrun
  refine ⟨m, hm, fun hagree => ?_⟩
  obtain ⟨e, he, hboth⟩ := List.any_eq_true.mp hrun
  obtain ⟨hnot, hany⟩ := Bool.and_eq_true_iff.mp hboth
  obtain ⟨projected, hprojected, hmatch⟩ := (Option.any_eq_true ..).mp hany
  obtain ⟨target, htarget, rfl⟩ := Option.bind_eq_some_iff.mp hprojected
  exact of_decide_eq_true hnot ((hagree e he schemaSelector).mpr
    ⟨projected, toOption_eq_some.mp htarget, hmatch⟩)

end Blank

end CollibraGovernance.Policy
