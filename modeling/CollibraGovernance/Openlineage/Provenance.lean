import CollibraGovernance.Openlineage.Exact

/-! Every observation of a mapped document, with the records that support it. -/
namespace CollibraGovernance.Openlineage
open Library Identity Domain

/-! ### What the events state about properties -/

mutual
/-- The columns that schema fields declare, each below its parent. -/
def declaredColumns (ns : Stripped) (parent : GraphNodeIdentity) :
    List SchemaField → List (GraphNodeIdentity × FieldHead)
  | [] => []
  | f :: fs => declaredColumn ns parent f ++ declaredColumns ns parent fs

def declaredColumn (ns : Stripped) (parent : GraphNodeIdentity) : SchemaField → List (GraphNodeIdentity × FieldHead)
  | .plain h => [(parent, h)]
  | .nested h fs => (parent, h) :: declaredColumns ns (.child ns kindColumn h.name parent) fs
end

/-- The properties that a declared column has. -/
def FieldHead.properties (h : FieldHead) : List (PropertyPath × Json) :=
  [(namePath, .str h.name.val)] ++ h.description.toList.map (fun d => (descriptionPath, .str d)) ++
    h.type.toList.map (fun t => (attributePath "data_type", .str t))

section Stated
variable (ns : Stripped) (events : List Event)

/-- The table that the hierarchy of a dataset names. -/
def resolvedTable (key : DatasetKey) : Option (Stripped × Stripped × Stripped) :=
  (hierarchiesOf events key).head?.bind physicalLevels

/-- The name of the table, else that of the dataset. -/
def resolvedName (key : DatasetKey) : Stripped :=
  match resolvedTable events key with
  | some (_, _, table) => table
  | none => key.2

/-- A record of an event that lists the dataset, or of a column lineage facet that it is an input of. -/
def Mentioned (key : DatasetKey) (r : ProvenanceRecord) : Prop :=
  (∃ e ∈ events, ∃ d ∈ e.datasets, d.key = key ∧ r = datasetProvenance e.producer key e.schemaUrl) ∨
    ∃ d ∈ events.flatMap Event.datasets, ∃ l ∈ d.lineage, ∃ x ∈ l.entries, x.input = key ∧ r = l.record d.key

/-- A facet with a record states something about a dataset. -/
def FacetStated (key : DatasetKey) (m : FacetMaterial) (r : ProvenanceRecord) : Prop :=
  ∃ d ∈ events.flatMap Event.datasets, d.key = key ∧ ∃ f ∈ d.facets, f.material = m ∧ f.record key = r

/-- A column lineage facet with a record asserts something. -/
def Asserted (key : LineageKey) (r : ProvenanceRecord) : Prop :=
  ∃ d ∈ events.flatMap Event.datasets, ∃ l ∈ d.lineage, ∃ x ∈ l.entries,
    key = (d.key, x.output, x.input, x.field) ∧ r = l.record d.key

/-- The name of a table is supported by the hierarchy facets that name it, that of another dataset by every
mention of it. -/
def DatasetNamed (identity : GraphNodeIdentity) (path : PropertyPath) (value : CanonicalValue)
    (r : ProvenanceRecord) : Prop :=
  ∃ key, identity = resolvedIdentity ns events key ∧ path = namePath ∧
    value = canonicalizeJsonValue (.str (resolvedName events key).val) ∧ (∃ r', Mentioned events key r') ∧
    if (resolvedTable events key).isSome then ∃ levels, FacetStated events key (.hierarchy levels) r
    else Mentioned events key r

/-- An attribute is supported by the facets that state it. -/
def AttributeStated (identity : GraphNodeIdentity) (path : PropertyPath) (value : CanonicalValue)
    (r : ProvenanceRecord) : Prop :=
  ∃ key m, FacetStated events key m r ∧ identity = resolvedIdentity ns events key ∧
    ∃ a ∈ facetAttributes m, path = attributePath a.1 ∧ value = canonicalizeJsonValue a.2

/-- A property of a column is supported by the schema facets that declare the column with it. -/
def ColumnStated (identity : GraphNodeIdentity) (path : PropertyPath) (value : CanonicalValue)
    (r : ProvenanceRecord) : Prop :=
  ∃ key fields, FacetStated events key (.schema fields) r ∧
    ∃ c ∈ declaredColumns ns (resolvedIdentity ns events key) fields,
      identity = .child ns kindColumn c.2.name c.1 ∧
      ∃ a ∈ c.2.properties, path = a.1 ∧ value = canonicalizeJsonValue a.2

/-- A schema facet declares the column. -/
def Declared (identity : GraphNodeIdentity) : Prop :=
  ∃ key fields r, FacetStated events key (.schema fields) r ∧
    ∃ c ∈ declaredColumns ns (resolvedIdentity ns events key) fields, identity = .child ns kindColumn c.2.name c.1

/-- The columns that an assertion mentions, each with its name. -/
def mentionedColumns (key : LineageKey) : List (GraphNodeIdentity × Stripped) :=
  [(.child ns kindColumn key.2.1 (resolvedIdentity ns events key.1), key.2.1),
    (.child ns kindColumn key.2.2.2 (resolvedIdentity ns events key.2.2.1), key.2.2.2)]

/-- The assertion is the first, in the order of the keys, that mentions the column. -/
def FirstMention (identity : GraphNodeIdentity) (key : LineageKey) : Prop :=
  identity ∈ (mentionedColumns ns events key).map Prod.fst ∧
    ∀ key' r', Asserted events key' r' → identity ∈ (mentionedColumns ns events key').map Prod.fst →
      lineageSortKey key ≤ lineageSortKey key'

/-- The name of a column that no schema declares is supported by the first assertion that mentions it. -/
def LineageColumnNamed (identity : GraphNodeIdentity) (path : PropertyPath) (value : CanonicalValue)
    (r : ProvenanceRecord) : Prop :=
  ∃ key, Asserted events key r ∧ ¬ Declared ns events identity ∧ FirstMention ns events identity key ∧
    path = namePath ∧ ∃ name, (identity, name) ∈ mentionedColumns ns events key ∧
      value = canonicalizeJsonValue (.str name.val)

end Stated

/-! ### Schema columns -/

section Schema
variable {ns : Stripped} {records : List ProvenanceRecord}

lemma items_dataType (type : Option String) :
    (canonicalizeAttributesObject (some (type.toList.map fun t => ("data_type", Json.str t)))).items =
      type.toList.map fun t => ("data_type", Json.str t) := by
  cases type <;> rfl

lemma mem_observeColumnNode {parent : GraphNodeIdentity} {h : FieldHead} {o : PendingObservation} :
    o ∈ observeColumnNode (fieldNode parent ns records h) records ↔
      ∃ a ∈ h.properties, ∃ r ∈ records, o = (.child ns kindColumn h.name parent, a.1, a.2, r) := by
  have hitems : (fieldNode parent ns records h).attributes.items =
      h.type.toList.map fun t => ("data_type", Json.str t) := items_dataType h.type
  have hsides : observeColumnNode (fieldNode parent ns records h) records =
      h.properties.flatMap fun a => observeWithProvenances (.child ns kindColumn h.name parent) a.1 a.2 records := by
    unfold observeColumnNode FieldHead.properties
    rw [hitems, List.flatMap_append, List.flatMap_append, List.flatMap_singleton, List.flatMap_map, List.flatMap_map,
      List.flatMap_map]
    rfl
  rw [hsides]
  simp only [List.mem_flatMap, observeWithProvenances, List.mem_map, eq_comm]

mutual
lemma mapSchemaFields_eq : ∀ (parent : GraphNodeIdentity) (fs : List SchemaField),
    (mapSchemaFields ns records parent fs).nodes =
        (declaredColumns ns parent fs).map (fun c => fieldNode c.1 ns records c.2) ∧
      (mapSchemaFields ns records parent fs).pending =
        (declaredColumns ns parent fs).flatMap (fun c => observeColumnNode (fieldNode c.1 ns records c.2) records)
  | _, [] => by
    rw [mapSchemaFields, declaredColumns]
    exact ⟨rfl, rfl⟩
  | parent, f :: fs => by
    obtain ⟨hnodes, hpending⟩ := mapSchemaField_eq parent f
    obtain ⟨hnodes', hpending'⟩ := mapSchemaFields_eq parent fs
    rw [mapSchemaFields, declaredColumns, List.map_append, List.flatMap_append, MappedParts.nodes_append,
      MappedParts.pending_append, hnodes, hpending, hnodes', hpending']
    exact ⟨rfl, rfl⟩

lemma mapSchemaField_eq : ∀ (parent : GraphNodeIdentity) (f : SchemaField),
    (mapSchemaField ns records parent f).nodes =
        (declaredColumn ns parent f).map (fun c => fieldNode c.1 ns records c.2) ∧
      (mapSchemaField ns records parent f).pending =
        (declaredColumn ns parent f).flatMap (fun c => observeColumnNode (fieldNode c.1 ns records c.2) records)
  | parent, .plain h => by
    rw [mapSchemaField, declaredColumn]
    exact ⟨rfl, (List.append_nil _).symm⟩
  | parent, .nested h fs => by
    obtain ⟨hnodes, hpending⟩ := mapSchemaFields_eq (.child ns kindColumn h.name parent) fs
    rw [mapSchemaField, declaredColumn, MappedParts.nodes_append, MappedParts.pending_append, hnodes, hpending]
    exact ⟨rfl, rfl⟩
end

end Schema

/-! ### The parts of the datasets -/

section Datasets
variable {ns : Stripped}

lemma ensureContainers_pending (database schema : Stripped) (seen : List GraphNodeIdentity) :
    (ensureContainers ns database schema seen).1.pending = [] := by
  unfold ensureContainers
  dsimp only
  split_ifs <;> rfl

lemma ensureContainers_nodes (database schema : Stripped) (seen : List GraphNodeIdentity) :
    (ensureContainers ns database schema seen).1.nodes.filter (fun n => n.identity.kind = kindColumn) = [] := by
  unfold ensureContainers
  dsimp only
  split_ifs <;> rfl

/-- The columns that the schema facet of a dataset declares. -/
def DatasetState.declared (ns : Stripped) (identity : GraphNodeIdentity) (s : DatasetState) :
    List (GraphNodeIdentity × FieldHead) :=
  match s.stated .schema with
  | some (.schema fields) => declaredColumns ns identity fields
  | _ => []

/-- The columns among some nodes. -/
def columnsAmong (nodes : List GraphNode) : List GraphNode := nodes.filter (fun n => n.identity.kind = kindColumn)

lemma columnsAmong_parts {containers schema : MappedParts} {node : GraphNode} {contains : List GraphEdge}
    {observed : List PendingObservation} (hcontainers : columnsAmong containers.nodes = [])
    (hnode : node.identity.kind ≠ kindColumn) :
    columnsAmong (containers ++ ⟨[node], contains, observed⟩ ++ schema).nodes = columnsAmong schema.nodes := by
  rw [columnsAmong, MappedParts.nodes_append, MappedParts.nodes_append, List.filter_append, List.filter_append,
    ← columnsAmong, hcontainers, List.filter_cons_of_neg (by simpa using hnode)]
  rfl

lemma kind_identity (key : DatasetKey) (s : DatasetState) : (s.identity ns key).kind ≠ kindColumn := by
  unfold DatasetState.identity
  split
  · exact fun h => table_ne_column (congrArg Stripped.val h)
  · exact fun h => dataset_ne_column (congrArg Stripped.val h)

lemma schemaParts_nodes (identity : GraphNodeIdentity) (s : DatasetState) :
    (columnsAmong (schemaParts ns identity s).nodes).map GraphNode.identity =
      (s.declared ns identity).map (fun c => .child ns kindColumn c.2.name c.1) := by
  unfold schemaParts DatasetState.declared DatasetState.stated
  cases s.facet .schema with
  | none => rfl
  | some f =>
    obtain ⟨material, records⟩ := f
    cases material with
    | schema fields =>
      dsimp only [Option.map_some]
      rw [(mapSchemaFields_eq identity fields).1, columnsAmong, List.filter_eq_self.mpr, List.map_map]
      · rfl
      · intro n hn
        obtain ⟨c, -, rfl⟩ := List.mem_map.mp hn
        exact decide_eq_true rfl
    | _ => rfl

lemma datasetParts_columns (seen : List GraphNodeIdentity) (key : DatasetKey) (s : DatasetState) :
    (columnsAmong (datasetParts ns seen key s).1.nodes).map GraphNode.identity =
      (s.declared ns (s.identity ns key)).map (fun c => .child ns kindColumn c.2.name c.1) := by
  rw [← schemaParts_nodes]
  refine congrArg (List.map GraphNode.identity) ?_
  unfold datasetParts
  dsimp only
  cases s.physical with
  | none => exact columnsAmong_parts rfl (kind_identity key s)
  | some levels => exact columnsAmong_parts (ensureContainers_nodes _ _ seen) (kind_identity key s)

lemma datasetParts_pending (seen : List GraphNodeIdentity) (key : DatasetKey) (s : DatasetState) :
    (datasetParts ns seen key s).1.pending =
      observeDatasetNode (s.identity ns key) (displayName key s) s ++ (schemaParts ns (s.identity ns key) s).pending := by
  unfold datasetParts
  dsimp only
  rw [MappedParts.pending_append, MappedParts.pending_append]
  refine congrArg (· ++ _) ?_
  cases s.physical with
  | none => rfl
  | some levels => exact congrArg (· ++ _) (ensureContainers_pending _ _ _)

/-- What all datasets contribute to some kind of part, where the containers contribute nothing. -/
lemma allDatasetParts_flatMap {β : Type} {f : MappedParts → List β} (hempty : f .empty = [])
    (happend : ∀ p q, f (p ++ q) = f p ++ f q) {g : DatasetKey → DatasetState → List β}
    (hg : ∀ seen key s, f (datasetParts ns seen key s).1 = g key s) (datasets : Dict DatasetKey DatasetState) :
    f (allDatasetParts ns datasets) = (sortedDatasets datasets).flatMap fun e => g e.1 e.2 := by
  have hrun : ∀ (es : List (DatasetKey × DatasetState)) (acc : MappedParts × List GraphNodeIdentity),
      f (es.foldl (addDataset ns) acc).1 = f acc.1 ++ es.flatMap fun e => g e.1 e.2 := by
    intro es
    induction es with
    | nil => exact fun _ => (List.append_nil _).symm
    | cons e es ih =>
      intro acc
      rw [List.foldl_cons, ih, addDataset, happend, hg, List.flatMap_cons, List.append_assoc]
  rw [allDatasetParts_eq, hrun, hempty, List.nil_append]

end Datasets

/-! ### Columns of assertions -/

section Lineage
variable {ns : Stripped} {datasets : Dict DatasetKey DatasetState}

/-- The columns that an entry mentions. -/
def entryColumns (ns : Stripped) (datasets : Dict DatasetKey DatasetState) (key : LineageKey) :
    List (GraphNodeIdentity × Stripped) :=
  [(.child ns kindColumn key.2.1 (identityOf ns datasets key.1), key.2.1),
    (.child ns kindColumn key.2.2.2 (identityOf ns datasets key.2.2.1), key.2.2.2)]

/-- The reports of the name of a column. -/
def Names (records : List ProvenanceRecord) (c : GraphNodeIdentity × Stripped) (o : PendingObservation) : Prop :=
  ∃ r ∈ records, o = (c.1, namePath, .str c.2.val, r)

lemma ensureLineageColumn_keys {parent : GraphNodeIdentity} {field : Stripped} {records : List ProvenanceRecord}
    {acc : LineageColumns} (c : GraphNodeIdentity) :
    c ∈ (ensureLineageColumn parent ns field records acc).columns.keys ↔
      c ∈ acc.columns.keys ∨ c = .child ns kindColumn field parent := by
  unfold ensureLineageColumn
  dsimp only
  cases acc.columns.get? (.child ns kindColumn field parent) with
  | none =>
    dsimp only
    rw [Dict.mem_keys_set, or_comm]
  | some existing =>
    dsimp only
    rw [Dict.mem_keys_set, or_comm]

lemma ensureLineageColumn_pending {parent : GraphNodeIdentity} {field : Stripped} {records : List ProvenanceRecord}
    {acc : LineageColumns} (o : PendingObservation) :
    o ∈ (ensureLineageColumn parent ns field records acc).parts.pending ↔ o ∈ acc.parts.pending ∨
      (.child ns kindColumn field parent ∉ acc.columns.keys ∧
        Names records (.child ns kindColumn field parent, field) o) := by
  unfold ensureLineageColumn
  dsimp only
  cases hget : acc.columns.get? (.child ns kindColumn field parent) with
  | none =>
    have hobserved : ∀ node : GraphNode, node.description = none → node.attributes.items = [] →
        observeColumnNode node records = observeWithProvenances node.identity namePath (.str node.name.val) records := by
      intro node hd ha
      rw [observeColumnNode, hd, ha]
      simp
    dsimp only
    rw [MappedParts.pending_append, List.mem_append, hobserved _ rfl rfl]
    refine or_congr_right ?_
    rw [and_iff_right (Dict.get?_eq_none.mp hget)]
    simp only [observeWithProvenances, List.mem_map, Names, eq_comm, mappedNode]
  | some existing =>
    have hmem : GraphNodeIdentity.child ns kindColumn field parent ∈ acc.columns.keys :=
      Dict.mem_keys_iff.mpr ⟨existing, hget⟩
    dsimp only
    rw [MappedParts.pending_append, List.append_nil]
    exact (or_iff_left fun h => h.1 hmem).symm

lemma ensureEntry_keys {acc : LineageColumns} (e : LineageKey × List ProvenanceRecord) (c : GraphNodeIdentity) :
    c ∈ (ensureEntry ns datasets acc e).columns.keys ↔
      c ∈ acc.columns.keys ∨ c ∈ (entryColumns ns datasets e.1).map Prod.fst := by
  rw [ensureEntry, ensureLineageColumn_keys, ensureLineageColumn_keys, or_assoc]
  simp [entryColumns]

/-- The columns that an entry is the first to mention are reported with its records. -/
lemma ensureEntry_pending {acc : LineageColumns} (e : LineageKey × List ProvenanceRecord) (o : PendingObservation) :
    o ∈ (ensureEntry ns datasets acc e).parts.pending ↔ o ∈ acc.parts.pending ∨
      ∃ c ∈ entryColumns ns datasets e.1, c.1 ∉ acc.columns.keys ∧ Names e.2 c o := by
  rw [ensureEntry, ensureLineageColumn_pending, ensureLineageColumn_pending, or_assoc]
  refine or_congr_right ?_
  simp only [ensureLineageColumn_keys, entryColumns, List.mem_cons, List.not_mem_nil, or_false, exists_eq_or_imp,
    exists_eq_left, not_or]
  by_cases hsame : GraphNodeIdentity.child ns kindColumn e.1.2.2.2 (identityOf ns datasets e.1.2.2.1) =
      .child ns kindColumn e.1.2.1 (identityOf ns datasets e.1.1)
  · have hname : e.1.2.2.2 = e.1.2.1 := (GraphNodeIdentity.child.inj hsame).2.2.1
    rw [hsame, hname]
    simp
  · simp [hsame]

variable {known : List GraphNodeIdentity} {done rest : List (LineageKey × List ProvenanceRecord)} {acc : LineageColumns}

/-- What has been reported of the columns that some entries mention, beside columns known before. -/
structure Reported (ns : Stripped) (datasets : Dict DatasetKey DatasetState) (known : List GraphNodeIdentity)
    (done : List (LineageKey × List ProvenanceRecord)) (acc : LineageColumns) : Prop where
  keys : ∀ c, c ∈ acc.columns.keys ↔ c ∈ known ∨ ∃ e ∈ done, c ∈ (entryColumns ns datasets e.1).map Prod.fst
  pending : ∀ o, o ∈ acc.parts.pending ↔ ∃ e ∈ done, ∃ c ∈ entryColumns ns datasets e.1, c.1 ∉ known ∧
    (∀ e' ∈ done, c.1 ∈ (entryColumns ns datasets e'.1).map Prod.fst → lineageSortKey e.1 ≤ lineageSortKey e'.1) ∧
    Names e.2 c o

/-- An entry that comes after all others is the first to mention the columns that are new with it. -/
lemma Reported.next (h : Reported ns datasets known done acc) {e : LineageKey × List ProvenanceRecord}
    (hlast : ∀ e' ∈ done, lineageSortKey e'.1 < lineageSortKey e.1) :
    Reported ns datasets known (done ++ [e]) (ensureEntry ns datasets acc e) where
  keys c := by
    rw [ensureEntry_keys, h.keys, or_assoc]
    simp only [List.mem_append, List.mem_singleton, or_and_right, exists_or, exists_eq_left]
  pending o := by
    rw [ensureEntry_pending, h.pending]
    constructor
    · rintro (⟨d, hd, c, hc, hnew, hfirst, hnames⟩ | ⟨c, hc, hnew, hnames⟩)
      · refine ⟨d, List.mem_append_left _ hd, c, hc, hnew, fun e' he' hmention => ?_, hnames⟩
        rcases List.mem_append.mp he' with he' | he'
        · exact hfirst e' he' hmention
        · exact List.mem_singleton.mp he' ▸ (hlast d hd).le
      · rw [h.keys, not_or] at hnew
        refine ⟨e, by simp, c, hc, hnew.1, fun e' he' hmention => ?_, hnames⟩
        rcases List.mem_append.mp he' with he' | he'
        · exact absurd ⟨e', he', hmention⟩ hnew.2
        · exact List.mem_singleton.mp he' ▸ le_rfl
    · rintro ⟨d, hd, c, hc, hnew, hfirst, hnames⟩
      rcases List.mem_append.mp hd with hd | hd
      · exact Or.inl ⟨d, hd, c, hc, hnew, fun e' he' => hfirst e' (List.mem_append_left _ he'), hnames⟩
      · obtain rfl := List.mem_singleton.mp hd
        refine Or.inr ⟨c, hc, ?_, hnames⟩
        rw [h.keys, not_or]
        refine ⟨hnew, ?_⟩
        rintro ⟨e', he', hmention⟩
        exact absurd (hfirst e' (List.mem_append_left _ he') hmention) (not_le.mpr (hlast e' he'))

/-- Entries in the order of their keys are reported one after the other. -/
theorem Reported.run (h : Reported ns datasets known done acc)
    (hsorted : (done ++ rest).Pairwise (fun e e' => lineageSortKey e.1 < lineageSortKey e'.1)) :
    Reported ns datasets known (done ++ rest) (rest.foldl (ensureEntry ns datasets) acc) := by
  induction rest generalizing done acc with
  | nil =>
    rw [List.append_nil]
    exact h
  | cons e rest ih =>
    have hlast : ∀ e' ∈ done, lineageSortKey e'.1 < lineageSortKey e.1 := fun e' he' =>
      (List.pairwise_append.mp hsorted).2.2 e' he' e (List.mem_cons_self ..)
    have hassoc : done ++ e :: rest = done ++ [e] ++ rest := by simp
    rw [hassoc] at hsorted ⊢
    exact ih (h.next hlast) hsorted

lemma sortedLineage_pairwise (lineage : Dict LineageKey (List ProvenanceRecord)) :
    (sortedLineage lineage).Pairwise (fun e e' => lineageSortKey e.1 < lineageSortKey e'.1) := by
  have hsorted : (sortedLineage lineage).Pairwise (fun e e' => lineageSortKey e.1 ≤ lineageSortKey e'.1) :=
    sortBy_sorted _ _
  have hkeys : ((sortedLineage lineage).map Prod.fst).Nodup := ((sortBy_perm _ _).map Prod.fst).nodup_iff.mpr lineage.nodup
  have hne : (sortedLineage lineage).Pairwise (fun e e' => e.1 ≠ e'.1) := List.pairwise_map.mp hkeys
  exact (hsorted.and hne).imp fun h => lt_of_le_of_ne h.1 fun heq => h.2 (lineageSortKey_injective heq)

/-- The columns of all assertions, reported where they are new. -/
theorem ensured_reported (nodes : List GraphNode) (lineage : Dict LineageKey (List ProvenanceRecord)) :
    Reported ns datasets ((columnsAmong nodes).map GraphNode.identity) (sortedLineage lineage)
      ((sortedLineage lineage).foldl (ensureEntry ns datasets) ⟨columnsOf nodes, .empty⟩) := by
  have hstart : Reported ns datasets ((columnsAmong nodes).map GraphNode.identity) [] ⟨columnsOf nodes, .empty⟩ := by
    refine ⟨fun c => ?_, fun o => ?_⟩
    · rw [columnsOf, Dict.mem_keys_index, ← List.mem_map, ← columnsAmong]
      simp
    · simp
  exact hstart.run (sortedLineage_pairwise lineage)

end Lineage

/-! ### All reports -/

section Reports
variable {ns : Stripped} {events : List Event} {st : Ingested}

lemma mem_sortedDatasets {datasets : Dict DatasetKey DatasetState} {key : DatasetKey} {s : DatasetState} :
    (key, s) ∈ sortedDatasets datasets ↔ datasets.get? key = some s := by
  rw [sortedDatasets, mem_sortBy, Dict.get?_eq_some]

/-- The columns that the schema facets of all datasets declare. -/
lemma mem_datasetColumns (datasets : Dict DatasetKey DatasetState) (identity : GraphNodeIdentity) :
    identity ∈ (columnsAmong (allDatasetParts ns datasets).nodes).map GraphNode.identity ↔
      ∃ key s, datasets.get? key = some s ∧
        identity ∈ (s.declared ns (s.identity ns key)).map (fun d => .child ns kindColumn d.2.name d.1) := by
  have happend : ∀ p q : MappedParts, (columnsAmong (p ++ q).nodes).map GraphNode.identity =
      (columnsAmong p.nodes).map GraphNode.identity ++ (columnsAmong q.nodes).map GraphNode.identity := by
    intro p q
    rw [columnsAmong, MappedParts.nodes_append, List.filter_append, List.map_append]
    rfl
  have hall : (columnsAmong (allDatasetParts ns datasets).nodes).map GraphNode.identity =
      (sortedDatasets datasets).flatMap fun e =>
        (e.2.declared ns (e.2.identity ns e.1)).map fun d => .child ns kindColumn d.2.name d.1 :=
    allDatasetParts_flatMap (f := fun p => (columnsAmong p.nodes).map GraphNode.identity) rfl happend
      datasetParts_columns datasets
  rw [hall, List.mem_flatMap, Prod.exists]
  simp only [mem_sortedDatasets]

lemma mem_datasetPending (datasets : Dict DatasetKey DatasetState) (o : PendingObservation) :
    o ∈ (allDatasetParts ns datasets).pending ↔ ∃ key s, datasets.get? key = some s ∧
      (o ∈ observeDatasetNode (s.identity ns key) (displayName key s) s ∨
        o ∈ (schemaParts ns (s.identity ns key) s).pending) := by
  rw [allDatasetParts_flatMap (f := MappedParts.pending) rfl MappedParts.pending_append datasetParts_pending,
    List.mem_flatMap, Prod.exists]
  simp only [mem_sortedDatasets, List.mem_append]

lemma mem_pending (o : PendingObservation) : o ∈ (ingestedParts ns st).pending ↔
    (∃ key s, st.datasets.get? key = some s ∧
      (o ∈ observeDatasetNode (s.identity ns key) (displayName key s) s ∨
        o ∈ (schemaParts ns (s.identity ns key) s).pending)) ∨
    ∃ e ∈ sortedLineage st.lineage, ∃ c ∈ entryColumns ns st.datasets e.1,
      (¬ ∃ key s, st.datasets.get? key = some s ∧
        c.1 ∈ (s.declared ns (s.identity ns key)).map (fun d => .child ns kindColumn d.2.name d.1)) ∧
      (∀ e' ∈ sortedLineage st.lineage, c.1 ∈ (entryColumns ns st.datasets e'.1).map Prod.fst →
        lineageSortKey e.1 ≤ lineageSortKey e'.1) ∧ Names e.2 c o := by
  unfold ingestedParts
  dsimp only
  rw [columnLineageParts_eq]
  simp only [MappedParts.pending_append, List.append_nil, List.mem_append, mem_datasetPending,
    (ensured_reported _ _).pending, mem_datasetColumns]

/-- What is kept of the facets is what some facet states. -/
lemma exists_facet_iff {X : Set DatasetFact} {s : DatasetState} (h : s.SumsUp X) {P : FacetMaterial → Prop}
    {r : ProvenanceRecord} :
    (∃ kind f, s.facet kind = some f ∧ P f.material ∧ r ∈ f.provenances) ↔ ∃ m, .facet m r ∈ X ∧ P m := by
  constructor
  · rintro ⟨kind, f, hf, hP, hr⟩
    exact ⟨f.material, (((h.facets.sums_of_get? hf).2 f.material r).mpr ⟨rfl, hr⟩).2, hP⟩
  · rintro ⟨m, hm, hP⟩
    have hmem : (m, r) ∈ aboutFacet X m.key := ⟨rfl, hm⟩
    obtain ⟨f, hf⟩ := h.facets.exists_get? hmem
    obtain ⟨rfl, hr⟩ := ((h.facets.sums_of_get? hf).2 m r).mp hmem
    exact ⟨_, f, hf, hP, hr⟩

/-- A facet with attributes is one of those that are looked up for them. -/
lemma mem_attributeFacets {m : FacetMaterial} {a : String × Json} (h : a ∈ facetAttributes m) : m.key ∈ attributeFacets := by
  cases m with
  | schema fields => cases h
  | _ => simp [attributeFacets, FacetMaterial.key]

lemma mem_observeDatasetNode {X : Set DatasetFact} {s : DatasetState} (h : s.SumsUp X) {identity : GraphNodeIdentity}
    {name : Stripped} {o : PendingObservation} :
    o ∈ observeDatasetNode identity name s ↔
      (∃ r ∈ nameProvenances s, o = (identity, namePath, .str name.val, r)) ∨
      ∃ m r, .facet m r ∈ X ∧ ∃ a ∈ facetAttributes m, o = (identity, attributePath a.1, a.2, r) := by
  rw [observeDatasetNode, List.mem_append]
  refine or_congr ?_ ?_
  · simp only [observeWithProvenances, List.mem_map, eq_comm]
  rw [List.mem_flatMap]
  constructor
  · rintro ⟨kind, -, ho⟩
    cases hf : s.facet kind with
    | none =>
      rw [hf] at ho
      cases ho
    | some f =>
      rw [hf] at ho
      obtain ⟨a, ha, ho⟩ := List.mem_flatMap.mp ho
      obtain ⟨r, hr, rfl⟩ := List.mem_map.mp ho
      obtain ⟨m, hm, rfl⟩ := (exists_facet_iff h (P := (· = f.material)) (r := r)).mp ⟨kind, f, hf, rfl, hr⟩
      exact ⟨f.material, r, hm, a, ha, rfl⟩
  · rintro ⟨m, r, hm, a, ha, rfl⟩
    obtain ⟨kind, f, hf, rfl, hr⟩ := (exists_facet_iff h (P := (· = m))).mpr ⟨m, hm, rfl⟩
    obtain ⟨rfl, -⟩ := exists_stated h.facets hf
    refine ⟨_, mem_attributeFacets ha, ?_⟩
    rw [hf]
    exact List.mem_flatMap.mpr ⟨a, ha, List.mem_map.mpr ⟨r, hr, rfl⟩⟩

/-! ### The reports are what the events state -/

/-- Who mentions a dataset. -/
lemma mentioned_mem_factsOf {key : DatasetKey} {r : ProvenanceRecord} :
    .dataset key (.mentioned r) ∈ factsOf events ↔ Mentioned events key r := by
  rw [mem_factsOf_of_datasets (fun _ => Fact.noConfusion) fun _ _ => Fact.noConfusion]
  constructor
  · rintro ⟨e, he, d, hd, hf⟩
    rcases mem_datasetFacts.mp hf with h | ⟨g, -, h⟩ | ⟨l, hl, x, hx, h | h⟩
    · cases h
      exact Or.inl ⟨e, he, d, hd, rfl, rfl⟩
    · cases h
    · cases h
    · cases h
      exact Or.inr ⟨d, List.mem_flatMap.mpr ⟨e, he, hd⟩, l, hl, x, hx, rfl, rfl⟩
  · rintro (⟨e, he, d, hd, rfl, rfl⟩ | ⟨d, hd, l, hl, x, hx, rfl, rfl⟩)
    · exact ⟨e, he, d, hd, mem_datasetFacts.mpr (Or.inl rfl)⟩
    · obtain ⟨e, he, hd⟩ := List.mem_flatMap.mp hd
      exact ⟨e, he, d, hd, mem_datasetFacts.mpr (Or.inr (Or.inr ⟨l, hl, x, hx, Or.inr rfl⟩))⟩

section Read
variable (h : st.SumsUp (factsOf events)) {key : DatasetKey} {s : DatasetState}
include h

lemma identity_eq (hs : st.datasets.get? key = some s) : s.identity ns key = resolvedIdentity ns events key := by
  have hidentity : identityOf ns st.datasets key = resolvedIdentity ns events key := identityOf_eq h key
  rw [identityOf, hs] at hidentity
  exact hidentity

lemma physical_eq (hs : st.datasets.get? key = some s) : s.physical = resolvedTable events key := by
  have hlevels := levels_eq_head? h key
  rw [hs] at hlevels
  exact congrArg (Option.bind · physicalLevels) hlevels

lemma displayName_eq (hs : st.datasets.get? key = some s) : displayName key s = resolvedName events key := by
  have hphysical := physical_eq h hs
  cases htable : resolvedTable events key with
  | none => simp only [displayName, resolvedName, hphysical, htable]
  | some levels => simp only [displayName, resolvedName, hphysical, htable]

lemma exists_state_iff : (∃ s, st.datasets.get? key = some s) ↔ ∃ r, Mentioned events key r := by
  constructor
  · rintro ⟨s, hs⟩
    obtain ⟨r, hr⟩ := (h.datasets.sums_of_get? hs).mentioned
    exact ⟨r, mentioned_mem_factsOf.mp hr⟩
  · rintro ⟨r, hr⟩
    exact h.datasets.exists_get? (mentioned_mem_factsOf.mpr hr)

lemma exists_state_of_facet {m : FacetMaterial} {r : ProvenanceRecord} (hm : FacetStated events key m r) :
    ∃ s, st.datasets.get? key = some s :=
  h.datasets.exists_get? (facet_mem_factsOf.mpr hm)

lemma facetStated_iff (hs : st.datasets.get? key = some s) {m : FacetMaterial} {r : ProvenanceRecord} :
    FacetStated events key m r ↔ ∃ f, s.facet m.key = some f ∧ f.material = m ∧ r ∈ f.provenances := by
  have hX := h.datasets.sums_of_get? hs
  constructor
  · intro hm
    obtain ⟨kind, f, hf, rfl, hr⟩ := (exists_facet_iff hX (P := (· = m))).mpr ⟨m, facet_mem_factsOf.mpr hm, rfl⟩
    obtain ⟨rfl, -⟩ := exists_stated hX.facets hf
    exact ⟨f, hf, rfl, hr⟩
  · rintro ⟨f, hf, rfl, hr⟩
    obtain ⟨m, hm, rfl⟩ := (exists_facet_iff hX (P := (· = f.material))).mp ⟨_, f, hf, rfl, hr⟩
    exact facet_mem_factsOf.mp hm

/-- The records of the name of a dataset. -/
lemma nameProvenances_iff (hs : st.datasets.get? key = some s) {r : ProvenanceRecord} : r ∈ nameProvenances s ↔
    if (resolvedTable events key).isSome then ∃ levels, FacetStated events key (.hierarchy levels) r
    else Mentioned events key r := by
  have hX := h.datasets.sums_of_get? hs
  have hmentioned : r ∈ s.provenances ↔ Mentioned events key r := (hX.provenances r).trans mentioned_mem_factsOf
  have hstated : ∀ levels, FacetStated events key (.hierarchy levels) r ↔
      ∃ f, s.facet .hierarchy = some f ∧ f.material = .hierarchy levels ∧ r ∈ f.provenances :=
    fun levels => facetStated_iff h hs
  simp only [nameProvenances, ← physical_eq h hs, hstated]
  cases hf : s.facet .hierarchy with
  | none =>
    have hphysical : s.physical = none := by
      rw [DatasetState.physical, DatasetState.levels, hf]
      rfl
    rw [hphysical]
    exact hmentioned
  | some f =>
    dsimp only
    split_ifs with hphysical
    · obtain ⟨levels, hlevels⟩ : ∃ levels, s.levels = some levels := by
        cases hl : s.levels with
        | none =>
          rw [DatasetState.physical, hl] at hphysical
          cases hphysical
        | some levels => exact ⟨levels, rfl⟩
      have hmaterial : f.material = .hierarchy levels := by
        have hstated := (levels_iff s levels).mp hlevels
        rw [DatasetState.stated, hf] at hstated
        exact Option.some.inj hstated
      constructor
      · exact fun hr => ⟨levels, f, rfl, hmaterial, hr⟩
      · rintro ⟨_, f', hf', -, hr⟩
        exact Option.some.inj hf' ▸ hr
    · exact hmentioned

lemma declared_iff (hs : st.datasets.get? key = some s) {c : GraphNodeIdentity × FieldHead} :
    c ∈ s.declared ns (s.identity ns key) ↔ ∃ fields r, FacetStated events key (.schema fields) r ∧
      c ∈ declaredColumns ns (resolvedIdentity ns events key) fields := by
  rw [identity_eq h hs, DatasetState.declared]
  have hX := h.datasets.sums_of_get? hs
  constructor
  · intro hc
    split at hc
    · rename_i fields hstated
      obtain ⟨-, r, hr⟩ := (stated_iff hX.facets).mp hstated
      exact ⟨fields, r, facet_mem_factsOf.mp hr, hc⟩
    · cases hc
  · rintro ⟨fields, r, hstated, hc⟩
    have hkept : s.stated .schema = some (.schema fields) :=
      (stated_iff hX.facets).mpr ⟨rfl, r, facet_mem_factsOf.mpr hstated⟩
    rw [hkept]
    exact hc

lemma exists_declared_iff {identity : GraphNodeIdentity} :
    (∃ key s, st.datasets.get? key = some s ∧
      identity ∈ (s.declared ns (s.identity ns key)).map (fun d => .child ns kindColumn d.2.name d.1)) ↔
      Declared ns events identity := by
  constructor
  · rintro ⟨key, s, hs, hmem⟩
    obtain ⟨c, hc, rfl⟩ := List.mem_map.mp hmem
    obtain ⟨fields, r, hstated, hc⟩ := (declared_iff h hs).mp hc
    exact ⟨key, fields, r, hstated, c, hc, rfl⟩
  · rintro ⟨key, fields, r, hstated, c, hc, rfl⟩
    obtain ⟨s, hs⟩ := exists_state_of_facet h hstated
    exact ⟨key, s, hs, List.mem_map_of_mem ((declared_iff h hs).mpr ⟨fields, r, hstated, hc⟩)⟩

lemma schemaParts_pending (hs : st.datasets.get? key = some s) {o : PendingObservation} :
    o ∈ (schemaParts ns (s.identity ns key) s).pending ↔
      ∃ fields r, FacetStated events key (.schema fields) r ∧
        ∃ c ∈ declaredColumns ns (resolvedIdentity ns events key) fields, ∃ a ∈ c.2.properties,
          o = (.child ns kindColumn c.2.name c.1, a.1, a.2, r) := by
  rw [identity_eq h hs]
  have hstated : ∀ fields r, FacetStated events key (.schema fields) r ↔
      ∃ f, s.facet .schema = some f ∧ f.material = .schema fields ∧ r ∈ f.provenances :=
    fun fields r => facetStated_iff h hs
  simp only [hstated, schemaParts]
  cases hf : s.facet .schema with
  | none => simp
  | some f =>
    obtain ⟨material, records⟩ := f
    cases material with
    | schema fields =>
      dsimp only
      rw [(mapSchemaFields_eq _ fields).2, List.mem_flatMap]
      simp only [mem_observeColumnNode]
      constructor
      · rintro ⟨c, hc, a, ha, r, hr, rfl⟩
        exact ⟨fields, r, ⟨_, rfl, rfl, hr⟩, c, hc, a, ha, rfl⟩
      · rintro ⟨_, r, ⟨_, hsame, hfields, hr⟩, c, hc, a, ha, rfl⟩
        obtain rfl := Option.some.inj hsame
        obtain rfl := FacetMaterial.schema.inj hfields
        exact ⟨c, hc, a, ha, r, hr, rfl⟩
    | _ => simp

lemma asserted_iff {e : LineageKey × List ProvenanceRecord} (he : e ∈ sortedLineage st.lineage) {r : ProvenanceRecord} :
    r ∈ e.2 ↔ Asserted events e.1 r :=
  ((h.lineage.sums_of_get? (Dict.get?_eq_some.mpr (mem_sortBy.mp he))).2 r).trans lineage_mem_factsOf

lemma exists_asserted_iff {lineageKey : LineageKey} :
    (∃ records, (lineageKey, records) ∈ sortedLineage st.lineage) ↔ ∃ r, Asserted events lineageKey r := by
  constructor
  · rintro ⟨records, he⟩
    obtain ⟨r, hr⟩ := (h.lineage.sums_of_get? (Dict.get?_eq_some.mpr (mem_sortBy.mp he))).1
    exact ⟨r, lineage_mem_factsOf.mp hr⟩
  · rintro ⟨r, hr⟩
    obtain ⟨records, hrecords⟩ := h.lineage.exists_get? (lineage_mem_factsOf.mpr hr)
    exact ⟨records, mem_sortBy.mpr (Dict.get?_eq_some.mp hrecords)⟩

lemma entryColumns_eq (lineageKey : LineageKey) :
    entryColumns ns st.datasets lineageKey = mentionedColumns ns events lineageKey := by
  rw [entryColumns, mentionedColumns, identityOf_eq h, identityOf_eq h]

/-! ### Reports as observations -/

variable {i : GraphNodeIdentity} {p : PropertyPath} {v : CanonicalValue} {r : ProvenanceRecord}

lemma namedReport_iff : (∃ j key s, st.datasets.get? key = some s ∧ (∃ r' ∈ nameProvenances s,
      (i, p, j, r) = (s.identity ns key, namePath, .str (displayName key s).val, r')) ∧ v = canonicalizeJsonValue j) ↔
    DatasetNamed ns events i p v r := by
  constructor
  · rintro ⟨j, key, s, hs, ⟨r', hr, heq⟩, rfl⟩
    cases heq
    refine ⟨key, identity_eq h hs, rfl, ?_, (exists_state_iff h).mp ⟨s, hs⟩, (nameProvenances_iff h hs).mp hr⟩
    rw [displayName_eq h hs]
  · rintro ⟨key, rfl, rfl, rfl, hmentioned, hr⟩
    obtain ⟨s, hs⟩ := (exists_state_iff h).mpr hmentioned
    refine ⟨_, key, s, hs, ⟨r, (nameProvenances_iff h hs).mpr hr, ?_⟩, rfl⟩
    rw [identity_eq h hs, displayName_eq h hs]

lemma attributeReport_iff : (∃ j key s, st.datasets.get? key = some s ∧
      (∃ m r', DatasetFact.facet m r' ∈ aboutDataset (factsOf events) key ∧ ∃ a ∈ facetAttributes m,
        (i, p, j, r) = (s.identity ns key, attributePath a.1, a.2, r')) ∧ v = canonicalizeJsonValue j) ↔
    AttributeStated ns events i p v r := by
  constructor
  · rintro ⟨j, key, s, hs, ⟨m, r', hm, a, ha, heq⟩, rfl⟩
    cases heq
    exact ⟨key, m, facet_mem_factsOf.mp hm, identity_eq h hs, a, ha, rfl, rfl⟩
  · rintro ⟨key, m, hm, rfl, a, ha, rfl, rfl⟩
    obtain ⟨s, hs⟩ := exists_state_of_facet h hm
    refine ⟨_, key, s, hs, ⟨m, r, facet_mem_factsOf.mpr hm, a, ha, ?_⟩, rfl⟩
    rw [identity_eq h hs]

lemma columnReport_iff : (∃ j key s, st.datasets.get? key = some s ∧
      (i, p, j, r) ∈ (schemaParts ns (s.identity ns key) s).pending ∧ v = canonicalizeJsonValue j) ↔
    ColumnStated ns events i p v r := by
  constructor
  · rintro ⟨j, key, s, hs, hmem, rfl⟩
    obtain ⟨fields, r', hstated, c, hc, a, ha, heq⟩ := (schemaParts_pending h hs).mp hmem
    cases heq
    exact ⟨key, fields, hstated, c, hc, rfl, a, ha, rfl, rfl⟩
  · rintro ⟨key, fields, hstated, c, hc, rfl, a, ha, rfl, rfl⟩
    obtain ⟨s, hs⟩ := exists_state_of_facet h hstated
    exact ⟨_, key, s, hs, (schemaParts_pending h hs).mpr ⟨fields, r, hstated, c, hc, a, ha, rfl⟩, rfl⟩

/-- The first entry that mentions a column is the first assertion that does. -/
lemma firstEntry_iff {lineageKey : LineageKey} {c : GraphNodeIdentity × Stripped}
    (hc : c ∈ mentionedColumns ns events lineageKey) :
    (∀ e' ∈ sortedLineage st.lineage, c.1 ∈ (entryColumns ns st.datasets e'.1).map Prod.fst →
      lineageSortKey lineageKey ≤ lineageSortKey e'.1) ↔ FirstMention ns events c.1 lineageKey := by
  simp only [entryColumns_eq h]
  constructor
  · refine fun hfirst => ⟨List.mem_map_of_mem hc, fun key' r' hasserted hmention => ?_⟩
    obtain ⟨records, he⟩ := (exists_asserted_iff h).mpr ⟨r', hasserted⟩
    exact hfirst _ he hmention
  · rintro ⟨-, hfirst⟩ e' he' hmention
    obtain ⟨r', hr'⟩ := (exists_asserted_iff h).mp ⟨e'.2, he'⟩
    exact hfirst e'.1 r' hr' hmention

lemma lineageReport_iff : (∃ j, (∃ e ∈ sortedLineage st.lineage, ∃ c ∈ entryColumns ns st.datasets e.1,
      ¬ Declared ns events c.1 ∧
      (∀ e' ∈ sortedLineage st.lineage, c.1 ∈ (entryColumns ns st.datasets e'.1).map Prod.fst →
        lineageSortKey e.1 ≤ lineageSortKey e'.1) ∧ Names e.2 c (i, p, j, r)) ∧ v = canonicalizeJsonValue j) ↔
    LineageColumnNamed ns events i p v r := by
  constructor
  · rintro ⟨j, ⟨e, he, c, hc, hnew, hfirst, r', hr, heq⟩, rfl⟩
    cases heq
    rw [entryColumns_eq h] at hc
    exact ⟨e.1, (asserted_iff h he).mp hr, hnew, (firstEntry_iff h hc).mp hfirst, rfl, c.2, hc, rfl⟩
  · rintro ⟨key, hasserted, hnew, hfirst, rfl, name, hc, rfl⟩
    obtain ⟨records, he⟩ := (exists_asserted_iff h).mpr ⟨r, hasserted⟩
    refine ⟨_, ⟨_, he, (i, name), ?_, hnew, (firstEntry_iff h hc).mpr hfirst, r, (asserted_iff h he).mpr hasserted, rfl⟩,
      rfl⟩
    rw [entryColumns_eq h]
    exact hc

/-- Everything that is reported, as the events state it. -/
theorem report_iff : (∃ j, (i, p, j, r) ∈ (ingestedParts ns st).pending ∧ v = canonicalizeJsonValue j) ↔
    DatasetNamed ns events i p v r ∨ AttributeStated ns events i p v r ∨ ColumnStated ns events i p v r ∨
      LineageColumnNamed ns events i p v r := by
  rw [← namedReport_iff h, ← attributeReport_iff h, ← columnReport_iff h, ← lineageReport_iff h]
  simp only [mem_pending, exists_declared_iff h]
  constructor
  · rintro ⟨j, ⟨key, s, hs, ho | ho⟩ | ho, hv⟩
    · rcases (mem_observeDatasetNode (h.datasets.sums_of_get? hs)).mp ho with ho | ho
      · exact Or.inl ⟨j, key, s, hs, ho, hv⟩
      · exact Or.inr (Or.inl ⟨j, key, s, hs, ho, hv⟩)
    · exact Or.inr (Or.inr (Or.inl ⟨j, key, s, hs, ho, hv⟩))
    · exact Or.inr (Or.inr (Or.inr ⟨j, ho, hv⟩))
  · rintro (⟨j, key, s, hs, ho, hv⟩ | ⟨j, key, s, hs, ho, hv⟩ | ⟨j, key, s, hs, ho, hv⟩ | ⟨j, ho, hv⟩)
    · exact ⟨j, Or.inl ⟨key, s, hs, Or.inl ((mem_observeDatasetNode (h.datasets.sums_of_get? hs)).mpr (Or.inl ho))⟩, hv⟩
    · exact ⟨j, Or.inl ⟨key, s, hs, Or.inl ((mem_observeDatasetNode (h.datasets.sums_of_get? hs)).mpr (Or.inr ho))⟩, hv⟩
    · exact ⟨j, Or.inl ⟨key, s, hs, Or.inr ho⟩, hv⟩
    · exact ⟨j, Or.inr ho, hv⟩

end Read

end Reports

/-- The observations of some parts are what is pending in them. -/
lemma observed_parts {parts : MappedParts} {i : GraphNodeIdentity} {p : PropertyPath} {v : CanonicalValue}
    {r : ProvenanceRecord} : Observed parts.observations.observations i p v r ↔
      ∃ j, (i, p, j, r) ∈ parts.pending ∧ v = canonicalizeJsonValue j := by
  refine (sameObservations_normalize _ i p v r).trans ?_
  constructor
  · rintro ⟨o, ho, rfl, rfl, rfl, hr⟩
    obtain ⟨⟨i, p, j, r'⟩, hq, rfl⟩ := List.mem_map.mp ho
    obtain rfl := List.mem_singleton.mp (mem_mergeProvenance.mp hr)
    exact ⟨j, hq, rfl⟩
  · rintro ⟨j, hq, rfl⟩
    exact ⟨_, List.mem_map_of_mem hq, rfl, rfl, rfl, mem_mergeProvenance.mpr (List.mem_singleton_self r)⟩

/-- The observations of a mapped document are those that its events state, each with exactly the records that
state it, and each once. -/
theorem openlineage_observations_exact (parsers : Parsers) {items : List Json} {nameSpace : String}
    {validated : List (List (String × Json))} {result : GovernanceMappingResult}
    (hvalid : validateOpenlineageEvents parsers (.arr items) = .ok validated)
    (hmap : mapOpenlineageEventsWithObservations parsers (.arr items) nameSpace = .ok result) :
    ∃ ns, requireNamespace nameSpace = .ok ns ∧
      (result.observations.observations.map PropertyObservation.groupingKey).Nodup ∧
      ∀ i p v r, Observed result.observations.observations i p v r ↔
        DatasetNamed ns (eventsOf items) i p v r ∨ AttributeStated ns (eventsOf items) i p v r ∨
          ColumnStated ns (eventsOf items) i p v r ∨ LineageColumnNamed ns (eventsOf items) i p v r := by
  rw [mapOpenlineageEvents_eq hvalid] at hmap
  obtain ⟨ns, hns, hmapped⟩ := bind_eq_ok.mp hmap
  obtain ⟨st, hst, hresult⟩ := mapOpenlineageResult_ok.mp hmapped
  rw [(MappedParts.result_eq_ok.mp hresult).2]
  refine ⟨ns, hns, normalizeObservations_keys_nodup _, fun i p v r => ?_⟩
  rw [observed_parts, report_iff (ingestEvents_sumsUp hst)]

/-- An event that describes a table with one column, which comes from a column of another table. -/
def describedSales : Json :=
  .obj [("schemaURL", .str datasetUrl), ("eventTime", .str "2026-01-01T00:00:00Z"), ("producer", .str "https://etl"),
    ("dataset", .obj [("namespace", .str "db"), ("name", .str "sales"), ("facets", .obj [
      ("datasetType", facetBody "https://type" [("datasetType", .str "VIEW")]),
      ("schema", facetBody "https://schema" [("fields", .arr [.obj [("name", .str "amount"), ("type", .str "INT")]])]),
      ("columnLineage", facetBody columnLineageSchemaUrl [("fields", .obj [("amount", .obj [("inputFields", .arr
        [.obj [("namespace", .str "db"), ("name", .str "orders"), ("field", .str "total")]])])])])])])]

lemma describedSales_valid :
    (validateOpenlineageEvents plainParsers (.arr [describedSales])).toOption.isSome = true := by
  decide +kernel

lemma describedSales_mapped :
    (mapOpenlineageEventsWithObservations plainParsers (.arr [describedSales]) "prod").toOption.isSome = true := by
  decide +kernel

theorem describedSales_observations : ∃ result ns,
    mapOpenlineageEventsWithObservations plainParsers (.arr [describedSales]) "prod" = .ok result ∧
      ∀ i p v r, Observed result.observations.observations i p v r ↔
        DatasetNamed ns (eventsOf [describedSales]) i p v r ∨ AttributeStated ns (eventsOf [describedSales]) i p v r ∨
          ColumnStated ns (eventsOf [describedSales]) i p v r ∨
          LineageColumnNamed ns (eventsOf [describedSales]) i p v r := by
  obtain ⟨validated, hvalid⟩ := exists_ok describedSales_valid
  obtain ⟨result, hmap⟩ := exists_ok describedSales_mapped
  obtain ⟨ns, -, -, h⟩ := openlineage_observations_exact plainParsers hvalid hmap
  exact ⟨result, ns, hmap, h⟩

end CollibraGovernance.Openlineage
