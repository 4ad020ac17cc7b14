import CollibraGovernance.Openlineage.Ingest

/-! States that sum up the same facts are mapped to the same graph and observations. -/
namespace CollibraGovernance.Openlineage
open Library Identity Domain

/-- The same records, in some order and number. -/
def SameRecords (rs rs' : List ProvenanceRecord) : Prop := ∀ r, r ∈ rs ↔ r ∈ rs'

def FacetState.Alike (f f' : FacetState) : Prop := f.material = f'.material ∧ SameRecords f.provenances f'.provenances

structure DatasetState.Alike (s s' : DatasetState) : Prop where
  provenances : SameRecords s.provenances s'.provenances
  facets : ∀ kind, Option.Rel FacetState.Alike (s.facet kind) (s'.facet kind)

structure RunState.Alike (run run' : RunState) : Prop where
  inputs : ∀ k, k ∈ run.inputs ↔ k ∈ run'.inputs
  outputs : ∀ k, k ∈ run.outputs ↔ k ∈ run'.outputs
  provenances : SameRecords run.provenances run'.provenances

structure Ingested.Alike (st st' : Ingested) : Prop where
  datasets : ∀ key, Option.Rel DatasetState.Alike (st.datasets.get? key) (st'.datasets.get? key)
  lineage : ∀ key, Option.Rel SameRecords (st.lineage.get? key) (st'.lineage.get? key)
  runs : ∀ runId, Option.Rel RunState.Alike (st.runs.get? runId) (st'.runs.get? runId)
  jobs : ∀ j, j ∈ st.jobs ↔ j ∈ st'.jobs

lemma RecordsOf.alike {X : Set ProvenanceRecord} {rs rs' : List ProvenanceRecord} (h : RecordsOf X rs)
    (h' : RecordsOf X rs') : SameRecords rs rs' := fun r => (h.2 r).trans (h'.2 r).symm

lemma FacetState.SumsUp.alike {X : Set (FacetMaterial × ProvenanceRecord)} {f f' : FacetState} (h : f.SumsUp X)
    (h' : f'.SumsUp X) : f.Alike f' := by
  obtain ⟨⟨⟨m, r⟩, hmem⟩, hall⟩ := h
  have hm := ((hall m r).mp hmem).1
  have hm' := ((h'.2 m r).mp hmem).1
  refine ⟨hm.symm.trans hm', fun r' => ?_⟩
  have hiff := (hall m r').symm.trans (h'.2 m r')
  rwa [and_iff_right hm, and_iff_right hm'] at hiff

lemma DatasetState.SumsUp.alike {X : Set DatasetFact} {s s' : DatasetState} (h : s.SumsUp X) (h' : s'.SumsUp X) :
    s.Alike s' where
  provenances r := (h.provenances r).trans (h'.provenances r).symm
  facets kind := h.facets.rel h'.facets (fun _ hf => Set.not_nonempty_empty hf.1) (fun _ _ _ => FacetState.SumsUp.alike) kind

lemma RunState.SumsUp.alike {X : Set RunState} {run run' : RunState} (h : run.SumsUp X) (h' : run'.SumsUp X) :
    run.Alike run' where
  inputs k := (h.inputs k).trans (h'.inputs k).symm
  outputs k := (h.outputs k).trans (h'.outputs k).symm
  provenances p := (h.provenances p).trans (h'.provenances p).symm

theorem Ingested.SumsUp.alike {F : Set Fact} {st st' : Ingested} (h : st.SumsUp F) (h' : st'.SumsUp F) :
    st.Alike st' where
  datasets := h.datasets.rel h'.datasets (fun _ hs => hs.mentioned.elim fun _ hr => hr)
    fun _ _ _ => DatasetState.SumsUp.alike
  lineage := h.lineage.rel h'.lineage (fun _ hr => Set.not_nonempty_empty hr.1) fun _ _ _ => RecordsOf.alike
  runs := h.runs.rel h'.runs (fun _ hr => Set.not_nonempty_empty hr.nonempty) fun _ _ _ => RunState.SumsUp.alike
  jobs j := (h.jobs j).trans (h'.jobs j).symm

/-! ### Parts -/

/-- The same nodes and edges in the same order, and the same reports in some order and number. -/
structure PartsAlike (p q : MappedParts) : Prop where
  nodes : p.nodes = q.nodes
  edges : p.edges = q.edges
  pending : ∀ o, o ∈ p.pending ↔ o ∈ q.pending

namespace PartsAlike
variable {p p' q q' : MappedParts}

lemma refl (p : MappedParts) : PartsAlike p p := ⟨rfl, rfl, fun _ => Iff.rfl⟩

lemma append (h : PartsAlike p p') (h' : PartsAlike q q') : PartsAlike (p ++ q) (p' ++ q') where
  nodes := by rw [MappedParts.nodes_append, MappedParts.nodes_append, h.nodes, h'.nodes]
  edges := by rw [MappedParts.edges_append, MappedParts.edges_append, h.edges, h'.edges]
  pending o := by
    rw [MappedParts.pending_append, MappedParts.pending_append, List.mem_append, List.mem_append, h.pending, h'.pending]

lemma same (h : PartsAlike p q) : p.Same q where
  nodes n := by rw [h.nodes]
  edges e := by rw [h.edges]
  pending := h.pending

end PartsAlike

lemma observeWithProvenances_congr {identity : GraphNodeIdentity} {path : PropertyPath} {value : Json}
    {rs rs' : List ProvenanceRecord} (h : SameRecords rs rs') (o : PendingObservation) :
    o ∈ observeWithProvenances identity path value rs ↔ o ∈ observeWithProvenances identity path value rs' := by
  simp only [observeWithProvenances, List.mem_map, h _]

lemma observeColumnNode_congr {node : GraphNode} {rs rs' : List ProvenanceRecord} (h : SameRecords rs rs')
    (o : PendingObservation) : o ∈ observeColumnNode node rs ↔ o ∈ observeColumnNode node rs' := by
  simp only [observeColumnNode, List.mem_append, List.mem_flatMap, observeWithProvenances_congr h]

section Schema
variable {ns : Stripped} {rs rs' : List ProvenanceRecord}

lemma fieldParts_congr (h : SameRecords rs rs') (parent : GraphNodeIdentity) (head : FieldHead) :
    PartsAlike (fieldParts parent ns rs head) (fieldParts parent ns rs' head) := by
  have hnode : fieldNode parent ns rs head = fieldNode parent ns rs' head :=
    GraphNode.ext rfl rfl (mergeProvenance_congr h)
  refine ⟨?_, ?_, fun o => ?_⟩
  · exact congrArg (fun n => [n]) hnode
  · rfl
  · exact (hnode ▸ observeColumnNode_congr h o : o ∈ observeColumnNode (fieldNode parent ns rs head) rs ↔
      o ∈ observeColumnNode (fieldNode parent ns rs' head) rs')

mutual
lemma mapSchemaFields_congr (h : SameRecords rs rs') : ∀ (parent : GraphNodeIdentity) (fs : List SchemaField),
    PartsAlike (mapSchemaFields ns rs parent fs) (mapSchemaFields ns rs' parent fs)
  | _, [] => by
    rw [mapSchemaFields, mapSchemaFields]
    exact PartsAlike.refl _
  | parent, f :: fs => by
    rw [mapSchemaFields, mapSchemaFields]
    exact (mapSchemaField_congr h parent f).append (mapSchemaFields_congr h parent fs)

lemma mapSchemaField_congr (h : SameRecords rs rs') : ∀ (parent : GraphNodeIdentity) (f : SchemaField),
    PartsAlike (mapSchemaField ns rs parent f) (mapSchemaField ns rs' parent f)
  | parent, .plain head => by
    rw [mapSchemaField, mapSchemaField]
    exact fieldParts_congr h parent head
  | parent, .nested head fs => by
    rw [mapSchemaField, mapSchemaField]
    exact (fieldParts_congr h parent head).append (mapSchemaFields_congr h _ fs)
end

end Schema

section Options
variable {α β : Type} {r : α → α → Prop} {a b : Option α}

lemma map_eq_of_rel {f : α → β} (hf : ∀ x y, r x y → f x = f y) (h : Option.Rel r a b) : a.map f = b.map f := by
  cases h with
  | none => rfl
  | some hxy => exact congrArg some (hf _ _ hxy)

lemma mem_getD_of_rel {f : α → List β} {z : β} (hf : ∀ x y, r x y → (z ∈ f x ↔ z ∈ f y)) (h : Option.Rel r a b) :
    z ∈ (a.map f).getD [] ↔ z ∈ (b.map f).getD [] := by
  cases h with
  | none => rfl
  | some hxy => exact hf _ _ hxy

end Options

namespace DatasetState

/-- What the facet of a kind states, without its records. -/
def stated (s : DatasetState) (kind : FacetKey) : Option FacetMaterial := (s.facet kind).map FacetState.material

lemma levels_eq (s : DatasetState) : s.levels = match s.stated .hierarchy with
    | some (.hierarchy levels) => some levels
    | _ => none := by
  unfold levels stated
  cases s.facet .hierarchy with
  | none => rfl
  | some f =>
    obtain ⟨material, provenances⟩ := f
    cases material <;> rfl

/-- The records that mention a dataset or state one of its facets. -/
lemma mem_nodeProvenance {s : DatasetState} {r : ProvenanceRecord} : r ∈ datasetNodeProvenance s ↔
    r ∈ s.provenances ∨ ∃ kind f, s.facet kind = some f ∧ r ∈ f.provenances := by
  unfold datasetNodeProvenance
  rw [List.mem_append, List.mem_flatMap]
  refine or_congr_right ?_
  constructor
  · rintro ⟨⟨kind, f⟩, hentry, hr⟩
    exact ⟨kind, f, Dict.get?_eq_some.mpr (mem_sortBy.mp hentry), hr⟩
  · rintro ⟨kind, f, hf, hr⟩
    exact ⟨(kind, f), mem_sortBy.mpr (Dict.get?_eq_some.mp hf), hr⟩

namespace Alike
variable {s s' : DatasetState}

lemma stated (h : s.Alike s') (kind : FacetKey) : s.stated kind = s'.stated kind :=
  map_eq_of_rel (fun _ _ hf => hf.1) (h.facets kind)

lemma physical (h : s.Alike s') : s.physical = s'.physical := by
  rw [DatasetState.physical, DatasetState.physical, levels_eq, levels_eq, h.stated]

lemma identity (h : s.Alike s') (ns : Stripped) (key : DatasetKey) : s.identity ns key = s'.identity ns key := by
  rw [DatasetState.identity, DatasetState.identity, h.physical]

lemma attributes (h : s.Alike s') : datasetAttributes s = datasetAttributes s' := by
  unfold datasetAttributes
  refine List.flatMap_congr fun kind _ => ?_
  have hmap := congrArg (Option.map facetAttributes) (h.stated kind)
  rw [DatasetState.stated, DatasetState.stated, Option.map_map, Option.map_map] at hmap
  exact congrArg (Option.getD · []) hmap

lemma nodeProvenance (h : s.Alike s') : SameRecords (datasetNodeProvenance s) (datasetNodeProvenance s') := by
  have hrecord : ∀ kind r, (∃ f, s.facet kind = some f ∧ r ∈ f.provenances) ↔
      ∃ f, s'.facet kind = some f ∧ r ∈ f.provenances := by
    intro kind r
    have hrel := h.facets kind
    generalize s.facet kind = a at hrel
    generalize s'.facet kind = b at hrel
    cases hrel with
    | none => exact Iff.rfl
    | some hff => simpa using hff.2 r
  intro r
  rw [mem_nodeProvenance, mem_nodeProvenance, h.provenances]
  simp only [hrecord]

lemma nameProvenances (h : s.Alike s') : SameRecords (nameProvenances s) (nameProvenances s') := by
  unfold Openlineage.nameProvenances
  rw [h.physical]
  have hrel := h.facets .hierarchy
  generalize s.facet .hierarchy = a at hrel
  generalize s'.facet .hierarchy = b at hrel
  cases hrel with
  | none => exact h.provenances
  | some hff =>
    dsimp only
    split_ifs
    · exact hff.2
    · exact h.provenances

lemma displayName (h : s.Alike s') (key : DatasetKey) : displayName key s = displayName key s' := by
  rw [Openlineage.displayName, Openlineage.displayName, h.physical]

lemma observed (h : s.Alike s') (identity : GraphNodeIdentity) (name : Stripped) (o : PendingObservation) :
    o ∈ observeDatasetNode identity name s ↔ o ∈ observeDatasetNode identity name s' := by
  unfold observeDatasetNode
  rw [List.mem_append, List.mem_append, observeWithProvenances_congr h.nameProvenances]
  refine or_congr_right ?_
  rw [List.mem_flatMap, List.mem_flatMap]
  refine exists_congr fun kind => and_congr_right fun _ => mem_getD_of_rel (fun f f' hf => ?_) (h.facets kind)
  rw [hf.1]
  simp only [List.mem_flatMap, observeWithProvenances_congr hf.2]

lemma schemaParts (h : s.Alike s') (ns : Stripped) (identity : GraphNodeIdentity) :
    PartsAlike (schemaParts ns identity s) (schemaParts ns identity s') := by
  unfold Openlineage.schemaParts
  have hrel := h.facets .schema
  generalize s.facet .schema = a at hrel
  generalize s'.facet .schema = b at hrel
  cases hrel with
  | none => exact PartsAlike.refl _
  | some hff =>
    rename_i f f'
    obtain ⟨material, provenances⟩ := f
    obtain ⟨material', provenances'⟩ := f'
    obtain rfl : material = material' := hff.1
    cases material with
    | schema fields => exact mapSchemaFields_congr hff.2 identity fields
    | _ => exact PartsAlike.refl _

/-- Alike datasets have the same nodes and edges, and lead to the same containers. -/
theorem datasetParts (h : s.Alike s') (ns : Stripped) (seen : List GraphNodeIdentity) (key : DatasetKey) :
    PartsAlike (datasetParts ns seen key s).1 (datasetParts ns seen key s').1 ∧
      (Openlineage.datasetParts ns seen key s).2 = (Openlineage.datasetParts ns seen key s').2 := by
  unfold Openlineage.datasetParts
  dsimp only
  rw [h.identity, h.displayName, h.attributes, h.physical]
  refine ⟨?_, rfl⟩
  refine ((PartsAlike.refl _).append ?_).append (h.schemaParts ns _)
  refine ⟨?_, rfl, h.observed _ _⟩
  exact congrArg (fun n => [n]) (GraphNode.ext rfl rfl (mergeProvenance_congr h.nodeProvenance))

end Alike
end DatasetState

/-! ### The whole graph -/

lemma datasetRank_injective :
    Function.Injective fun k : DatasetKey => (toLex (k.1.val, k.2.val) : String ×ₗ String) := by
  rintro ⟨a, b⟩ ⟨a', b'⟩ h
  obtain ⟨ha, hb⟩ := Prod.mk.inj (toLex.injective h)
  exact Prod.ext (Stripped.ext ha) (Stripped.ext hb)

lemma lineageSortKey_injective : Function.Injective lineageSortKey := by
  rintro ⟨⟨a, b⟩, c, ⟨d, e⟩, f⟩ ⟨⟨a', b'⟩, c', ⟨d', e'⟩, f'⟩ h
  simp only [lineageSortKey, toLex_inj, Prod.mk.injEq] at h
  obtain ⟨ha, hb, hc, hd, he, hf⟩ := h
  rw [Stripped.ext ha, Stripped.ext hb, Stripped.ext hc, Stripped.ext hd, Stripped.ext he, Stripped.ext hf]

/-- One more dataset: its parts after the others, its containers unless they have been seen. -/
def addDataset (ns : Stripped) (acc : MappedParts × List GraphNodeIdentity) (e : DatasetKey × DatasetState) :
    MappedParts × List GraphNodeIdentity :=
  (acc.1 ++ (datasetParts ns acc.2 e.1 e.2).1, (datasetParts ns acc.2 e.1 e.2).2)

lemma allDatasetParts_eq (ns : Stripped) (datasets : Dict DatasetKey DatasetState) :
    allDatasetParts ns datasets = ((sortedDatasets datasets).foldl (addDataset ns) (.empty, [])).1 := rfl

/-- The columns that one assertion names. -/
def ensureEntry (ns : Stripped) (datasets : Dict DatasetKey DatasetState) (acc : LineageColumns)
    (e : LineageKey × List ProvenanceRecord) : LineageColumns :=
  ensureLineageColumn (identityOf ns datasets e.1.2.2.1) ns e.1.2.2.2 e.2
    (ensureLineageColumn (identityOf ns datasets e.1.1) ns e.1.2.1 e.2 acc)

def assertionOf (ns : Stripped) (datasets : Dict DatasetKey DatasetState)
    (e : LineageKey × List ProvenanceRecord) : ColumnLineageAssertion :=
  ⟨.child ns kindColumn e.1.2.1 (identityOf ns datasets e.1.1),
    .child ns kindColumn e.1.2.2.2 (identityOf ns datasets e.1.2.2.1), mergeProvenance e.2⟩

/-- The columns that the graph of the datasets has. -/
def columnsOf (nodes : List GraphNode) : Dict GraphNodeIdentity GraphNode :=
  Dict.index GraphNode.identity id (nodes.filter (fun n => n.identity.kind = kindColumn))

lemma columnLineageParts_eq (ns : Stripped) (st : Ingested) (nodes : List GraphNode) :
    columnLineageParts ns st nodes =
      ((sortedLineage st.lineage).foldl (ensureEntry ns st.datasets) ⟨columnsOf nodes, .empty⟩).parts ++
        ⟨[], materializeColumnLineageEdges ((sortedLineage st.lineage).map (assertionOf ns st.datasets)), []⟩ := rfl

structure LineageColumns.Alike (acc acc' : LineageColumns) : Prop where
  columns : acc.columns = acc'.columns
  parts : PartsAlike acc.parts acc'.parts

lemma LineageColumns.Alike.ensure {acc acc' : LineageColumns} (h : acc.Alike acc') {rs rs' : List ProvenanceRecord}
    (hrs : SameRecords rs rs') (parent : GraphNodeIdentity) (ns field : Stripped) :
    (ensureLineageColumn parent ns field rs acc).Alike (ensureLineageColumn parent ns field rs' acc') := by
  unfold ensureLineageColumn
  dsimp only
  rw [h.columns]
  cases acc'.columns.get? (.child ns kindColumn field parent) with
  | none =>
    have hnode : mappedNode (.child ns kindColumn field parent) field none [] rs =
        mappedNode (.child ns kindColumn field parent) field none [] rs' :=
      GraphNode.ext rfl rfl (mergeProvenance_congr hrs)
    dsimp only
    rw [hnode]
    exact ⟨rfl, h.parts.append ⟨rfl, rfl, observeColumnNode_congr hrs⟩⟩
  | some existing =>
    have hnode : existing.withProvenance (existing.provenance ++ rs) =
        existing.withProvenance (existing.provenance ++ rs') :=
      GraphNode.ext rfl rfl (mergeProvenance_congr fun r => by rw [List.mem_append, List.mem_append, hrs])
    dsimp only
    rw [hnode]
    exact ⟨rfl, h.parts.append (PartsAlike.refl _)⟩

namespace Ingested.Alike
variable {st st' : Ingested}

lemma sortedDatasets (h : st.Alike st') :
    List.Forall₂ (fun e e' => e.1 = e'.1 ∧ DatasetState.Alike e.2 e'.2) (sortedDatasets st.datasets)
      (sortedDatasets st'.datasets) := Dict.sortBy_entries_of_rel datasetRank_injective h.datasets

lemma sortedLineage (h : st.Alike st') :
    List.Forall₂ (fun e e' => e.1 = e'.1 ∧ SameRecords e.2 e'.2) (sortedLineage st.lineage)
      (sortedLineage st'.lineage) := Dict.sortBy_entries_of_rel lineageSortKey_injective h.lineage

lemma allDatasetParts (h : st.Alike st') (ns : Stripped) :
    PartsAlike (allDatasetParts ns st.datasets) (allDatasetParts ns st'.datasets) := by
  have hrun : ∀ es es' : List (DatasetKey × DatasetState),
      List.Forall₂ (fun e e' => e.1 = e'.1 ∧ DatasetState.Alike e.2 e'.2) es es' →
      ∀ acc acc' : MappedParts × List GraphNodeIdentity, PartsAlike acc.1 acc'.1 → acc.2 = acc'.2 →
      PartsAlike (es.foldl (addDataset ns) acc).1 (es'.foldl (addDataset ns) acc').1 := by
    intro es es' hes
    induction hes with
    | nil => exact fun _ _ hacc _ => hacc
    | cons he _ ih =>
      intro acc acc' hacc hseen
      obtain ⟨hkey, halike⟩ := he
      rw [List.foldl_cons, List.foldl_cons]
      obtain ⟨hparts, hcontainers⟩ := halike.datasetParts ns acc.2 _
      refine ih _ _ ?_ ?_
      · exact hacc.append (hkey ▸ hseen ▸ hparts)
      · rw [addDataset, addDataset]
        exact hkey ▸ hseen ▸ hcontainers
  rw [allDatasetParts_eq, allDatasetParts_eq]
  exact hrun _ _ h.sortedDatasets _ _ (PartsAlike.refl _) rfl

lemma identityOf (h : st.Alike st') (ns : Stripped) (key : DatasetKey) :
    identityOf ns st.datasets key = identityOf ns st'.datasets key := by
  unfold Openlineage.identityOf
  have hrel := h.datasets key
  generalize st.datasets.get? key = a at hrel
  generalize st'.datasets.get? key = b at hrel
  cases hrel with
  | none => rfl
  | some halike => exact halike.identity ns key

/-- The edges of runs and jobs. -/
lemma mem_lineageEdges {ns : Stripped} {datasets : Dict DatasetKey DatasetState} {inputs outputs : List DatasetKey}
    {records : List ProvenanceRecord} {e : GraphEdge} : e ∈ lineageEdges ns datasets inputs outputs records ↔
      ∃ o ∈ outputs, ∃ i ∈ inputs,
        e = mappedEdge (Openlineage.identityOf ns datasets o) (Openlineage.identityOf ns datasets i) kindDependsOn
          records := by
  simp only [lineageEdges, List.mem_flatMap, List.mem_map, mem_sortBy, eq_comm]

lemma lineageEdges (h : st.Alike st') {run run' : RunState} (hrun : run.Alike run') (ns : Stripped) (e : GraphEdge) :
    e ∈ Openlineage.lineageEdges ns st.datasets run.inputs run.outputs run.provenances ↔
      e ∈ Openlineage.lineageEdges ns st'.datasets run'.inputs run'.outputs run'.provenances := by
  have hedge : ∀ source target : GraphNodeIdentity, mappedEdge source target kindDependsOn run.provenances =
      mappedEdge source target kindDependsOn run'.provenances :=
    fun _ _ => GraphEdge.ext rfl rfl (mergeProvenance_congr hrun.provenances)
  simp only [mem_lineageEdges, hrun.inputs, hrun.outputs, h.identityOf, hedge]

lemma columnLineageParts (h : st.Alike st') (ns : Stripped) (nodes : List GraphNode) :
    PartsAlike (columnLineageParts ns st nodes) (columnLineageParts ns st' nodes) := by
  rw [columnLineageParts_eq, columnLineageParts_eq]
  have hassertions : (Openlineage.sortedLineage st.lineage).map (assertionOf ns st.datasets) =
      (Openlineage.sortedLineage st'.lineage).map (assertionOf ns st'.datasets) := by
    refine List.forall₂_eq_eq_eq ▸ List.forall₂_map_left_iff.mpr (List.forall₂_map_right_iff.mpr ?_)
    refine h.sortedLineage.imp ?_
    rintro ⟨key, rs⟩ ⟨key', rs'⟩ ⟨hkey, hrs⟩
    obtain rfl : key = key' := hkey
    rw [assertionOf, assertionOf, h.identityOf, h.identityOf, mergeProvenance_congr hrs]
  rw [hassertions]
  refine PartsAlike.append ?_ (PartsAlike.refl _)
  have hrun : ∀ es es' : List (LineageKey × List ProvenanceRecord),
      List.Forall₂ (fun e e' => e.1 = e'.1 ∧ SameRecords e.2 e'.2) es es' →
      ∀ acc acc' : LineageColumns, acc.Alike acc' →
      (es.foldl (ensureEntry ns st.datasets) acc).Alike (es'.foldl (ensureEntry ns st'.datasets) acc') := by
    intro es es' hes
    induction hes with
    | nil => exact fun _ _ hacc => hacc
    | cons he _ ih =>
      intro acc acc' hacc
      obtain ⟨hkey, hrs⟩ := he
      refine ih _ _ ?_
      rw [ensureEntry, ensureEntry, hkey, h.identityOf, h.identityOf]
      exact (hacc.ensure hrs ..).ensure hrs ..
  exact (hrun _ _ h.sortedLineage _ _ ⟨rfl, PartsAlike.refl _⟩).parts

lemma runEdges (h : st.Alike st') (ns : Stripped) (e : GraphEdge) :
    e ∈ st.runs.values.flatMap (fun r => Openlineage.lineageEdges ns st.datasets r.inputs r.outputs r.provenances) ↔
      e ∈ st'.runs.values.flatMap
        (fun r => Openlineage.lineageEdges ns st'.datasets r.inputs r.outputs r.provenances) := by
  simp only [List.mem_flatMap, Dict.mem_values, ← exists_and_right]
  rw [exists_comm, exists_comm (α := RunState)]
  refine exists_congr fun runId => ?_
  have hrel := h.runs runId
  generalize st.runs.get? runId = a at hrel
  generalize st'.runs.get? runId = b at hrel
  cases hrel with
  | none => simp
  | some halike => simpa using h.lineageEdges halike ns e

/-- Alike states are mapped to the same parts, in some order and number. -/
theorem ingestedParts (h : st.Alike st') (ns : Stripped) :
    (ingestedParts ns st).Same (ingestedParts ns st') := by
  have hdatasets := h.allDatasetParts ns
  unfold Openlineage.ingestedParts
  dsimp only
  rw [hdatasets.nodes]
  refine (hdatasets.same.append (h.columnLineageParts ns _).same).append ⟨fun _ => Iff.rfl, fun e => ?_, fun _ => Iff.rfl⟩
  rw [List.mem_append, List.mem_append, h.runEdges]
  refine or_congr_right ?_
  simp only [List.mem_flatMap, h.jobs, mem_lineageEdges, h.identityOf]

end Ingested.Alike

end CollibraGovernance.Openlineage
