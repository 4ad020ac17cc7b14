import CollibraGovernance.Openlineage.Alike
import CollibraGovernance.Openlineage.Places

/-! The dependencies of a mapped graph are those that the events state, whatever the order of the events. -/
namespace CollibraGovernance.Openlineage
open Library Identity Domain

/-! ### What the events state about identities and dependencies -/

def FacetMaterial.levels : FacetMaterial → Option (List HierarchyLevel)
  | hierarchy levels => some levels
  | _ => none

namespace Event

/-- The run that the event belongs to. -/
def runId (e : Event) : Option Stripped :=
  match e.body with
  | .run runId _ _ _ => some runId
  | _ => none

/-- The job of an event of no run. -/
def soleJob (e : Event) : Option Job :=
  match e.body with
  | .job job _ _ => some job
  | _ => none

def inputs (e : Event) : List DatasetKey :=
  match e.body with
  | .dataset _ => []
  | .job _ inputs _ => inputs.map Dataset.key
  | .run _ _ inputs _ => inputs.map Dataset.key

def outputs (e : Event) : List DatasetKey :=
  match e.body with
  | .dataset _ => []
  | .job _ _ outputs => outputs.map Dataset.key
  | .run _ _ _ outputs => outputs.map Dataset.key

/-- Who stated the event, for which job. -/
def record (e : Event) : Option ProvenanceRecord :=
  match e.body with
  | .dataset _ => none
  | .job job _ _ => some (edgeProvenance e.producer job e.schemaUrl)
  | .run _ job _ _ => some (edgeProvenance e.producer job e.schemaUrl)

end Event

section Stated
variable (ns : Stripped) (events : List Event)

/-- The hierarchies that facets of a dataset state. -/
def hierarchiesOf (key : DatasetKey) : List (List HierarchyLevel) :=
  (events.flatMap Event.datasets).flatMap fun d =>
    if d.key = key then d.facets.filterMap (fun f => f.material.levels) else []

/-- The table that the hierarchy of a dataset names, else the dataset itself. -/
def resolvedIdentity (key : DatasetKey) : GraphNodeIdentity :=
  match (hierarchiesOf events key).head?.bind physicalLevels with
  | some (database, schema, table) => tableChain ns database schema table
  | none => .root ns kindDataset (reference [key.1.val, key.2.val]) dataset_ne_column

/-- The output and the input occur in events of one run, of which one is stated by the record. -/
def FedInRun (output input : DatasetKey) (r : ProvenanceRecord) : Prop :=
  ∃ runId, (∃ e ∈ events, e.runId = some runId ∧ output ∈ e.outputs) ∧
    (∃ e ∈ events, e.runId = some runId ∧ input ∈ e.inputs) ∧ ∃ e ∈ events, e.runId = some runId ∧ e.record = some r

/-- The output and the input occur in one event of a job, stated by the record. -/
def FedInJob (output input : DatasetKey) (r : ProvenanceRecord) : Prop :=
  ∃ e ∈ events, e.soleJob.isSome = true ∧ output ∈ e.outputs ∧ input ∈ e.inputs ∧ e.record = some r

/-- A dependency between datasets that the record states. -/
def DatasetDepends (source target : GraphNodeIdentity) (r : ProvenanceRecord) : Prop :=
  ∃ output input, (FedInRun events output input r ∨ FedInJob events output input r) ∧
    source = resolvedIdentity ns events output ∧ target = resolvedIdentity ns events input

/-- A dependency between columns that a column lineage facet with the record asserts. -/
def ColumnDepends (source target : GraphNodeIdentity) (r : ProvenanceRecord) : Prop :=
  ∃ d ∈ events.flatMap Event.datasets, ∃ l ∈ d.lineage, ∃ x ∈ l.entries,
    source = .child ns kindColumn x.output (resolvedIdentity ns events d.key) ∧
    target = .child ns kindColumn x.field (resolvedIdentity ns events x.input) ∧ r = l.record d.key

end Stated

/-! ### Facts -/

section Facts
variable {ns : Stripped} {events : List Event}

lemma mem_ending {e : Event} {f : Fact} : f ∈ e.ending → (∃ j, f = .job j) ∨ ∃ runId r, f = .run runId r := by
  unfold Event.ending
  cases e.body with
  | dataset d => exact fun h => absurd h List.not_mem_nil
  | job job inputs outputs => exact fun h => Or.inl ⟨_, List.mem_singleton.mp h⟩
  | run runId job inputs outputs => exact fun h => Or.inr ⟨_, _, List.mem_singleton.mp h⟩

lemma mem_datasetFacts {producer schemaUrl : String} {d : Dataset} {f : Fact} :
    f ∈ d.facts producer schemaUrl ↔
      f = .dataset d.key (.mentioned (datasetProvenance producer d.key schemaUrl)) ∨
      (∃ g ∈ d.facets, f = Facet.fact d.key g) ∨
      ∃ l ∈ d.lineage, ∃ x ∈ l.entries, f = .lineage (d.key, x.output, x.input, x.field) (l.record d.key) ∨
        f = .dataset x.input (.mentioned (l.record d.key)) := by
  simp only [Dataset.facts, List.cons_append, List.mem_cons, List.mem_append, List.mem_map, List.mem_flatMap,
    Option.mem_toList, Option.mem_def, Lineage.facts, LineageEntry.facts, List.not_mem_nil, or_false, eq_comm]

/-- What is stated and ends no event is stated with a dataset of some event. -/
lemma mem_factsOf_of_datasets {f : Fact} (hjob : ∀ j, f ≠ .job j) (hrun : ∀ runId r, f ≠ .run runId r) :
    f ∈ factsOf events ↔ ∃ e ∈ events, ∃ d ∈ e.datasets, f ∈ d.facts e.producer e.schemaUrl := by
  refine exists_congr fun e => and_congr_right fun _ => ?_
  rw [Event.facts, List.mem_append, List.mem_flatMap]
  refine or_iff_left fun hend => ?_
  rcases mem_ending hend with ⟨j, hj⟩ | ⟨runId, run, hr⟩
  · exact hjob j hj
  · exact hrun runId run hr

/-- The facets that are stated about a dataset. -/
theorem facet_mem_factsOf {key : DatasetKey} {m : FacetMaterial} {r : ProvenanceRecord} :
    .dataset key (.facet m r) ∈ factsOf events ↔
      ∃ d ∈ events.flatMap Event.datasets, d.key = key ∧ ∃ f ∈ d.facets, f.material = m ∧ f.record key = r := by
  rw [mem_factsOf_of_datasets (fun _ => Fact.noConfusion) fun _ _ => Fact.noConfusion]
  constructor
  · rintro ⟨e, he, d, hd, hf⟩
    refine ⟨d, List.mem_flatMap.mpr ⟨e, he, hd⟩, ?_⟩
    rcases mem_datasetFacts.mp hf with h | ⟨g, hg, h⟩ | ⟨l, -, x, -, h | h⟩
    · cases h
    · cases h
      exact ⟨rfl, g, hg, rfl, rfl⟩
    · cases h
    · cases h
  · rintro ⟨d, hd, rfl, f, hf, rfl, rfl⟩
    obtain ⟨e, he, hd⟩ := List.mem_flatMap.mp hd
    exact ⟨e, he, d, hd, mem_datasetFacts.mpr (Or.inr (Or.inl ⟨f, hf, rfl⟩))⟩

/-- The column lineage that is asserted. -/
theorem lineage_mem_factsOf {key : LineageKey} {r : ProvenanceRecord} :
    .lineage key r ∈ factsOf events ↔ ∃ d ∈ events.flatMap Event.datasets, ∃ l ∈ d.lineage, ∃ x ∈ l.entries,
      key = (d.key, x.output, x.input, x.field) ∧ r = l.record d.key := by
  rw [mem_factsOf_of_datasets (fun _ => Fact.noConfusion) fun _ _ => Fact.noConfusion]
  constructor
  · rintro ⟨e, he, d, hd, hf⟩
    refine ⟨d, List.mem_flatMap.mpr ⟨e, he, hd⟩, ?_⟩
    rcases mem_datasetFacts.mp hf with h | ⟨g, hg, h⟩ | ⟨l, hl, x, hx, h | h⟩
    · cases h
    · cases h
    · cases h
      exact ⟨l, hl, x, hx, rfl, rfl⟩
    · cases h
  · rintro ⟨d, hd, l, hl, x, hx, rfl, rfl⟩
    obtain ⟨e, he, hd⟩ := List.mem_flatMap.mp hd
    exact ⟨e, he, d, hd, mem_datasetFacts.mpr (Or.inr (Or.inr ⟨l, hl, x, hx, Or.inl rfl⟩))⟩

lemma not_ending_of_datasetFact {producer schemaUrl : String} {d : Dataset} {f : Fact}
    (hf : f ∈ d.facts producer schemaUrl) : (∀ j, f ≠ .job j) ∧ ∀ runId r, f ≠ .run runId r := by
  rcases mem_datasetFacts.mp hf with rfl | ⟨g, -, rfl⟩ | ⟨l, -, x, -, rfl | rfl⟩ <;>
    exact ⟨fun _ => Fact.noConfusion, fun _ _ => Fact.noConfusion⟩

lemma run_mem_factsOf {runId : Stripped} {run : RunState} :
    .run runId run ∈ factsOf events ↔ ∃ e ∈ events, .run runId run ∈ e.ending := by
  refine exists_congr fun e => and_congr_right fun _ => ?_
  rw [Event.facts, List.mem_append]
  refine or_iff_right fun h => ?_
  obtain ⟨d, -, hd⟩ := List.mem_flatMap.mp h
  exact (not_ending_of_datasetFact hd).2 runId run rfl

lemma job_mem_factsOf {j : JobLineage} : .job j ∈ factsOf events ↔ ∃ e ∈ events, .job j ∈ e.ending := by
  refine exists_congr fun e => and_congr_right fun _ => ?_
  rw [Event.facts, List.mem_append]
  refine or_iff_right fun h => ?_
  obtain ⟨d, -, hd⟩ := List.mem_flatMap.mp h
  exact (not_ending_of_datasetFact hd).1 j rfl

section Ending
variable {e : Event} {runId : Stripped} {k : DatasetKey} {p : ProvenanceRecord}

lemma mem_keysOf {ds : List Dataset} : k ∈ keysOf ds ↔ k ∈ ds.map Dataset.key := mem_distinct

lemma ending_inputs : (∃ run, .run runId run ∈ e.ending ∧ k ∈ run.inputs) ↔ e.runId = some runId ∧ k ∈ e.inputs := by
  unfold Event.ending Event.runId Event.inputs
  cases e.body <;> simp [mem_keysOf, eq_comm]

lemma ending_outputs : (∃ run, .run runId run ∈ e.ending ∧ k ∈ run.outputs) ↔ e.runId = some runId ∧ k ∈ e.outputs := by
  unfold Event.ending Event.runId Event.outputs
  cases e.body <;> simp [mem_keysOf, eq_comm]

lemma ending_records : (∃ run, .run runId run ∈ e.ending ∧ p ∈ run.provenances) ↔
    e.runId = some runId ∧ e.record = some p := by
  unfold Event.ending Event.runId Event.record
  cases e.body <;> simp [eq_comm]

lemma ending_job {o i : DatasetKey} : (∃ j, .job j ∈ e.ending ∧ o ∈ j.outputs ∧ i ∈ j.inputs ∧ p ∈ j.provenances) ↔
    e.soleJob.isSome = true ∧ o ∈ e.outputs ∧ i ∈ e.inputs ∧ e.record = some p := by
  unfold Event.ending Event.soleJob Event.outputs Event.inputs Event.record
  cases e.body <;> simp [mem_keysOf, eq_comm]

/-- A property of what an event of the run says is one of what the run's facts say. -/
lemma exists_run {P : RunState → Prop} : (∃ run ∈ aboutRun (factsOf events) runId, P run) ↔
    ∃ e ∈ events, ∃ run, .run runId run ∈ e.ending ∧ P run := by
  constructor
  · rintro ⟨run, hrun, h⟩
    obtain ⟨e, he, hend⟩ := run_mem_factsOf.mp hrun
    exact ⟨e, he, run, hend, h⟩
  · rintro ⟨e, he, run, hend, h⟩
    exact ⟨run, run_mem_factsOf.mpr ⟨e, he, hend⟩, h⟩

end Ending

/-! ### The state of reading -/

variable {st : Ingested}

lemma levels_some {m : FacetMaterial} {levels : List HierarchyLevel} :
    m.levels = some levels ↔ m = .hierarchy levels := by
  cases m <;> simp [FacetMaterial.levels]

lemma mem_hierarchiesOf {key : DatasetKey} {levels : List HierarchyLevel} :
    levels ∈ hierarchiesOf events key ↔ ∃ r, .dataset key (.facet (.hierarchy levels) r) ∈ factsOf events := by
  simp only [facet_mem_factsOf]
  unfold hierarchiesOf
  constructor
  · intro h
    obtain ⟨d, hd, h⟩ := List.mem_flatMap.mp h
    split_ifs at h with hkey
    · obtain ⟨f, hf, hlevels⟩ := List.mem_filterMap.mp h
      exact ⟨f.record key, d, hd, hkey, f, hf, levels_some.mp hlevels, rfl⟩
    · cases h
  · rintro ⟨r, d, hd, hkey, f, hf, hm, -⟩
    refine List.mem_flatMap.mpr ⟨d, hd, ?_⟩
    rw [if_pos hkey]
    exact List.mem_filterMap.mpr ⟨f, hf, levels_some.mpr hm⟩

/-- What is kept of a kind of facet is what is stated of it. -/
lemma stated_iff {X : Set DatasetFact} {s : DatasetState}
    (h : s.facets.Described (aboutFacet X) FacetState.SumsUp) {kind : FacetKey} {m : FacetMaterial} :
    s.stated kind = some m ↔ m.key = kind ∧ ∃ r, .facet m r ∈ X := by
  rw [DatasetState.stated, Option.map_eq_some_iff]
  constructor
  · rintro ⟨f, hf, rfl⟩
    exact exists_stated h hf
  · rintro ⟨rfl, r, hr⟩
    have hmem : (m, r) ∈ aboutFacet X m.key := ⟨rfl, hr⟩
    obtain ⟨f, hf⟩ := h.exists_get? hmem
    exact ⟨f, hf, (material_of_mem h hf hr).symm⟩

lemma levels_iff (s : DatasetState) (levels : List HierarchyLevel) :
    s.levels = some levels ↔ s.stated .hierarchy = some (.hierarchy levels) := by
  rw [DatasetState.levels_eq]
  cases s.stated .hierarchy with
  | none => simp
  | some m => cases m <;> simp

lemma levels_eq_head? (h : st.SumsUp (factsOf events)) (key : DatasetKey) :
    ((st.datasets.get? key).getD .empty).levels = (hierarchiesOf events key).head? := by
  have hstated := (current_sumsUp h.datasets key).2
  have hone : ∀ a ∈ hierarchiesOf events key, ∀ b ∈ hierarchiesOf events key, a = b := by
    intro a ha b hb
    obtain ⟨r, hr⟩ := mem_hierarchiesOf.mp ha
    obtain ⟨r', hr'⟩ := mem_hierarchiesOf.mp hb
    exact FacetMaterial.hierarchy.inj ((coherent_of_sumsUp h).facets key _ r _ r' hr hr' rfl)
  apply Option.ext
  intro levels
  rw [levels_iff, stated_iff hstated]
  refine (and_iff_right rfl).trans (mem_hierarchiesOf.symm.trans ?_)
  cases hlist : hierarchiesOf events key with
  | nil => simp
  | cons first rest =>
    rw [List.head?_cons, Option.some.injEq]
    rw [hlist] at hone
    constructor
    · exact fun hmem => hone first (List.mem_cons_self ..) levels hmem
    · rintro rfl
      exact List.mem_cons_self ..

/-- The identity of a dataset that was read is the one that the events resolve it to. -/
theorem identityOf_eq (h : st.SumsUp (factsOf events)) (key : DatasetKey) :
    identityOf ns st.datasets key = resolvedIdentity ns events key := by
  have hlevels := levels_eq_head? h key
  cases htable : (hierarchiesOf events key).head?.bind physicalLevels with
  | none => simp only [identityOf, DatasetState.identity, DatasetState.physical, hlevels, resolvedIdentity, htable]
  | some levels => simp only [identityOf, DatasetState.identity, DatasetState.physical, hlevels, resolvedIdentity, htable]

lemma kind_resolvedIdentity (key : DatasetKey) : (resolvedIdentity ns events key).kind ≠ kindColumn := by
  unfold resolvedIdentity
  split
  · exact fun h => table_ne_column (congrArg Stripped.val h)
  · exact fun h => dataset_ne_column (congrArg Stripped.val h)

/-! ### The edges of the parts -/

lemma contains_ne_dependsOn : kindContains ≠ kindDependsOn := by decide

/-- An edge of the graph between some ends, stated by a record. -/
def EdgeStated (edges : List GraphEdge) (source target : GraphNodeIdentity) (r : ProvenanceRecord) : Prop :=
  ∃ e ∈ edges, e.logicalIdentity = (source, kindDependsOn, target) ∧ r ∈ e.provenance

lemma runEdges_iff (h : st.SumsUp (factsOf events)) (source target : GraphNodeIdentity) (r : ProvenanceRecord) :
    EdgeStated (st.runs.values.flatMap fun run => lineageEdges ns st.datasets run.inputs run.outputs run.provenances)
      source target r ↔ ∃ output input, FedInRun events output input r ∧
        source = resolvedIdentity ns events output ∧ target = resolvedIdentity ns events input := by
  simp only [EdgeStated, List.mem_flatMap, Dict.mem_values, Ingested.Alike.mem_lineageEdges, identityOf_eq h]
  constructor
  · rintro ⟨e, ⟨run, ⟨runId, hget⟩, o, ho, i, hi, rfl⟩, hends, hr⟩
    have hrun := h.runs.sums_of_get? hget
    obtain ⟨hsource, -, htarget⟩ : source = resolvedIdentity ns events o ∧ kindDependsOn = kindDependsOn ∧
        target = resolvedIdentity ns events i := by
      obtain ⟨hs, ht⟩ := Prod.mk.inj hends
      exact ⟨hs.symm, rfl, (Prod.mk.inj ht).2.symm⟩
    refine ⟨o, i, ⟨runId, ?_, ?_, ?_⟩, hsource, htarget⟩
    · obtain ⟨e, he, hend⟩ := exists_run.mp ((hrun.outputs o).mp ho)
      exact ⟨e, he, ending_outputs.mp hend⟩
    · obtain ⟨e, he, hend⟩ := exists_run.mp ((hrun.inputs i).mp hi)
      exact ⟨e, he, ending_inputs.mp hend⟩
    · obtain ⟨e, he, hend⟩ := exists_run.mp ((hrun.provenances r).mp (mem_mergeProvenance.mp hr))
      exact ⟨e, he, ending_records.mp hend⟩
  · rintro ⟨o, i, ⟨runId, ⟨e₁, he₁, ho⟩, ⟨e₂, he₂, hi⟩, e₃, he₃, hr⟩, rfl, rfl⟩
    have hout := exists_run.mpr ⟨e₁, he₁, ending_outputs.mpr ho⟩
    have hin := exists_run.mpr ⟨e₂, he₂, ending_inputs.mpr hi⟩
    have hrecord := exists_run.mpr ⟨e₃, he₃, ending_records.mpr hr⟩
    obtain ⟨run, hget⟩ := h.runs.exists_get? hout.choose_spec.1
    have hrun := h.runs.sums_of_get? hget
    exact ⟨_, ⟨run, ⟨runId, hget⟩, o, (hrun.outputs o).mpr hout, i, (hrun.inputs i).mpr hin, rfl⟩, rfl,
      mem_mergeProvenance.mpr ((hrun.provenances r).mpr hrecord)⟩

lemma jobEdges_iff (h : st.SumsUp (factsOf events)) (source target : GraphNodeIdentity) (r : ProvenanceRecord) :
    EdgeStated (st.jobs.flatMap fun j => lineageEdges ns st.datasets j.inputs j.outputs j.provenances)
      source target r ↔ ∃ output input, FedInJob events output input r ∧
        source = resolvedIdentity ns events output ∧ target = resolvedIdentity ns events input := by
  simp only [EdgeStated, List.mem_flatMap, Ingested.Alike.mem_lineageEdges, identityOf_eq h, h.jobs, job_mem_factsOf]
  constructor
  · rintro ⟨e, ⟨j, ⟨event, hevent, hend⟩, o, ho, i, hi, rfl⟩, hends, hr⟩
    obtain ⟨hs, ht⟩ := Prod.mk.inj hends
    refine ⟨o, i, ⟨event, hevent, ?_⟩, hs.symm, (Prod.mk.inj ht).2.symm⟩
    exact ending_job.mp ⟨j, hend, ho, hi, mem_mergeProvenance.mp hr⟩
  · rintro ⟨o, i, ⟨event, hevent, hfed⟩, rfl, rfl⟩
    obtain ⟨j, hend, ho, hi, hr⟩ := ending_job.mpr hfed
    exact ⟨_, ⟨j, ⟨event, hevent, hend⟩, o, ho, i, hi, rfl⟩, rfl, mem_mergeProvenance.mpr hr⟩

/-! ### Column lineage -/

/-- The assertions about a pair of columns, from which the records of its edge are collected. -/
def AssertionsOf (facts : Set ColumnLineageAssertion) (records : List ProvenanceRecord) : Prop :=
  facts.Nonempty ∧ ∀ r, r ∈ records ↔ ∃ a ∈ facts, r ∈ a.provenance

def aboutPair (assertions : List ColumnLineageAssertion) (pair : GraphNodeIdentity × GraphNodeIdentity) :
    Set ColumnLineageAssertion := {a | a ∈ assertions ∧ (a.output, a.input) = pair}

/-- One assertion is added to those of its pair. -/
def addAssertion (d : Dict (GraphNodeIdentity × GraphNodeIdentity) (List ProvenanceRecord))
    (a : ColumnLineageAssertion) : Dict (GraphNodeIdentity × GraphNodeIdentity) (List ProvenanceRecord) :=
  d.set (a.output, a.input) (((d.get? (a.output, a.input)).getD []) ++ a.provenance)

lemma addAssertion_described {d : Dict (GraphNodeIdentity × GraphNodeIdentity) (List ProvenanceRecord)}
    {done : List ColumnLineageAssertion} (h : d.Described (aboutPair done) AssertionsOf) (a : ColumnLineageAssertion) :
    (addAssertion d a).Described (aboutPair (done ++ [a])) AssertionsOf := by
  refine h.set ⟨⟨a, by simp, rfl⟩, fun r => ?_⟩ fun pair hne => ?_
  · have hbefore : r ∈ ((d.get? (a.output, a.input)).getD []) ↔
        ∃ b ∈ aboutPair done (a.output, a.input), r ∈ b.provenance := by
      cases hget : d.get? (a.output, a.input) with
      | none => simp [h.eq_empty hget]
      | some records => exact (h.sums_of_get? hget).2 r
    rw [List.mem_append, hbefore]
    constructor
    · rintro (⟨b, ⟨hb, hpair⟩, hr⟩ | hr)
      · exact ⟨b, ⟨List.mem_append_left _ hb, hpair⟩, hr⟩
      · exact ⟨a, ⟨by simp, rfl⟩, hr⟩
    · rintro ⟨b, ⟨hb, hpair⟩, hr⟩
      rcases List.mem_append.mp hb with hb | hb
      · exact Or.inl ⟨b, ⟨hb, hpair⟩, hr⟩
      · obtain rfl := List.mem_singleton.mp hb
        exact Or.inr hr
  · ext b
    simp only [aboutPair, List.mem_append, List.mem_singleton, Set.mem_ofPred_eq]
    constructor
    · rintro ⟨hb | rfl, hpair⟩
      · exact ⟨hb, hpair⟩
      · exact absurd hpair.symm hne
    · rintro ⟨hb, hpair⟩
      exact ⟨Or.inl hb, hpair⟩

lemma addAssertions_described (assertions done : List ColumnLineageAssertion)
    {d : Dict (GraphNodeIdentity × GraphNodeIdentity) (List ProvenanceRecord)}
    (h : d.Described (aboutPair done) AssertionsOf) :
    (assertions.foldl addAssertion d).Described (aboutPair (done ++ assertions)) AssertionsOf := by
  induction assertions generalizing d done with
  | nil =>
    rw [List.append_nil]
    exact h
  | cons a rest ih =>
    have hnext := ih (done ++ [a]) (addAssertion_described h a)
    rwa [List.append_assoc, List.singleton_append] at hnext

lemma merged_described (assertions : List ColumnLineageAssertion) :
    (assertions.foldl addAssertion .empty).Described (aboutPair assertions) AssertionsOf := by
  have hnone : aboutPair [] = fun _ => ∅ := by
    ext pair a
    simp [aboutPair]
  have hstart : (Dict.empty : Dict (GraphNodeIdentity × GraphNodeIdentity) (List ProvenanceRecord)).Described
      (aboutPair []) AssertionsOf := hnone ▸ Dict.described_empty
  exact addAssertions_described assertions [] hstart

/-- There is one edge for each pair of columns that is asserted, with the records of all its assertions. -/
theorem edgeStated_materialize (assertions : List ColumnLineageAssertion) (source target : GraphNodeIdentity)
    (r : ProvenanceRecord) : EdgeStated (materializeColumnLineageEdges assertions) source target r ↔
      ∃ a ∈ assertions, a.output = source ∧ a.input = target ∧ r ∈ a.provenance := by
  have hall := merged_described assertions
  unfold EdgeStated materializeColumnLineageEdges
  dsimp only
  simp only [mem_sortBy, List.mem_map]
  constructor
  · rintro ⟨e, ⟨⟨pair, records⟩, hentry, rfl⟩, hends, hr⟩
    have hsums := hall.sums_of_get? (Dict.get?_eq_some.mpr hentry)
    obtain ⟨a, ⟨ha, rfl⟩, hra⟩ := (hsums.2 r).mp (mem_mergeProvenance.mp hr)
    obtain ⟨hs, ht⟩ := Prod.mk.inj hends
    exact ⟨a, ha, hs, (Prod.mk.inj ht).2, hra⟩
  · rintro ⟨a, ha, rfl, rfl, hr⟩
    have hmem : a ∈ aboutPair assertions (a.output, a.input) := ⟨ha, rfl⟩
    obtain ⟨records, hget⟩ := hall.exists_get? hmem
    refine ⟨_, ⟨((a.output, a.input), records), Dict.get?_eq_some.mp hget, rfl⟩, rfl, ?_⟩
    exact mem_mergeProvenance.mpr (((hall.sums_of_get? hget).2 r).mpr ⟨a, hmem, hr⟩)

lemma columnEdges_iff (h : st.SumsUp (factsOf events)) (source target : GraphNodeIdentity) (r : ProvenanceRecord) :
    EdgeStated (materializeColumnLineageEdges ((sortedLineage st.lineage).map (assertionOf ns st.datasets)))
      source target r ↔ ColumnDepends ns events source target r := by
  rw [edgeStated_materialize]
  constructor
  · rintro ⟨a, ha, rfl, rfl, hr⟩
    obtain ⟨⟨key, records⟩, hentry, rfl⟩ := List.mem_map.mp ha
    have hsums := h.lineage.sums_of_get? (Dict.get?_eq_some.mpr (mem_sortBy.mp hentry))
    obtain ⟨d, hd, l, hl, x, hx, rfl, rfl⟩ := lineage_mem_factsOf.mp ((hsums.2 r).mp (mem_mergeProvenance.mp hr))
    refine ⟨d, hd, l, hl, x, hx, ?_, ?_, rfl⟩
    · rw [assertionOf, identityOf_eq h]
    · rw [assertionOf, identityOf_eq h, identityOf_eq h]
  · rintro ⟨d, hd, l, hl, x, hx, rfl, rfl, rfl⟩
    have hfact := lineage_mem_factsOf.mpr ⟨d, hd, l, hl, x, hx, rfl, rfl⟩
    obtain ⟨records, hget⟩ := h.lineage.exists_get? hfact
    refine ⟨_, List.mem_map_of_mem (mem_sortBy.mpr (Dict.get?_eq_some.mp hget)), ?_, ?_, ?_⟩
    · rw [assertionOf, identityOf_eq h]
    · rw [assertionOf, identityOf_eq h, identityOf_eq h]
    · exact mem_mergeProvenance.mpr (((h.lineage.sums_of_get? hget).2 _).mpr hfact)

/-! ### All edges -/

/-- Parts without a dependency. -/
def OnlyContains (p : MappedParts) : Prop := ∀ e ∈ p.edges, e.kind = kindContains

namespace OnlyContains
variable {p q : MappedParts}

lemma empty : OnlyContains .empty := fun _ h => absurd h List.not_mem_nil

lemma append (hp : OnlyContains p) (hq : OnlyContains q) : OnlyContains (p ++ q) := by
  intro e he
  rcases List.mem_append.mp he with he | he
  · exact hp e he
  · exact hq e he

lemma of_mappedEdge {nodes : List GraphNode} {source target : GraphNodeIdentity} {pending : List PendingObservation} :
    OnlyContains ⟨nodes, [mappedEdge source target kindContains []], pending⟩ := by
  intro e he
  obtain rfl := List.mem_singleton.mp he
  rfl

lemma of_nodes {nodes : List GraphNode} {pending : List PendingObservation} :
    OnlyContains ⟨nodes, [], pending⟩ := fun _ h => absurd h List.not_mem_nil

end OnlyContains

mutual
lemma mapSchemaFields_contains {records : List ProvenanceRecord} : ∀ (parent : GraphNodeIdentity) (fs : List SchemaField),
    OnlyContains (mapSchemaFields ns records parent fs)
  | _, [] => by
    rw [mapSchemaFields]
    exact OnlyContains.empty
  | parent, f :: fs => by
    rw [mapSchemaFields]
    exact (mapSchemaField_contains parent f).append (mapSchemaFields_contains parent fs)

lemma mapSchemaField_contains {records : List ProvenanceRecord} : ∀ (parent : GraphNodeIdentity) (f : SchemaField),
    OnlyContains (mapSchemaField ns records parent f)
  | parent, .plain head => by
    rw [mapSchemaField]
    exact OnlyContains.of_mappedEdge
  | parent, .nested head fs => by
    rw [mapSchemaField]
    exact OnlyContains.of_mappedEdge.append (mapSchemaFields_contains _ fs)
end

lemma ensureContainers_contains (database schema : Stripped) (seen : List GraphNodeIdentity) :
    OnlyContains (ensureContainers ns database schema seen).1 := by
  unfold ensureContainers
  dsimp only
  split_ifs
  · exact OnlyContains.empty
  · exact OnlyContains.empty.append OnlyContains.of_mappedEdge
  · exact OnlyContains.of_nodes
  · exact OnlyContains.of_nodes.append OnlyContains.of_mappedEdge

lemma datasetParts_contains (seen : List GraphNodeIdentity) (key : DatasetKey) (s : DatasetState) :
    OnlyContains (datasetParts ns seen key s).1 := by
  unfold datasetParts
  dsimp only
  refine (OnlyContains.append ?_ ?_).append ?_
  · cases s.physical with
    | none => exact OnlyContains.empty
    | some levels => exact ensureContainers_contains _ _ seen
  · cases (s.identity ns key).parent with
    | none => exact OnlyContains.of_nodes
    | some parent => exact OnlyContains.of_mappedEdge
  · unfold schemaParts
    split
    · exact mapSchemaFields_contains _ _
    · exact OnlyContains.empty

lemma allDatasetParts_contains (datasets : Dict DatasetKey DatasetState) : OnlyContains (allDatasetParts ns datasets) := by
  have hrun : ∀ (es : List (DatasetKey × DatasetState)) (acc : MappedParts × List GraphNodeIdentity),
      OnlyContains acc.1 → OnlyContains (es.foldl (addDataset ns) acc).1 := by
    intro es
    induction es with
    | nil => exact fun _ h => h
    | cons e es ih => exact fun acc h => ih _ (h.append (datasetParts_contains acc.2 e.1 e.2))
  rw [allDatasetParts_eq]
  exact hrun _ _ OnlyContains.empty

lemma ensureLineageColumn_contains {parent : GraphNodeIdentity} {field : Stripped} {records : List ProvenanceRecord}
    {acc : LineageColumns} (h : OnlyContains acc.parts) :
    OnlyContains (ensureLineageColumn parent ns field records acc).parts := by
  unfold ensureLineageColumn
  dsimp only
  cases acc.columns.get? (.child ns kindColumn field parent) with
  | none => exact h.append OnlyContains.of_mappedEdge
  | some existing => exact h.append OnlyContains.of_nodes

lemma ensuredParts_contains (datasets : Dict DatasetKey DatasetState) (es : List (LineageKey × List ProvenanceRecord))
    (acc : LineageColumns) (h : OnlyContains acc.parts) :
    OnlyContains (es.foldl (ensureEntry ns datasets) acc).parts := by
  induction es generalizing acc with
  | nil => exact h
  | cons e es ih => exact ih _ (ensureLineageColumn_contains (ensureLineageColumn_contains h))

lemma not_edgeStated_of_contains {p : MappedParts} (h : OnlyContains p) {source target : GraphNodeIdentity}
    {r : ProvenanceRecord} : ¬ EdgeStated p.edges source target r := by
  rintro ⟨e, he, hends, -⟩
  obtain ⟨-, hrest⟩ := Prod.mk.inj hends
  exact contains_ne_dependsOn ((h e he).symm.trans (Prod.mk.inj hrest).1)

lemma edgeStated_append {es es' : List GraphEdge} {source target : GraphNodeIdentity} {r : ProvenanceRecord} :
    EdgeStated (es ++ es') source target r ↔ EdgeStated es source target r ∨ EdgeStated es' source target r := by
  simp only [EdgeStated, List.mem_append, or_and_right, exists_or]

/-- The dependencies among the parts are those that the events state. -/
theorem ingestedParts_dependencies (h : st.SumsUp (factsOf events)) (source target : GraphNodeIdentity)
    (r : ProvenanceRecord) : EdgeStated (ingestedParts ns st).edges source target r ↔
      DatasetDepends ns events source target r ∨ ColumnDepends ns events source target r := by
  unfold ingestedParts
  dsimp only
  rw [columnLineageParts_eq]
  simp only [MappedParts.edges_append, edgeStated_append, columnEdges_iff h, runEdges_iff h, jobEdges_iff h]
  rw [or_iff_right (not_edgeStated_of_contains (allDatasetParts_contains _)),
    or_iff_right (not_edgeStated_of_contains (ensuredParts_contains _ _ _ OnlyContains.empty)), or_comm]
  refine or_congr_left ?_
  simp only [DatasetDepends, or_and_right, exists_or]

end Facts

end CollibraGovernance.Openlineage
