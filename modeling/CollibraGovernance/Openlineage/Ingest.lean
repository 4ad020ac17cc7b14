import CollibraGovernance.Openlineage.Facts

/-! Reading events keeps exactly the facts that they state, and stops exactly at a contradiction. -/
namespace CollibraGovernance.Openlineage
open Library Identity Domain

variable {F : Set Fact} {key : DatasetKey} {producer schemaUrl path : String}

lemma aboutDataset_insert_self {x : DatasetFact} :
    aboutDataset (insert (.dataset key x) F) key = insert x (aboutDataset F key) := by
  ext y
  simp [aboutDataset]

lemma aboutDataset_insert_other {f : Fact} (h : ∀ x, .dataset key x ≠ f) :
    aboutDataset (insert f F) key = aboutDataset F key := by
  ext y
  simp [aboutDataset, h y]

lemma aboutLineage_insert_self {key : LineageKey} {r : ProvenanceRecord} :
    aboutLineage (insert (.lineage key r) F) key = insert r (aboutLineage F key) := by
  ext y
  simp [aboutLineage]

lemma aboutLineage_insert_other {key : LineageKey} {f : Fact} (h : ∀ x, .lineage key x ≠ f) :
    aboutLineage (insert f F) key = aboutLineage F key := by
  ext y
  simp [aboutLineage, h y]

lemma aboutRun_insert_self {runId : Stripped} {r : RunState} :
    aboutRun (insert (.run runId r) F) runId = insert r (aboutRun F runId) := by
  ext y
  simp [aboutRun]

lemma aboutRun_insert_other {runId : Stripped} {f : Fact} (h : ∀ x, .run runId x ≠ f) :
    aboutRun (insert f F) runId = aboutRun F runId := by
  ext y
  simp [aboutRun, h y]

section Datasets
variable {datasets : Dict DatasetKey DatasetState}

/-- What is kept of a dataset, also of one that was not mentioned yet. -/
lemma current_sumsUp (h : datasets.Described (aboutDataset F) DatasetState.SumsUp) (key : DatasetKey) :
    (∀ r, r ∈ ((datasets.get? key).getD .empty).provenances ↔ .mentioned r ∈ aboutDataset F key) ∧
    ((datasets.get? key).getD .empty).facets.Described (aboutFacet (aboutDataset F key)) FacetState.SumsUp := by
  cases hget : datasets.get? key with
  | some state =>
    have hstate := h.sums_of_get? hget
    exact ⟨hstate.provenances, hstate.facets⟩
  | none =>
    have hnone : aboutFacet (aboutDataset F key) = fun _ => ∅ := by
      funext kind
      rw [h.eq_empty hget]
      ext x
      simp [aboutFacet]
    rw [hnone, h.eq_empty hget]
    exact ⟨fun r => by simp [DatasetState.empty], Dict.described_empty⟩

lemma noteDataset_described (h : datasets.Described (aboutDataset F) DatasetState.SumsUp) (key : DatasetKey)
    (r : ProvenanceRecord) : (noteDataset datasets key r).Described
      (aboutDataset (insert (.dataset key (.mentioned r)) F)) DatasetState.SumsUp := by
  obtain ⟨hprovenances, hfacets⟩ := current_sumsUp h key
  refine h.set ?_ fun key' hne => aboutDataset_insert_other fun x heq => hne ?_
  · rw [aboutDataset_insert_self]
    refine ⟨⟨r, Set.mem_insert _ _⟩, fun r' => ?_, ?_⟩
    · rw [mem_addNew, hprovenances, Set.mem_insert_iff, DatasetFact.mentioned.injEq, or_comm]
    · rw [aboutFacet_insert_mentioned]
      exact hfacets
  · cases heq
    rfl

end Datasets

section Dataset
variable {st st' : Ingested} {dataset : Dataset}

lemma aboutDataset_union_facets {fs : List Facet} :
    aboutDataset (F ∪ {f | f ∈ fs.map (Facet.fact key)}) key =
      aboutDataset F key ∪ {x | x ∈ fs.flatMap (fun f => [f.stated key])} := by
  ext x
  simp [aboutDataset, Facet.fact, eq_comm]

lemma aboutDataset_union_facets_of_ne {key' : DatasetKey} (h : key' ≠ key) {fs : List Facet} :
    aboutDataset (F ∪ {f | f ∈ fs.map (Facet.fact key)}) key' = aboutDataset F key' := by
  ext x
  simp [aboutDataset, Facet.fact, Ne.symm h]

/-- The facets of a dataset are written back. -/
lemma setFacets_described {datasets : Dict DatasetKey DatasetState}
    (h : datasets.Described (aboutDataset F) DatasetState.SumsUp) {state : DatasetState}
    (hget : datasets.get? key = some state) {fs : List Facet} {facets : Dict FacetKey FacetState}
    (hmerge : fs.foldlM (mergeFacet key path) state.facets = .ok facets) :
    (datasets.set key { state with facets }).Described (aboutDataset (F ∪ {f | f ∈ fs.map (Facet.fact key)}))
      DatasetState.SumsUp := by
  have hstate := h.sums_of_get? hget
  refine h.set ?_ fun key' hne => aboutDataset_union_facets_of_ne hne
  rw [aboutDataset_union_facets]
  refine ⟨hstate.mentioned.imp fun _ => Or.inl, fun r => ?_,
    (gathers_mergeFacet.foldlM FacetsAgree.mono).keeps hstate.facets hmerge⟩
  rw [hstate.provenances]
  simp [Facet.stated]

/-- Facts of another sort are none about a dataset. -/
lemma aboutDataset_insert {f : Fact} (h : ∀ key x, .dataset key x ≠ f) :
    aboutDataset (insert f F) = aboutDataset F := funext fun key => aboutDataset_insert_other (h key)

lemma aboutLineage_insert {f : Fact} (h : ∀ key x, .lineage key x ≠ f) :
    aboutLineage (insert f F) = aboutLineage F := funext fun key => aboutLineage_insert_other (h key)

lemma aboutRun_insert {f : Fact} (h : ∀ runId x, .run runId x ≠ f) :
    aboutRun (insert f F) = aboutRun F := funext fun runId => aboutRun_insert_other (h runId)

lemma noteLineage_described {lineage : Dict LineageKey (List ProvenanceRecord)}
    (h : lineage.Described (aboutLineage F) RecordsOf) (key : LineageKey) (r : ProvenanceRecord) :
    (lineage.set key (addNew ((lineage.get? key).getD []) r)).Described
      (aboutLineage (insert (.lineage key r) F)) RecordsOf := by
  refine h.set ?_ fun key' hne => aboutLineage_insert_other fun x heq => hne (Fact.lineage.inj heq).1
  rw [aboutLineage_insert_self]
  refine ⟨Set.insert_nonempty _ _, fun r' => ?_⟩
  rw [mem_addNew, Set.mem_insert_iff, or_comm]
  refine or_congr_right ?_
  cases hget : lineage.get? key with
  | none => simp [h.eq_empty hget]
  | some records => exact (h.sums_of_get? hget).2 r'

lemma ingestEntry_sumsUp (h : st.SumsUp F) (target : DatasetKey) (record : ProvenanceRecord) (entry : LineageEntry) :
    (ingestEntry target record st entry).SumsUp (F ∪ {f | f ∈ entry.facts target record}) := by
  rw [LineageEntry.facts, ← union_cons, ← union_cons, union_nil]
  refine ⟨noteDataset_described ?_ entry.input record, ?_, ?_, fun j => ?_⟩
  · rw [aboutDataset_insert fun _ _ => Fact.noConfusion]
    exact h.datasets
  · rw [aboutLineage_insert fun _ _ => Fact.noConfusion]
    exact noteLineage_described h.lineage _ record
  · rw [aboutRun_insert fun _ _ => Fact.noConfusion, aboutRun_insert fun _ _ => Fact.noConfusion]
    exact h.runs
  · exact (h.jobs j).trans (by simp)

lemma ingestEntries_sumsUp (h : st.SumsUp F) (target : DatasetKey) (record : ProvenanceRecord)
    (entries : List LineageEntry) :
    (entries.foldl (ingestEntry target record) st).SumsUp
      (F ∪ {f | f ∈ entries.flatMap (LineageEntry.facts target record)}) := by
  induction entries generalizing F st with
  | nil =>
    rw [List.flatMap_nil, union_nil]
    exact h
  | cons entry rest ih =>
    rw [List.flatMap_cons, ← union_append]
    exact ih (ingestEntry_sumsUp h target record entry)

lemma ingestColumnLineageFacet_sumsUp (h : st.SumsUp F) (dataset : Dataset) :
    (ingestColumnLineageFacet dataset st).SumsUp
      (F ∪ {f | f ∈ dataset.lineage.toList.flatMap (Lineage.facts dataset.key)}) := by
  unfold ingestColumnLineageFacet
  cases dataset.lineage with
  | none =>
    rw [Option.toList_none, List.flatMap_nil, union_nil]
    exact h
  | some lineage =>
    rw [Option.toList_some, List.flatMap_singleton]
    exact ingestEntries_sumsUp h dataset.key _ lineage.entries

/-- The state with other datasets, which sum up what is known about datasets now. -/
lemma withDatasets_sumsUp (h : st.SumsUp F) {datasets : Dict DatasetKey DatasetState} {fs : List Fact}
    (hdatasets : datasets.Described (aboutDataset (F ∪ {f | f ∈ fs})) DatasetState.SumsUp)
    (hfs : ∀ f ∈ fs, ∃ key x, f = .dataset key x) :
    Ingested.SumsUp (F ∪ {f | f ∈ fs}) { st with datasets } := by
  have hother : ∀ f, (∀ key x, f ≠ .dataset key x) → (f ∈ F ∪ {f | f ∈ fs} ↔ f ∈ F) := by
    intro f hne
    refine or_iff_left fun hf => ?_
    obtain ⟨key, x, heq⟩ := hfs f hf
    exact hne key x heq
  refine ⟨hdatasets, ?_, ?_, fun j => (h.jobs j).trans (hother _ fun _ _ => Fact.noConfusion).symm⟩
  · have hsame : aboutLineage (F ∪ {f | f ∈ fs}) = aboutLineage F := by
      ext key r
      exact hother _ fun _ _ => Fact.noConfusion
    rw [hsame]
    exact h.lineage
  · have hsame : aboutRun (F ∪ {f | f ∈ fs}) = aboutRun F := by
      ext runId r
      exact hother _ fun _ _ => Fact.noConfusion
    rw [hsame]
    exact h.runs

/-- The facts of a dataset, without those of its column lineage. -/
def Dataset.ownFacts (producer schemaUrl : String) (d : Dataset) : List Fact :=
  .dataset d.key (.mentioned (datasetProvenance producer d.key schemaUrl)) :: d.facets.map (Facet.fact d.key)

lemma Dataset.facts_eq (d : Dataset) : d.facts producer schemaUrl =
    d.ownFacts producer schemaUrl ++ d.lineage.toList.flatMap (Lineage.facts d.key) := rfl

lemma ownFacts_dataset {f : Fact} (hf : f ∈ dataset.ownFacts producer schemaUrl) : ∃ key x, f = .dataset key x := by
  rcases List.mem_cons.mp hf with rfl | hf
  · exact ⟨_, _, rfl⟩
  · obtain ⟨facet, -, rfl⟩ := List.mem_map.mp hf
    exact ⟨_, _, rfl⟩

lemma mergeDatasetObservation_sumsUp (h : st.SumsUp F)
    (hmerge : mergeDatasetObservation producer schemaUrl path st dataset = .ok st') :
    st'.SumsUp (F ∪ {f | f ∈ dataset.facts producer schemaUrl}) := by
  unfold mergeDatasetObservation at hmerge
  dsimp only at hmerge
  obtain ⟨facets, hfacets, hst⟩ := bind_eq_ok.mp hmerge
  obtain rfl := pure_eq_ok.mp hst
  have hnoted := noteDataset_described h.datasets dataset.key (datasetProvenance producer dataset.key schemaUrl)
  rw [Dataset.facts_eq, ← union_append]
  refine ingestColumnLineageFacet_sumsUp (withDatasets_sumsUp h ?_ fun _ => ownFacts_dataset) dataset
  rw [Dataset.ownFacts, ← union_cons]
  have hget : (noteDataset st.datasets dataset.key (datasetProvenance producer dataset.key schemaUrl)).get?
      dataset.key = some (((noteDataset st.datasets dataset.key
        (datasetProvenance producer dataset.key schemaUrl)).get? dataset.key).getD .empty) := by
    rw [noteDataset, Dict.get?_set_self, Option.getD_some]
  exact setFacets_described hnoted hget hfacets

/-- A dataset is read unless one of its facets contradicts a facet of the dataset. -/
lemma exists_mergeDatasetObservation (h : st.SumsUp F)
    (hcoherent : Coherent (F ∪ {f | f ∈ dataset.facts producer schemaUrl})) :
    ∃ st', mergeDatasetObservation producer schemaUrl path st dataset = .ok st' := by
  have hnoted := noteDataset_described h.datasets dataset.key (datasetProvenance producer dataset.key schemaUrl)
  obtain ⟨-, hcurrent⟩ := current_sumsUp hnoted dataset.key
  rw [Dataset.facts_eq, ← union_append, Dataset.ownFacts, ← union_cons] at hcoherent
  have hagree := (hcoherent.mono Set.subset_union_left).facets dataset.key
  rw [aboutDataset_union_facets] at hagree
  obtain ⟨facets, hfacets⟩ := (gathers_mergeFacet.foldlM FacetsAgree.mono).succeeds hcurrent hagree
  exact ⟨_, bind_eq_ok.mpr ⟨facets, hfacets, rfl⟩⟩

theorem gathers_mergeDatasetObservation :
    Gathers (mergeDatasetObservation producer schemaUrl path) (Dataset.facts producer schemaUrl)
      (fun F st => st.SumsUp F) Coherent :=
  ⟨mergeDatasetObservation_sumsUp, exists_mergeDatasetObservation⟩

theorem gathers_collectDatasets :
    Gathers (fun st datasets => collectDatasetsFromList producer schemaUrl path st datasets)
      (fun datasets => datasets.flatMap (Dataset.facts producer schemaUrl)) (fun F st => st.SumsUp F) Coherent :=
  Gathers.foldlM_zipIdx ⟨gathers_mergeDatasetObservation.keeps, gathers_mergeDatasetObservation.succeeds⟩
    Coherent.mono

end Dataset

section Runs
variable {runs runs' : Dict Stripped RunState} {runId : Stripped} {job : Job} {inputs outputs : List DatasetKey}
  {record : ProvenanceRecord}

lemma mergeRun_described (h : runs.Described (aboutRun F) RunState.SumsUp)
    (hmerge : mergeRun runs runId job inputs outputs record path = .ok runs') :
    runs'.Described (aboutRun (insert (.run runId ⟨job, inputs, outputs, [record]⟩) F)) RunState.SumsUp := by
  have hrest : ∀ runId' ≠ runId, aboutRun (insert (.run runId ⟨job, inputs, outputs, [record]⟩) F) runId' =
      aboutRun F runId' := fun _ hne => aboutRun_insert_other fun x heq => hne (Fact.run.inj heq).1
  unfold mergeRun at hmerge
  cases hget : runs.get? runId with
  | none =>
    rw [hget] at hmerge
    obtain rfl := Except.ok.inj hmerge
    refine h.set ?_ hrest
    rw [aboutRun_insert_self, h.eq_empty hget]
    refine ⟨Set.insert_nonempty _ _, ?_, ?_, ?_, ?_⟩ <;> simp
  | some existing =>
    rw [hget] at hmerge
    dsimp only at hmerge
    split_ifs at hmerge with hjob
    · cases hmerge
    · obtain rfl := Except.ok.inj hmerge
      have hrun := h.sums_of_get? hget
      refine h.set ?_ hrest
      rw [aboutRun_insert_self]
      refine ⟨Set.insert_nonempty _ _, ?_, fun k => ?_, fun k => ?_, fun p => ?_⟩
      · rintro r (rfl | hr)
        · rfl
        · exact (hrun.job r hr).trans (not_not.mp hjob)
      · rw [mem_distinct, List.mem_append, hrun.inputs, or_comm]
        simp
      · rw [mem_distinct, List.mem_append, hrun.outputs, or_comm]
        simp
      · rw [mem_addNew, hrun.provenances, or_comm]
        simp

/-- An event of a run is read unless another event of the run names another job. -/
lemma exists_mergeRun (h : runs.Described (aboutRun F) RunState.SumsUp)
    (hagree : ∀ r ∈ aboutRun F runId, r.job = job) :
    ∃ runs', mergeRun runs runId job inputs outputs record path = .ok runs' := by
  unfold mergeRun
  cases hget : runs.get? runId with
  | none => exact ⟨_, rfl⟩
  | some existing =>
    have hrun := h.sums_of_get? hget
    obtain ⟨r, hr⟩ := hrun.nonempty
    have hjob : existing.job = job := (hrun.job r hr).symm.trans (hagree r hr)
    dsimp only
    rw [if_neg (not_not.mpr hjob)]
    exact ⟨_, rfl⟩

end Runs

/-! ### Events -/

section Events
variable {st st' : Ingested} {event : Event}

lemma noteJob_sumsUp (h : st.SumsUp F) (j : JobLineage) :
    Ingested.SumsUp (insert (.job j) F) { st with jobs := st.jobs ++ [j] } := by
  refine ⟨?_, ?_, ?_, fun j' => ?_⟩
  · rw [aboutDataset_insert fun _ _ => Fact.noConfusion]
    exact h.datasets
  · rw [aboutLineage_insert fun _ _ => Fact.noConfusion]
    exact h.lineage
  · rw [aboutRun_insert fun _ _ => Fact.noConfusion]
    exact h.runs
  · rw [List.mem_append, h.jobs, List.mem_singleton, Set.mem_insert_iff, Fact.job.injEq, or_comm]

lemma noteRun_sumsUp (h : st.SumsUp F) {runId : Stripped} {r : RunState} {runs : Dict Stripped RunState}
    (hruns : runs.Described (aboutRun (insert (.run runId r) F)) RunState.SumsUp) :
    Ingested.SumsUp (insert (.run runId r) F) { st with runs } := by
  refine ⟨?_, ?_, hruns, fun j => ?_⟩
  · rw [aboutDataset_insert fun _ _ => Fact.noConfusion]
    exact h.datasets
  · rw [aboutLineage_insert fun _ _ => Fact.noConfusion]
    exact h.lineage
  · exact (h.jobs j).trans (by simp)

lemma ingestEvent_sumsUp (h : st.SumsUp F) (hingest : ingestEvent path st event = .ok st') :
    st'.SumsUp (F ∪ {f | f ∈ event.facts}) := by
  obtain ⟨schemaUrl, producer, body⟩ := event
  rw [Event.facts, ← union_append]
  cases body with
  | dataset dataset =>
    rw [Event.ending, union_nil, Event.datasets, List.flatMap_singleton]
    exact mergeDatasetObservation_sumsUp h hingest
  | job job inputs outputs =>
    obtain ⟨st₁, hinputs, hingest⟩ := bind_eq_ok.mp hingest
    obtain ⟨st₂, houtputs, hingest⟩ := bind_eq_ok.mp hingest
    obtain rfl := pure_eq_ok.mp hingest
    rw [Event.ending, union_singleton, Event.datasets, List.flatMap_append, ← union_append]
    exact noteJob_sumsUp (gathers_collectDatasets.keeps (gathers_collectDatasets.keeps h hinputs) houtputs) _
  | run runId job inputs outputs =>
    obtain ⟨st₁, hinputs, hingest⟩ := bind_eq_ok.mp hingest
    obtain ⟨st₂, houtputs, hingest⟩ := bind_eq_ok.mp hingest
    obtain ⟨runs, hruns, hingest⟩ := bind_eq_ok.mp hingest
    obtain rfl := pure_eq_ok.mp hingest
    rw [Event.ending, union_singleton, Event.datasets, List.flatMap_append, ← union_append]
    have hread := gathers_collectDatasets.keeps (gathers_collectDatasets.keeps h hinputs) houtputs
    exact noteRun_sumsUp hread (mergeRun_described hread.runs hruns)

/-- Inputs and outputs are read one after the other. -/
lemma exists_collectBoth (h : st.SumsUp F) {inputs outputs : List Dataset}
    (hcoherent : Coherent (F ∪ {f | f ∈ (inputs ++ outputs).flatMap (Dataset.facts producer schemaUrl)})) :
    ∃ st₁ st₂, collectDatasetsFromList producer schemaUrl (pointer path "inputs") st inputs = .ok st₁ ∧
      collectDatasetsFromList producer schemaUrl (pointer path "outputs") st₁ outputs = .ok st₂ ∧
      st₂.SumsUp (F ∪ {f | f ∈ (inputs ++ outputs).flatMap (Dataset.facts producer schemaUrl)}) := by
  rw [List.flatMap_append, ← union_append] at hcoherent ⊢
  have hfirst : ∃ st₁, collectDatasetsFromList producer schemaUrl (pointer path "inputs") st inputs = .ok st₁ :=
    gathers_collectDatasets.succeeds h (hcoherent.mono Set.subset_union_left)
  obtain ⟨st₁, hinputs⟩ := hfirst
  have hread := gathers_collectDatasets.keeps h hinputs
  have hsecond : ∃ st₂, collectDatasetsFromList producer schemaUrl (pointer path "outputs") st₁ outputs = .ok st₂ :=
    gathers_collectDatasets.succeeds hread hcoherent
  obtain ⟨st₂, houtputs⟩ := hsecond
  exact ⟨st₁, st₂, hinputs, houtputs, gathers_collectDatasets.keeps hread houtputs⟩

lemma exists_ingestEvent (h : st.SumsUp F) (hcoherent : Coherent (F ∪ {f | f ∈ event.facts})) :
    ∃ st', ingestEvent path st event = .ok st' := by
  obtain ⟨schemaUrl, producer, body⟩ := event
  rw [Event.facts, ← union_append] at hcoherent
  have hdatasets := hcoherent.mono Set.subset_union_left
  cases body with
  | dataset dataset =>
    rw [Event.datasets, List.flatMap_singleton] at hdatasets
    exact exists_mergeDatasetObservation h hdatasets
  | job job inputs outputs =>
    obtain ⟨st₁, st₂, hinputs, houtputs, -⟩ := exists_collectBoth h hdatasets
    exact ⟨_, bind_eq_ok.mpr ⟨st₁, hinputs, bind_eq_ok.mpr ⟨st₂, houtputs, rfl⟩⟩⟩
  | run runId job inputs outputs =>
    obtain ⟨st₁, st₂, hinputs, houtputs, hread⟩ := exists_collectBoth h hdatasets
    have hruns : ∃ runs, mergeRun st₂.runs runId job (keysOf inputs) (keysOf outputs)
        (edgeProvenance producer job schemaUrl) path = .ok runs := by
      refine exists_mergeRun hread.runs fun r hr => ?_
      exact hcoherent.runs runId r (Or.inl hr) ⟨job, keysOf inputs, keysOf outputs,
        [edgeProvenance producer job schemaUrl]⟩ (Or.inr (List.mem_singleton_self _))
    obtain ⟨runs, hruns⟩ := hruns
    exact ⟨_, bind_eq_ok.mpr ⟨st₁, hinputs, bind_eq_ok.mpr ⟨st₂, houtputs, bind_eq_ok.mpr ⟨runs, hruns, rfl⟩⟩⟩⟩

theorem gathers_ingestEvents :
    Gathers (fun st (events : List Event) =>
        events.zipIdx.foldlM (fun st entry => ingestEvent (pointerAt "" entry.2) st entry.1) st)
      (fun events => events.flatMap Event.facts) (fun F st => st.SumsUp F) Coherent :=
  Gathers.foldlM_zipIdx ⟨ingestEvent_sumsUp, exists_ingestEvent⟩ Coherent.mono

lemma empty_sumsUp : Ingested.empty.SumsUp ∅ where
  datasets := Dict.described_empty
  lineage := Dict.described_empty
  runs := Dict.described_empty
  jobs j := by simp [Ingested.empty]

lemma factsOf_eq (events : List Event) : ∅ ∪ {f | f ∈ events.flatMap Event.facts} = factsOf events := by
  ext f
  simp [factsOf]

/-- The state that the events are read into sums up what they state. -/
theorem ingestEvents_sumsUp {events : List Event} (h : ingestEvents events = .ok st) :
    st.SumsUp (factsOf events) := by
  rw [← factsOf_eq]
  exact gathers_ingestEvents.keeps empty_sumsUp h

lemma coherent_of_sumsUp (h : st.SumsUp F) : Coherent F where
  facets key m r m' r' hm hm' hkey := by
    obtain ⟨state, hstate⟩ := h.datasets.exists_get? hm
    have hfacets := (h.datasets.sums_of_get? hstate).facets
    have hmem : (m, r) ∈ aboutFacet (aboutDataset F key) m.key := ⟨rfl, hm⟩
    obtain ⟨f, hf⟩ := hfacets.exists_get? hmem
    rw [material_of_mem hfacets hf hm, material_of_mem hfacets (hkey ▸ hf) hm']
  runs runId r hr r' hr' := by
    obtain ⟨run, hrun⟩ := h.runs.exists_get? hr
    have hsums := h.runs.sums_of_get? hrun
    rw [hsums.job r hr, hsums.job r' hr']

/-- Events are read exactly when what they state is coherent. -/
theorem exists_ingestEvents_iff {events : List Event} :
    (∃ st, ingestEvents events = .ok st) ↔ Coherent (factsOf events) := by
  constructor
  · rintro ⟨st, h⟩
    exact coherent_of_sumsUp (ingestEvents_sumsUp h)
  · intro h
    rw [← factsOf_eq] at h
    exact gathers_ingestEvents.succeeds empty_sumsUp h

/-- What events state does not depend on their order and repetition. -/
lemma factsOf_congr {events events' : List Event} (h : ∀ e, e ∈ events ↔ e ∈ events') :
    factsOf events = factsOf events' := by
  ext f
  simp only [factsOf, Set.mem_ofPred_eq, h]

end Events

end CollibraGovernance.Openlineage
