import CollibraGovernance.Openlineage.Mapper
import CollibraGovernance.Openlineage.Material
import CollibraGovernance.Library.Described

/-! What events state, as facts that do not depend on the order of the events, and what reading the events
keeps of them. -/
namespace CollibraGovernance.Openlineage
open Library Identity Domain

/-- What is stated about a dataset: who mentions it, and what its facets state. -/
inductive DatasetFact where
  | mentioned (record : ProvenanceRecord)
  | facet (material : FacetMaterial) (record : ProvenanceRecord)

inductive Fact where
  | dataset (key : DatasetKey) (fact : DatasetFact)
  | lineage (key : LineageKey) (record : ProvenanceRecord)
  | run (runId : Stripped) (event : RunState)
  | job (event : JobLineage)

/-- One assertion of a column lineage facet. -/
def LineageEntry.facts (target : DatasetKey) (record : ProvenanceRecord) (entry : LineageEntry) : List Fact :=
  [.lineage (target, entry.output, entry.input, entry.field) record, .dataset entry.input (.mentioned record)]

def Facet.record (f : Facet) (key : DatasetKey) : ProvenanceRecord :=
  facetProvenance f.producer key f.material.key.value f.schemaUrl

def Lineage.record (l : Lineage) (key : DatasetKey) : ProvenanceRecord :=
  facetProvenance l.producer key "columnLineage" l.schemaUrl

def Lineage.facts (key : DatasetKey) (l : Lineage) : List Fact :=
  l.entries.flatMap (LineageEntry.facts key (l.record key))

/-- The fact of a facet, without its dataset. -/
def Facet.stated (key : DatasetKey) (f : Facet) : DatasetFact := .facet f.material (f.record key)

def Facet.fact (key : DatasetKey) (f : Facet) : Fact := .dataset key (f.stated key)

/-- What one listing of a dataset states. -/
def Dataset.facts (producer schemaUrl : String) (d : Dataset) : List Fact :=
  .dataset d.key (.mentioned (datasetProvenance producer d.key schemaUrl)) ::
    d.facets.map (Facet.fact d.key) ++ d.lineage.toList.flatMap (Lineage.facts d.key)

namespace Event

/-- The datasets that the event lists. -/
def datasets (e : Event) : List Dataset :=
  match e.body with
  | .dataset d => [d]
  | .job _ inputs outputs => inputs ++ outputs
  | .run _ _ inputs outputs => inputs ++ outputs

/-- What the event states about its run or its job. -/
def ending (e : Event) : List Fact :=
  match e.body with
  | .dataset _ => []
  | .job job inputs outputs => [.job ⟨keysOf inputs, keysOf outputs, [edgeProvenance e.producer job e.schemaUrl]⟩]
  | .run runId job inputs outputs =>
    [.run runId ⟨job, keysOf inputs, keysOf outputs, [edgeProvenance e.producer job e.schemaUrl]⟩]

def facts (e : Event) : List Fact := e.datasets.flatMap (Dataset.facts e.producer e.schemaUrl) ++ e.ending

end Event

/-- Everything that some events state. -/
def factsOf (events : List Event) : Set Fact := {f | ∃ e ∈ events, f ∈ e.facts}

/-- Facts about a dataset. -/
def aboutDataset (facts : Set Fact) (key : DatasetKey) : Set DatasetFact := {x | .dataset key x ∈ facts}

/-- What facets of one kind state. -/
def aboutFacet (facts : Set DatasetFact) (kind : FacetKey) : Set (FacetMaterial × ProvenanceRecord) :=
  {x | x.1.key = kind ∧ .facet x.1 x.2 ∈ facts}

def aboutLineage (facts : Set Fact) (key : LineageKey) : Set ProvenanceRecord := {r | .lineage key r ∈ facts}

def aboutRun (facts : Set Fact) (runId : Stripped) : Set RunState := {r | .run runId r ∈ facts}

/-- Facets of one kind state the same. -/
def FacetsAgree (facts : Set DatasetFact) : Prop :=
  ∀ m r m' r', .facet m r ∈ facts → .facet m' r' ∈ facts → m.key = m'.key → m = m'

/-- No two statements contradict each other: facets of a dataset, or jobs of a run. -/
structure Coherent (facts : Set Fact) : Prop where
  facets : ∀ key, FacetsAgree (aboutDataset facts key)
  runs : ∀ runId, ∀ r ∈ aboutRun facts runId, ∀ r' ∈ aboutRun facts runId, r.job = r'.job

lemma FacetsAgree.mono {F G : Set DatasetFact} (h : F ⊆ G) (hG : FacetsAgree G) : FacetsAgree F :=
  fun m r m' r' hm hm' => hG m r m' r' (h hm) (h hm')

lemma Coherent.mono {F G : Set Fact} (h : F ⊆ G) (hG : Coherent G) : Coherent F where
  facets key := (hG.facets key).mono fun _ hx => h hx
  runs runId r hr r' hr' := hG.runs runId r (h hr) r' (h hr')

/-! ### What is kept of the facts -/

/-- A list of records with all facts, and no other record. -/
def RecordsOf (facts : Set ProvenanceRecord) (records : List ProvenanceRecord) : Prop :=
  facts.Nonempty ∧ ∀ r, r ∈ records ↔ r ∈ facts

def FacetState.SumsUp (facts : Set (FacetMaterial × ProvenanceRecord)) (f : FacetState) : Prop :=
  facts.Nonempty ∧ ∀ m r, (m, r) ∈ facts ↔ m = f.material ∧ r ∈ f.provenances

structure DatasetState.SumsUp (facts : Set DatasetFact) (s : DatasetState) : Prop where
  mentioned : ∃ r, .mentioned r ∈ facts
  provenances : ∀ r, r ∈ s.provenances ↔ .mentioned r ∈ facts
  facets : s.facets.Described (aboutFacet facts) FacetState.SumsUp

structure RunState.SumsUp (facts : Set RunState) (run : RunState) : Prop where
  nonempty : facts.Nonempty
  job : ∀ r ∈ facts, r.job = run.job
  inputs : ∀ k, k ∈ run.inputs ↔ ∃ r ∈ facts, k ∈ r.inputs
  outputs : ∀ k, k ∈ run.outputs ↔ ∃ r ∈ facts, k ∈ r.outputs
  provenances : ∀ p, p ∈ run.provenances ↔ ∃ r ∈ facts, p ∈ r.provenances

/-- The state of reading sums up the facts. -/
structure Ingested.SumsUp (facts : Set Fact) (st : Ingested) : Prop where
  datasets : st.datasets.Described (aboutDataset facts) DatasetState.SumsUp
  lineage : st.lineage.Described (aboutLineage facts) RecordsOf
  runs : st.runs.Described (aboutRun facts) RunState.SumsUp
  jobs : ∀ j, j ∈ st.jobs ↔ .job j ∈ facts

/-! ### Reading the facts -/

lemma mem_addNew {α : Type} [DecidableEq α] {xs : List α} {x y : α} : y ∈ addNew xs x ↔ y ∈ xs ∨ y = x := by
  unfold addNew
  split_ifs with h
  · constructor
    · exact Or.inl
    · rintro (hy | rfl)
      · exact hy
      · exact h
  · rw [List.mem_append, List.mem_singleton]

section Facets
variable {X : Set DatasetFact} {facets facets' : Dict FacetKey FacetState} {key : DatasetKey} {path : String}

lemma aboutFacet_insert_self {m : FacetMaterial} {r : ProvenanceRecord} :
    aboutFacet (insert (.facet m r) X) m.key = insert (m, r) (aboutFacet X m.key) := by
  ext ⟨m', r'⟩
  simp only [aboutFacet, Set.mem_insert_iff, Set.mem_ofPred_eq, DatasetFact.facet.injEq, Prod.mk.injEq]
  constructor
  · rintro ⟨hkey, h | h⟩
    · exact Or.inl h
    · exact Or.inr ⟨hkey, h⟩
  · rintro (h | ⟨hkey, h⟩)
    · exact ⟨h.1 ▸ rfl, Or.inl h⟩
    · exact ⟨hkey, Or.inr h⟩

lemma aboutFacet_insert_of_ne {m : FacetMaterial} {r : ProvenanceRecord} {kind : FacetKey} (h : kind ≠ m.key) :
    aboutFacet (insert (.facet m r) X) kind = aboutFacet X kind := by
  ext ⟨m', r'⟩
  simp only [aboutFacet, Set.mem_insert_iff, Set.mem_ofPred_eq, DatasetFact.facet.injEq]
  constructor
  · rintro ⟨hkey, ⟨rfl, -⟩ | hmem⟩
    · exact absurd hkey.symm h
    · exact ⟨hkey, hmem⟩
  · rintro ⟨hkey, hmem⟩
    exact ⟨hkey, Or.inr hmem⟩

lemma aboutFacet_insert_mentioned {r : ProvenanceRecord} :
    aboutFacet (insert (.mentioned r) X) = aboutFacet X := by
  ext kind ⟨m', r'⟩
  simp [aboutFacet]

/-- What is kept of a kind of facet is what every statement of the kind says. -/
lemma material_of_mem (h : facets.Described (aboutFacet X) FacetState.SumsUp) {f : FacetState}
    {m : FacetMaterial} {r : ProvenanceRecord} (hf : facets.get? m.key = some f) (hmem : .facet m r ∈ X) :
    m = f.material :=
  (((h.sums_of_get? hf).2 m r).mp ⟨rfl, hmem⟩).1

/-- What is kept of a kind of facet is something stated. -/
lemma exists_stated (h : facets.Described (aboutFacet X) FacetState.SumsUp) {f : FacetState} {kind : FacetKey}
    (hf : facets.get? kind = some f) : f.material.key = kind ∧ ∃ r, .facet f.material r ∈ X := by
  obtain ⟨⟨⟨m, r⟩, hkey, hmem⟩, hall⟩ := h.sums_of_get? hf
  obtain ⟨rfl, -⟩ := (hall m r).mp ⟨hkey, hmem⟩
  exact ⟨hkey, r, hmem⟩

lemma mergeFacet_described (h : facets.Described (aboutFacet X) FacetState.SumsUp) {facet : Facet}
    (hmerge : mergeFacet key path facets facet = .ok facets') :
    facets'.Described (aboutFacet (insert (.facet facet.material (facet.record key)) X)) FacetState.SumsUp := by
  unfold mergeFacet at hmerge
  dsimp only at hmerge
  cases hget : facets.get? facet.material.key with
  | none =>
    rw [hget] at hmerge
    obtain rfl := Except.ok.inj hmerge
    refine h.set ?_ fun kind hne => aboutFacet_insert_of_ne hne
    rw [aboutFacet_insert_self, h.eq_empty hget]
    refine ⟨Set.insert_nonempty _ _, fun m r => ?_⟩
    simp [Facet.record]
  | some existing =>
    rw [hget] at hmerge
    dsimp only at hmerge
    split_ifs at hmerge with hmaterial
    · cases hmerge
    · obtain rfl := Except.ok.inj hmerge
      have hsame := material_inj (exists_stated h hget).1 (not_not.mp hmaterial)
      refine h.set ?_ fun kind hne => aboutFacet_insert_of_ne hne
      rw [aboutFacet_insert_self]
      refine ⟨Set.insert_nonempty _ _, fun m r => ?_⟩
      rw [Set.mem_insert_iff, (h.sums_of_get? hget).2 m r, mem_addNew, Prod.mk.injEq, hsame, Facet.record]
      constructor
      · rintro (⟨hm, hr⟩ | ⟨hm, hr⟩)
        · exact ⟨hm, Or.inr hr⟩
        · exact ⟨hm, Or.inl hr⟩
      · rintro ⟨hm, hr | hr⟩
        · exact Or.inr ⟨hm, hr⟩
        · exact Or.inl ⟨hm, hr⟩

/-- A facet is merged unless a facet of its kind states something else. -/
lemma exists_mergeFacet (h : facets.Described (aboutFacet X) FacetState.SumsUp) {facet : Facet}
    (hagree : FacetsAgree (insert (facet.stated key) X)) :
    ∃ facets', mergeFacet key path facets facet = .ok facets' := by
  unfold mergeFacet
  dsimp only
  cases hget : facets.get? facet.material.key with
  | none => exact ⟨_, rfl⟩
  | some existing =>
    obtain ⟨hkey, r, hmem⟩ := exists_stated h hget
    dsimp only
    have hsame := hagree _ r _ _ (Set.mem_insert_of_mem _ hmem) (Set.mem_insert _ _) hkey
    rw [if_neg (not_not.mpr (congrArg FacetMaterial.materialKey hsame))]
    exact ⟨_, rfl⟩

/-- What is kept of some facets sums them up. -/
def FacetsSumUp (facts : Set DatasetFact) (facets : Dict FacetKey FacetState) : Prop :=
  facets.Described (aboutFacet facts) FacetState.SumsUp

theorem gathers_mergeFacet :
    Gathers (mergeFacet key path) (fun f => [f.stated key]) FacetsSumUp FacetsAgree where
  keeps h hstep := by
    rw [union_singleton]
    exact mergeFacet_described h hstep
  succeeds h hagree := by
    rw [union_singleton] at hagree
    exact exists_mergeFacet h hagree

end Facets

end CollibraGovernance.Openlineage
