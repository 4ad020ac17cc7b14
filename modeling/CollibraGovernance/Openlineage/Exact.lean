import CollibraGovernance.Openlineage.Lineage
import CollibraGovernance.Openlineage.Errors
import CollibraGovernance.Odcs.Order

/-! Mapped documents do not depend on the order of their events and hold exactly the dependencies that these state. -/
namespace CollibraGovernance.Openlineage
open Library Identity Domain

/-! ### The events of a document -/

/-- The event that an item of a document is read as. -/
def eventOf : Json → Option Event
  | .obj mapping => (readEvent mapping "").toOption
  | _ => none

def eventsOf (items : List Json) : List Event := items.filterMap eventOf

lemma eventsOf_congr {items items' : List Json} (h : ∀ j, j ∈ items ↔ j ∈ items') (e : Event) :
    e ∈ eventsOf items ↔ e ∈ eventsOf items' := by
  simp only [eventsOf, List.mem_filterMap, h]

section Documents
variable {parsers : Parsers} {items items' : List Json} {validated : List (List (String × Json))}

lemma validateEvent_eq_obj {event : Json} {path : String} {mapping : List (String × Json)}
    (h : validateEvent parsers event path = .ok mapping) : event = .obj mapping := by
  obtain ⟨members, hmembers, h₁⟩ := bind_eq_ok.mp h
  obtain ⟨kind, -, h₂⟩ := bind_eq_ok.mp h₁
  obtain rfl := requireMapping_ok.mp hmembers
  cases kind <;> obtain ⟨_, _, h₃⟩ := bind_eq_ok.mp h₂ <;> rw [pure_eq_ok.mp h₃]

/-- Results of steps that are told their place, where the place does not matter. -/
lemma forall₂_of_mapM_zipIdx {α β : Type} {f : α × Nat → Checked β} {R : α → β → Prop} {xs : List α} {ys : List β}
    (h : xs.zipIdx.mapM f = .ok ys) (hR : ∀ x n y, f (x, n) = .ok y → R x y) : List.Forall₂ R xs ys := by
  have hall : List.Forall₂ (fun e y => R (Prod.fst e) y) xs.zipIdx ys :=
    (mapM_eq_ok.mp h).imp fun e y he => hR e.1 e.2 y he
  rw [← List.zipIdx_map_fst 0 xs]
  exact List.forall₂_map_left_iff.mpr hall

lemma validateItems (h : validateOpenlineageEvents parsers (.arr items) = .ok validated) :
    Odcs.fitsDepth Odcs.maxJsonTreeDepth (.arr items) = true ∧
      (items.zipIdx.mapM fun entry => validateEvent parsers entry.1 (pointerAt "" entry.2)) = .ok validated := by
  unfold validateOpenlineageEvents at h
  dsimp only at h
  split_ifs at h with hdepth
  · cases h
  · exact ⟨by simpa using hdepth, h⟩

/-- A document that validates is mapped by mapping its events. -/
theorem mapOpenlineageEvents_eq (h : validateOpenlineageEvents parsers (.arr items) = .ok validated) (nameSpace : String) :
    mapOpenlineageEventsWithObservations parsers (.arr items) nameSpace =
      (requireNamespace nameSpace >>= fun ns => mapOpenlineageResult ns (eventsOf items)) := by
  obtain ⟨read, hread⟩ := exists_readEvents h
  have hitems : List.Forall₂ (fun j m => j = Json.obj m) items validated :=
    forall₂_of_mapM_zipIdx (validateItems h).2 fun _ _ _ hm => validateEvent_eq_obj hm
  have hevents : List.Forall₂ (fun m e => readEvent m "" = .ok e) validated read :=
    forall₂_of_mapM_zipIdx hread fun m n e he => (readEvent_place m e).mp he
  have hread' : read = eventsOf items := by
    clear h hread
    induction hitems generalizing read with
    | nil =>
      cases hevents
      rfl
    | cons hj _ ih =>
      cases hevents with
      | cons he hrest =>
        obtain rfl := hj
        have hfirst : eventOf (.obj _) = some _ := toOption_eq_some.mpr he
        rw [eventsOf, List.filterMap_cons_some hfirst, ih _ hrest]
        rfl
  unfold mapOpenlineageEventsWithObservations
  refine bind_congr fun ns => ?_
  rw [h, ok_bind, hread, ok_bind, hread']

/-- The order and the repetition of the events do not matter to the validator. -/
theorem exists_validate_of_mem (hmem : ∀ j, j ∈ items ↔ j ∈ items')
    (h : validateOpenlineageEvents parsers (.arr items) = .ok validated) :
    ∃ validated', validateOpenlineageEvents parsers (.arr items') = .ok validated' := by
  obtain ⟨hdepth, hitems⟩ := validateItems h
  have hdepth' : Odcs.fitsDepth Odcs.maxJsonTreeDepth (.arr items') = true := by
    rw [Odcs.fitsDepth, Odcs.fitsItems_iff] at hdepth ⊢
    have hempty : items = [] ↔ items' = [] := by
      rw [List.eq_nil_iff_forall_not_mem, List.eq_nil_iff_forall_not_mem]
      exact forall_congr' fun j => not_congr (hmem j)
    simpa only [← hempty, ← hmem] using hdepth
  have hall : ∀ entry ∈ items'.zipIdx, ∃ m, validateEvent parsers entry.1 (pointerAt "" entry.2) = .ok m := by
    intro entry hentry
    obtain ⟨n, hn⟩ := List.mem_iff_getElem?.mp ((hmem _).mpr (List.fst_mem_of_mem_zipIdx hentry))
    obtain ⟨m, -, hm⟩ := (mapM_mem hitems).2 (entry.1, n) (List.mem_zipIdx_iff_getElem?.mpr hn)
    exact ⟨m, (validateEvent_place parsers entry.1 m).mp hm⟩
  obtain ⟨validated', hvalidated⟩ := exists_mapM_ok hall
  refine ⟨validated', ?_⟩
  unfold validateOpenlineageEvents
  dsimp only
  rw [if_neg (by simp [hdepth'])]
  exact hvalidated

end Documents

/-! ### Order and repetition -/

section Order
variable {ns : Stripped} {events events' : List Event}

/-- Events are mapped when what they state is coherent and the parts make a graph. -/
lemma mapOpenlineageResult_ok {result : GovernanceMappingResult} : mapOpenlineageResult ns events = .ok result ↔
    ∃ st, ingestEvents events = .ok st ∧ (ingestedParts ns st).result = .ok result := by
  unfold mapOpenlineageResult
  rw [bind_eq_ok]
  refine exists_congr fun st => and_congr_right fun _ => ?_
  cases (ingestedParts ns st).result with
  | ok r =>
    constructor <;> intro h <;> cases h <;> rfl
  | error e =>
    constructor <;> intro h <;> cases h

lemma mapOpenlineageResult_of_mem (h : ∀ e, e ∈ events ↔ e ∈ events') {result : GovernanceMappingResult}
    (hmap : mapOpenlineageResult ns events = .ok result) : mapOpenlineageResult ns events' = .ok result := by
  obtain ⟨st, hst, hresult⟩ := mapOpenlineageResult_ok.mp hmap
  have hfacts := factsOf_congr h
  obtain ⟨st', hst'⟩ := exists_ingestEvents_iff.mpr (hfacts ▸ exists_ingestEvents_iff.mp (Exists.intro st hst))
  have halike := (ingestEvents_sumsUp hst).alike (hfacts ▸ ingestEvents_sumsUp hst')
  exact mapOpenlineageResult_ok.mpr ⟨st', hst', (halike.ingestedParts ns).result hresult⟩

theorem mapOpenlineageResult_congr (h : ∀ e, e ∈ events ↔ e ∈ events') :
    (mapOpenlineageResult ns events).toOption = (mapOpenlineageResult ns events').toOption := by
  apply Option.ext
  intro result
  rw [toOption_eq_some, toOption_eq_some]
  exact ⟨mapOpenlineageResult_of_mem h, mapOpenlineageResult_of_mem fun e => (h e).symm⟩

/-- Listing the events of a document in another order, or some of them more than once, changes neither its
acceptance nor the graph and the observations. -/
theorem openlineage_order_free (parsers : Parsers) {items items' : List Json} (h : ∀ j, j ∈ items ↔ j ∈ items')
    (nameSpace : String) {validated : List (List (String × Json))}
    (hvalid : validateOpenlineageEvents parsers (.arr items) = .ok validated) :
    (∃ validated', validateOpenlineageEvents parsers (.arr items') = .ok validated') ∧
      (mapOpenlineageEventsWithObservations parsers (.arr items) nameSpace).toOption =
        (mapOpenlineageEventsWithObservations parsers (.arr items') nameSpace).toOption := by
  obtain ⟨validated', hvalid'⟩ := exists_validate_of_mem h hvalid
  refine ⟨⟨validated', hvalid'⟩, ?_⟩
  rw [mapOpenlineageEvents_eq hvalid, mapOpenlineageEvents_eq hvalid', toOption_bind, toOption_bind]
  refine Option.bind_congr fun ns _ => ?_
  exact mapOpenlineageResult_congr (eventsOf_congr h)

end Order

/-- A dataset as an event lists it. -/
def listedDataset (name : String) : Json := .obj [("namespace", .str "db"), ("name", .str name)]

/-- A facet with the members that every facet needs. -/
def facetBody (schemaUrl : String) (members : List (String × Json)) : Json :=
  .obj ([("_producer", .str "https://etl"), ("_schemaURL", .str schemaUrl)] ++ members)

/-- The parsers with identifiers of the usual form: five groups of hexadecimal digits. -/
def uuidParsers : Parsers :=
  { plainParsers with
    isUuid := fun text => (text.toList.splitOn '-').map List.length = [8, 4, 4, 4, 12] &&
      text.toList.all fun c => c = '-' || c.isDigit || "abcdef".toList.contains c }

/-- An event of the run that loads the sales. -/
def loadEvent (eventType : String) (ends : List (String × Json)) : Json :=
  .obj ([("schemaURL", .str runUrl), ("eventTime", .str "2026-01-01T00:00:00Z"), ("producer", .str "https://etl"),
    ("eventType", .str eventType), ("run", .obj [("runId", .str "3f5e83fa-3480-44ff-99c5-ff943904e5e8")]),
    ("job", .obj [("namespace", .str "jobs"), ("name", .str "load")])] ++ ends)

/-- The run starts with the table that it reads. -/
def loadStarted : Json := loadEvent "START" [("inputs", .arr [listedDataset "orders"])]

/-- It ends with the table that it has written, one column of which comes from a column of the other table. -/
def loadCompleted : Json :=
  loadEvent "COMPLETE" [("outputs", .arr [.obj [("namespace", .str "db"), ("name", .str "sales"), ("facets", .obj
    [("columnLineage", facetBody columnLineageSchemaUrl [("fields", .obj [("amount", .obj [("inputFields", .arr
      [.obj [("namespace", .str "db"), ("name", .str "orders"), ("field", .str "total")]])])])])])]])]

lemma load_valid :
    (validateOpenlineageEvents uuidParsers (.arr [loadStarted, loadCompleted])).toOption.isSome = true := by
  decide +kernel

/-- The end of a run may be told before its start, and the start twice. -/
theorem swapped_load :
    (mapOpenlineageEventsWithObservations uuidParsers (.arr [loadStarted, loadCompleted]) "prod").toOption =
      (mapOpenlineageEventsWithObservations uuidParsers (.arr [loadCompleted, loadStarted, loadStarted])
        "prod").toOption := by
  obtain ⟨validated, hvalid⟩ := exists_ok load_valid
  refine (openlineage_order_free uuidParsers ?_ "prod" hvalid).2
  intro j
  simp only [List.mem_cons, List.not_mem_nil, or_false]
  tauto

/-! ### Dependencies -/

section Dependencies
variable {ns : Stripped} {events : List Event} {st : Ingested}

lemma run_record {e : Event} {runId : Stripped} {run : RunState} (h : .run runId run ∈ e.ending) :
    ∃ r, r ∈ run.provenances := by
  unfold Event.ending at h
  cases hbody : e.body <;> rw [hbody] at h <;> simp at h
  obtain ⟨-, rfl⟩ := h
  exact ⟨_, List.mem_singleton_self _⟩

lemma job_record {e : Event} {j : JobLineage} (h : .job j ∈ e.ending) : ∃ r, r ∈ j.provenances := by
  unfold Event.ending at h
  cases hbody : e.body <;> rw [hbody] at h <;> simp at h
  obtain rfl := h
  exact ⟨_, List.mem_singleton_self _⟩

lemma assertion_stated (h : st.SumsUp (factsOf events)) {a : ColumnLineageAssertion}
    (ha : a ∈ (sortedLineage st.lineage).map (assertionOf ns st.datasets)) : ∃ r, r ∈ a.provenance := by
  obtain ⟨⟨key, records⟩, hentry, rfl⟩ := List.mem_map.mp ha
  have hsums := h.lineage.sums_of_get? (Dict.get?_eq_some.mpr (mem_sortBy.mp hentry))
  obtain ⟨r, hr⟩ := hsums.1
  exact ⟨r, mem_mergeProvenance.mpr ((hsums.2 r).mpr hr)⟩

lemma materialize_stated {assertions : List ColumnLineageAssertion}
    (h : ∀ a ∈ assertions, ∃ r, r ∈ a.provenance) {e : GraphEdge} (he : e ∈ materializeColumnLineageEdges assertions) :
    e.provenance ≠ [] := by
  have hall := merged_described assertions
  unfold materializeColumnLineageEdges at he
  dsimp only at he
  obtain ⟨⟨pair, records⟩, hentry, rfl⟩ := List.mem_map.mp (mem_sortBy.mp he)
  have hsums := hall.sums_of_get? (Dict.get?_eq_some.mpr hentry)
  obtain ⟨a, ha⟩ := hsums.1
  obtain ⟨r, hr⟩ := h a ha.1
  exact List.ne_nil_of_mem (mem_mergeProvenance.mpr ((hsums.2 r).mpr ⟨a, ha, hr⟩))

/-- A dependency among the parts is stated by someone. -/
lemma dependency_stated (h : st.SumsUp (factsOf events)) {e : GraphEdge} (he : e ∈ (ingestedParts ns st).edges)
    (hkind : e.kind = kindDependsOn) : e.provenance ≠ [] := by
  have hnot : ∀ p : MappedParts, OnlyContains p → e ∉ p.edges :=
    fun p hp hmem => contains_ne_dependsOn ((hp e hmem).symm.trans hkind)
  unfold ingestedParts at he
  dsimp only at he
  rw [columnLineageParts_eq] at he
  simp only [MappedParts.edges_append, List.mem_append] at he
  rcases he with (he | he | he) | he | he
  · exact absurd he (hnot _ (allDatasetParts_contains _))
  · exact absurd he (hnot _ (ensuredParts_contains _ _ _ OnlyContains.empty))
  · exact materialize_stated (fun a ha => assertion_stated h ha) he
  · obtain ⟨run, hrun, he⟩ := List.mem_flatMap.mp he
    obtain ⟨runId, hget⟩ := Dict.mem_values.mp hrun
    obtain ⟨o, -, i, -, rfl⟩ := Ingested.Alike.mem_lineageEdges.mp he
    have hsums := h.runs.sums_of_get? hget
    obtain ⟨fact, hfact⟩ := hsums.nonempty
    obtain ⟨event, -, hend⟩ := run_mem_factsOf.mp hfact
    obtain ⟨r, hr⟩ := run_record hend
    exact List.ne_nil_of_mem (mem_mergeProvenance.mpr ((hsums.provenances r).mpr ⟨fact, hfact, hr⟩))
  · obtain ⟨j, hj, he⟩ := List.mem_flatMap.mp he
    obtain ⟨o, -, i, -, rfl⟩ := Ingested.Alike.mem_lineageEdges.mp he
    obtain ⟨event, -, hend⟩ := job_mem_factsOf.mp ((h.jobs j).mp hj)
    obtain ⟨r, hr⟩ := job_record hend
    exact List.ne_nil_of_mem (mem_mergeProvenance.mpr hr)

end Dependencies

/-- The dependencies of the graph are those that the events state, each with the records that state it: between
datasets those of runs and of jobs, between columns those of column lineage facets. -/
theorem openlineage_dependencies_exact (parsers : Parsers) {items : List Json} {nameSpace : String}
    {validated : List (List (String × Json))} {result : GovernanceMappingResult}
    (hvalid : validateOpenlineageEvents parsers (.arr items) = .ok validated)
    (hmap : mapOpenlineageEventsWithObservations parsers (.arr items) nameSpace = .ok result) :
    ∃ ns, requireNamespace nameSpace = .ok ns ∧ (result.graph.edges.map GraphEdge.logicalIdentity).Nodup ∧
      (∀ e ∈ result.graph.edges, e.kind = kindDependsOn → e.provenance ≠ []) ∧
      ∀ source target r, EdgeStated result.graph.edges source target r ↔
        if source.kind = kindColumn then ColumnDepends ns (eventsOf items) source target r
        else DatasetDepends ns (eventsOf items) source target r := by
  rw [mapOpenlineageEvents_eq hvalid] at hmap
  obtain ⟨ns, hns, hmapped⟩ := bind_eq_ok.mp hmap
  obtain ⟨st, hst, hresult⟩ := mapOpenlineageResult_ok.mp hmapped
  have hsums := ingestEvents_sumsUp hst
  have hholds := GovernanceGraph.holds_of_fromParts (MappedParts.result_eq_ok.mp hresult).1
  have hpart : ∀ e ∈ result.graph.edges, ∃ p ∈ (ingestedParts ns st).edges, p.logicalIdentity = e.logicalIdentity :=
    fun e he => List.mem_map.mp ((hholds.edge_identities _).mp (List.mem_map_of_mem he))
  refine ⟨ns, hns, hholds.edges_once, ?_, fun source target r => ?_⟩
  · intro e he hkind
    obtain ⟨p, hp, hends⟩ := hpart e he
    have hpkind : p.kind = kindDependsOn := (congrArg (fun i => i.2.1) hends).trans hkind
    obtain ⟨r, hr⟩ := List.exists_mem_of_ne_nil _ (dependency_stated hsums hp hpkind)
    exact List.ne_nil_of_mem ((hholds.edge_provenance e he r).mpr ⟨p, hp, hends, hr⟩)
  · have hstated : EdgeStated result.graph.edges source target r ↔
        EdgeStated (ingestedParts ns st).edges source target r := by
      constructor
      · rintro ⟨e, he, hends, hr⟩
        obtain ⟨p, hp, hpe, hrp⟩ := (hholds.edge_provenance e he r).mp hr
        exact ⟨p, hp, hpe.trans hends, hrp⟩
      · rintro ⟨p, hp, hends, hr⟩
        obtain ⟨e, he, hpe⟩ := List.mem_map.mp ((hholds.edge_identities _).mpr (List.mem_map_of_mem hp))
        exact ⟨e, he, hpe.trans hends, (hholds.edge_provenance e he r).mpr ⟨p, hp, hpe.symm, hr⟩⟩
    rw [hstated, ingestedParts_dependencies hsums]
    split_ifs with hcolumn
    · refine or_iff_right ?_
      rintro ⟨output, input, -, rfl, -⟩
      exact kind_resolvedIdentity output hcolumn
    · refine or_iff_left ?_
      rintro ⟨d, -, l, -, x, -, rfl, -⟩
      exact hcolumn rfl

/-- The run states that the sales depend on the orders, and its facet that a column depends on a column. -/
theorem load_dependencies : ∃ result ns,
    mapOpenlineageEventsWithObservations uuidParsers (.arr [loadStarted, loadCompleted]) "prod" = .ok result ∧
      result.graph.edges.countP (fun e => e.kind = kindDependsOn) = 2 ∧
      ∀ source target r, EdgeStated result.graph.edges source target r ↔
        if source.kind = kindColumn then ColumnDepends ns (eventsOf [loadStarted, loadCompleted]) source target r
        else DatasetDepends ns (eventsOf [loadStarted, loadCompleted]) source target r := by
  have hcount : (mapOpenlineageEventsWithObservations uuidParsers (.arr [loadStarted, loadCompleted])
      "prod").toOption.map (fun result => result.graph.edges.countP (fun e => e.kind = kindDependsOn)) = some 2 := by
    decide +kernel
  obtain ⟨result, hmap, hdepends⟩ := toOption_map_eq_some.mp hcount
  obtain ⟨validated, hvalid⟩ := exists_ok load_valid
  obtain ⟨ns, -, -, -, h⟩ := openlineage_dependencies_exact uuidParsers hvalid hmap
  exact ⟨result, ns, hmap, hdepends, h⟩

end CollibraGovernance.Openlineage
