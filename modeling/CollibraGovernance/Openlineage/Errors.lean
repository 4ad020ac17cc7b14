import CollibraGovernance.Openlineage.Readable

/-! Which events stop the import with an exception that is no OpenLineage error. -/
namespace CollibraGovernance.Openlineage
open Library Domain

@[simp] lemma not_fails_mappingError {α : Type} {path message : String} :
    ¬ Fails IsUncaught (mappingError path message : Checked α) := fun h => fails_error.mp h

lemma not_fails_foldlM {σ α : Type} {step : σ → α → Checked σ} {xs : List α} {s : σ}
    (h : ∀ s x, ¬ Fails IsUncaught (step s x)) : ¬ Fails IsUncaught (xs.foldlM step s) := by
  rw [fails_foldlM]
  rintro ⟨_, x, _, s', -, -, hfails⟩
  exact h s' x hfails

lemma not_fails_mergeFacet {key : DatasetKey} {path : String} {facets : Dict FacetKey FacetState} {facet : Facet} :
    ¬ Fails IsUncaught (mergeFacet key path facets facet) := by
  unfold mergeFacet
  dsimp only
  cases facets.get? facet.material.key with
  | none => exact not_fails_ok
  | some existing =>
    dsimp only
    split_ifs
    · exact not_fails_mappingError
    · exact not_fails_ok

lemma not_fails_mergeDatasetObservation {producer schemaUrl path : String} {st : Ingested} {dataset : Dataset} :
    ¬ Fails IsUncaught (mergeDatasetObservation producer schemaUrl path st dataset) :=
  not_fails_bind (not_fails_foldlM fun _ _ => not_fails_mergeFacet) fun _ => not_fails_pure

lemma not_fails_collectDatasetsFromList {producer schemaUrl path : String} {st : Ingested}
    {datasets : List Dataset} : ¬ Fails IsUncaught (collectDatasetsFromList producer schemaUrl path st datasets) :=
  not_fails_foldlM fun _ _ => not_fails_mergeDatasetObservation

lemma not_fails_mergeRun {runs : Dict Stripped RunState} {runId : Stripped} {job : Job}
    {inputs outputs : List DatasetKey} {record : ProvenanceRecord} {path : String} :
    ¬ Fails IsUncaught (mergeRun runs runId job inputs outputs record path) := by
  unfold mergeRun
  cases runs.get? runId with
  | none => exact not_fails_ok
  | some existing =>
    dsimp only
    split_ifs
    · exact not_fails_mappingError
    · exact not_fails_ok

lemma not_fails_ingestEvent {path : String} {st : Ingested} {event : Event} :
    ¬ Fails IsUncaught (ingestEvent path st event) := by
  obtain ⟨schemaUrl, producer, body⟩ := event
  cases body with
  | dataset dataset => exact not_fails_mergeDatasetObservation
  | job job inputs outputs =>
    exact not_fails_bind not_fails_collectDatasetsFromList fun _ =>
      not_fails_bind not_fails_collectDatasetsFromList fun _ => not_fails_pure
  | run runId job inputs outputs =>
    exact not_fails_bind not_fails_collectDatasetsFromList fun _ =>
      not_fails_bind not_fails_collectDatasetsFromList fun _ =>
        not_fails_bind not_fails_mergeRun fun _ => not_fails_pure

/-- Mapping events that were read stops with mapping errors only. -/
theorem not_fails_mapOpenlineageResult {ns : Stripped} {events : List Event} :
    ¬ Fails IsUncaught (mapOpenlineageResult ns events) := by
  refine not_fails_bind (not_fails_foldlM fun _ _ => not_fails_ingestEvent) fun ingested => ?_
  cases (ingestedParts ns ingested).result with
  | ok result => exact not_fails_ok
  | error e => exact not_fails_mappingError

lemma fails_requireNamespace {nameSpace : String} : ¬ Fails IsUncaught (requireNamespace nameSpace) := by
  unfold requireNamespace
  split_ifs
  · exact not_fails_ok
  · exact not_fails_mappingError

lemma exists_requireNamespace {nameSpace : String} :
    (∃ ns, requireNamespace nameSpace = .ok ns) ↔ isBlank nameSpace = false := by
  unfold requireNamespace
  split_ifs with h
  · simp [h]
  · simp [h, mappingError]

/-- The import stops with an exception that is no OpenLineage error exactly at a fault of its events. -/
theorem fails_mapOpenlineageEvents {parsers : Parsers} {events : Json} {nameSpace : String} :
    Fails IsUncaught (mapOpenlineageEventsWithObservations parsers events nameSpace) ↔
      isBlank nameSpace = false ∧ EventsFault parsers events := by
  unfold mapOpenlineageEventsWithObservations
  rw [fails_bind]
  simp only [fails_requireNamespace, false_or]
  rw [← exists_requireNamespace, ← exists_and_right]
  apply exists_congr
  intro ns
  apply and_congr_right
  intro _
  rw [fails_bind, fails_validateOpenlineageEvents]
  apply or_iff_left
  rintro ⟨validated, hvalidated, h⟩
  obtain ⟨read, hread⟩ := exists_readEvents hvalidated
  rw [hread, ok_bind] at h
  exact not_fails_mapOpenlineageResult h

/-- Validating and mapping raise OpenLineage errors only, unless the namespace is not blank and the first event
that does not validate has a URI that the URL parser refuses. -/
theorem openlineage_errors_total_iff (parsers : Parsers) (events : Json) (nameSpace : String) :
    (∀ message, mapOpenlineageEventsWithObservations parsers events nameSpace ≠ .error (.uncaught message)) ↔
      isBlank nameSpace = true ∨ ¬ EventsFault parsers events := by
  have hfails : (∀ message, mapOpenlineageEventsWithObservations parsers events nameSpace ≠
      .error (.uncaught message)) ↔
      ¬ Fails IsUncaught (mapOpenlineageEventsWithObservations parsers events nameSpace) := by
    constructor
    · rintro h ⟨e, he, hkind⟩
      cases e with
      | uncaught message => exact h message he
      | _ => exact hkind
    · intro h message hmessage
      exact h ⟨_, hmessage, trivial⟩
  rw [hfails, fails_mapOpenlineageEvents, not_and_or, Bool.not_eq_false]

/-- The network location of what follows the scheme of a URL. -/
def netlocOf : List Char → List Char
  | '/' :: '/' :: rest => rest.takeWhile fun c => c ≠ '/' && c ≠ '?' && c ≠ '#'
  | _ => []

/-- The scheme of a URL; a network location with an unbalanced bracket is refused. -/
def schemeOf (text : String) : Option String :=
  let scheme := text.toList.takeWhile (fun c => c ≠ ':')
  let rest := text.toList.drop (scheme.length + 1)
  if (netlocOf rest).contains '[' ≠ (netlocOf rest).contains ']' then none
  else if scheme.length = text.toList.length then some "" else some (String.ofList scheme)

/-- Parsers that read every time as one with an offset, and no identifier. -/
def plainParsers : Parsers := ⟨schemeOf, fun _ => some true, fun _ => false⟩

/-- A dataset event whose producer has an unbalanced bracket. -/
def bracketEvent : Json :=
  .obj [("schemaURL", .str datasetUrl), ("eventTime", .str "2026-01-01T00:00:00Z"), ("producer", .str "https://[host")]

theorem bracket_uncaught :
    ¬ ∀ message, mapOpenlineageEventsWithObservations plainParsers (.arr [bracketEvent]) "prod" ≠
      .error (.uncaught message) := fun h => h "ValueError" rfl

end CollibraGovernance.Openlineage
