import CollibraGovernance.Openlineage.Events

/-! Mapping of validated OpenLineage events into a governance graph with observations. -/
namespace CollibraGovernance.Openlineage
open Library Identity Domain

theorem canonicalJson_arr_nonblank (items : List Json) : isBlank (Json.arr items).canonicalJson = false := by
  rw [Json.canonicalJson, Json.normalize_arr, isBlank, String.toList_ofList]
  cases items.map Json.normalize with
  | nil => rw [Json.encode]; rfl
  | cons j js => rw [Json.encode]; rfl

/-- The canonical text of a list of names. -/
def reference (names : List String) : Stripped :=
  .of (Json.arr (names.map .str)).canonicalJson (canonicalJson_arr_nonblank _)

theorem openlineage_nonblank : isBlank "openlineage" = false := by decide

/-- A record of something observed; validated schema URLs are not blank. -/
def observedRecord (names : List String) (schemaUrl : String) : ProvenanceRecord :=
  ⟨.of "openlineage" openlineage_nonblank, reference names,
    if h : isBlank schemaUrl = false then some (.of schemaUrl h) else none, .observed⟩

/-- `_dataset_provenance` -/
def datasetProvenance (producer : String) (key : DatasetKey) (schemaUrl : String) : ProvenanceRecord :=
  observedRecord [producer, key.1.val, key.2.val] schemaUrl

/-- `_facet_provenance` -/
def facetProvenance (producer : String) (key : DatasetKey) (facetKey schemaUrl : String) : ProvenanceRecord :=
  observedRecord [producer, key.1.val, key.2.val, facetKey] schemaUrl

/-- `_edge_provenance` -/
def edgeProvenance (producer : String) (job : Job) (schemaUrl : String) : ProvenanceRecord :=
  observedRecord [producer, job.nameSpace.val, job.name.val] schemaUrl

/-- `if x not in xs: xs.append(x)` -/
def addNew {α : Type} [DecidableEq α] (xs : List α) (x : α) : List α := if x ∈ xs then xs else xs ++ [x]

/-! ### Ingestion -/

/-- `_FacetState` -/
structure FacetState where
  material : FacetMaterial
  provenances : List ProvenanceRecord

/-- `_DatasetState` -/
structure DatasetState where
  provenances : List ProvenanceRecord
  facets : Dict FacetKey FacetState

def DatasetState.empty : DatasetState := ⟨[], .empty⟩

/-- `_RunState` -/
structure RunState where
  job : Job
  inputs : List DatasetKey
  outputs : List DatasetKey
  provenances : List ProvenanceRecord

/-- Target dataset and field, input dataset and field. -/
abbrev LineageKey := DatasetKey × Stripped × DatasetKey × Stripped

structure JobLineage where
  inputs : List DatasetKey
  outputs : List DatasetKey
  provenances : List ProvenanceRecord

/-- What the events read so far amount to. -/
structure Ingested where
  datasets : Dict DatasetKey DatasetState
  lineage : Dict LineageKey (List ProvenanceRecord)
  runs : Dict Stripped RunState
  jobs : List JobLineage

def Ingested.empty : Ingested := ⟨.empty, .empty, .empty, []⟩

/-- The state of a dataset with one more record. -/
def noteDataset (datasets : Dict DatasetKey DatasetState) (key : DatasetKey) (record : ProvenanceRecord) :
    Dict DatasetKey DatasetState :=
  let state := (datasets.get? key).getD .empty
  datasets.set key { state with provenances := addNew state.provenances record }

/-- One facet of a dataset; all statements of a facet have to agree. -/
def mergeFacet (key : DatasetKey) (path : String) (facets : Dict FacetKey FacetState) (facet : Facet) :
    Checked (Dict FacetKey FacetState) :=
  let facetKey := facet.material.key
  let record := facetProvenance facet.producer key facetKey.value facet.schemaUrl
  match facets.get? facetKey with
  | none => .ok (facets.set facetKey ⟨facet.material, [record]⟩)
  | some existing =>
    if existing.material.materialKey ≠ facet.material.materialKey then
      mappingError (pointer (pointer path "facets") facetKey.value)
        "conflicting OpenLineage supported facet observations"
    else .ok (facets.set facetKey { existing with provenances := addNew existing.provenances record })

/-- One entry of a column lineage facet: the assertion, and the dataset it comes from. -/
def ingestEntry (target : DatasetKey) (record : ProvenanceRecord) (st : Ingested) (entry : LineageEntry) : Ingested :=
  let key : LineageKey := (target, entry.output, entry.input, entry.field)
  { st with
    lineage := st.lineage.set key (addNew ((st.lineage.get? key).getD []) record)
    datasets := noteDataset st.datasets entry.input record }

/-- `_ingest_column_lineage_facet` -/
def ingestColumnLineageFacet (dataset : Dataset) (st : Ingested) : Ingested :=
  match dataset.lineage with
  | none => st
  | some lineage =>
    lineage.entries.foldl
      (ingestEntry dataset.key (facetProvenance lineage.producer dataset.key "columnLineage" lineage.schemaUrl)) st

/-- `_merge_dataset_observation` -/
def mergeDatasetObservation (producer schemaUrl path : String) (st : Ingested) (dataset : Dataset) :
    Checked Ingested := do
  let datasets := noteDataset st.datasets dataset.key (datasetProvenance producer dataset.key schemaUrl)
  let state := (datasets.get? dataset.key).getD .empty
  let facets ← dataset.facets.foldlM (mergeFacet dataset.key path) state.facets
  return ingestColumnLineageFacet dataset { st with datasets := datasets.set dataset.key { state with facets } }

/-- `_collect_datasets_from_list` -/
def collectDatasetsFromList (producer schemaUrl path : String) (st : Ingested) (datasets : List Dataset) :
    Checked Ingested :=
  datasets.zipIdx.foldlM
    (fun st entry => mergeDatasetObservation producer schemaUrl (pointerAt path entry.2) st entry.1) st

/-- The set of the keys of some datasets. -/
def keysOf (datasets : List Dataset) : List DatasetKey := distinct (datasets.map Dataset.key)

/-- One event of a run; all events of a run have to name the same job. -/
def mergeRun (runs : Dict Stripped RunState) (runId : Stripped) (job : Job) (inputs outputs : List DatasetKey)
    (record : ProvenanceRecord) (path : String) : Checked (Dict Stripped RunState) :=
  match runs.get? runId with
  | none => .ok (runs.set runId ⟨job, inputs, outputs, [record]⟩)
  | some existing =>
    if existing.job ≠ job then mappingError (pointer path "job") "run events disagree on job identity"
    else .ok (runs.set runId
      ⟨job, distinct (existing.inputs ++ inputs), distinct (existing.outputs ++ outputs),
        addNew existing.provenances record⟩)

/-- One event at a path. -/
def ingestEvent (path : String) (st : Ingested) (event : Event) : Checked Ingested :=
  match event.body with
  | .dataset dataset =>
    mergeDatasetObservation event.producer event.schemaUrl (pointer path "dataset") st dataset
  | .job job inputs outputs => do
    let st ← collectDatasetsFromList event.producer event.schemaUrl (pointer path "inputs") st inputs
    let st ← collectDatasetsFromList event.producer event.schemaUrl (pointer path "outputs") st outputs
    return { st with jobs := st.jobs ++ [⟨keysOf inputs, keysOf outputs,
      [edgeProvenance event.producer job event.schemaUrl]⟩] }
  | .run runId job inputs outputs => do
    let st ← collectDatasetsFromList event.producer event.schemaUrl (pointer path "inputs") st inputs
    let st ← collectDatasetsFromList event.producer event.schemaUrl (pointer path "outputs") st outputs
    let runs ← mergeRun st.runs runId job (keysOf inputs) (keysOf outputs)
      (edgeProvenance event.producer job event.schemaUrl) path
    return { st with runs }

/-! ### The graph -/

def physicalHierarchy : List String := ["DATABASE", "SCHEMA", "TABLE"]

/-- `_is_physical_hierarchy`: the database, schema and table that the levels name. -/
def physicalLevels (levels : List HierarchyLevel) : Option (Stripped × Stripped × Stripped) :=
  match levels with
  | [database, schema, table] =>
    if levels.map (fun l => l.type.val) = physicalHierarchy then some (database.name, schema.name, table.name)
    else none
  | _ => none

/-- The facet of some kind that a dataset has. -/
def DatasetState.facet (state : DatasetState) (key : FacetKey) : Option FacetState := state.facets.get? key

/-- The levels of the hierarchy facet. -/
def DatasetState.levels (state : DatasetState) : Option (List HierarchyLevel) :=
  match state.facet .hierarchy with
  | some ⟨.hierarchy levels, _⟩ => some levels
  | _ => none

/-- The physical table that a dataset is said to be. -/
def DatasetState.physical (state : DatasetState) : Option (Stripped × Stripped × Stripped) :=
  state.levels.bind physicalLevels

/-- The identity that `_resolve_identity` finds. -/
def DatasetState.identity (ns : Stripped) (key : DatasetKey) (state : DatasetState) : GraphNodeIdentity :=
  match state.physical with
  | some (database, schema, table) => tableChain ns database schema table
  | none => .root ns kindDataset (reference [key.1.val, key.2.val]) dataset_ne_column

/-- `_ensure_containers`: the containers that are not there yet. -/
def ensureContainers (ns database schema : Stripped) (seen : List GraphNodeIdentity) :
    MappedParts × List GraphNodeIdentity :=
  let source := databaseChain ns database
  let first : MappedParts × List GraphNodeIdentity :=
    if source ∈ seen then (.empty, seen) else (⟨[mappedNode source database none [] []], [], []⟩, source :: seen)
  let dataset := schemaChain ns database schema
  if dataset ∈ first.2 then first
  else (first.1 ++ ⟨[mappedNode dataset schema none [] []], [mappedEdge source dataset kindContains []], []⟩,
    dataset :: first.2)

/-- The attributes of one facet. -/
def facetAttributes : FacetMaterial → List (String × Json)
  | .datasetType t s => [("dataset_type", .str t.val)] ++ s.toList.map (fun s => ("dataset_subtype", .str s.val))
  | .storage l f => [("storage_layer", .str l.val)] ++ f.toList.map (fun f => ("file_format", .str f))
  | .ownership owners => [("ownership", .arr (owners.map Owner.toJson))]
  | .hierarchy levels =>
    if (physicalLevels levels).isSome then [] else [("hierarchy", .arr (levels.map HierarchyLevel.toJson))]
  | .schema _ => []

/-- The facets whose statements become attributes, in the order they are looked up. -/
def attributeFacets : List FacetKey := [.datasetType, .storage, .ownership, .hierarchy]

/-- `_dataset_attributes` -/
def datasetAttributes (state : DatasetState) : List (String × Json) :=
  attributeFacets.flatMap fun key => ((state.facet key).map (fun f => facetAttributes f.material)).getD []

/-- `_dataset_node_provenance`; the facets are taken in the order of their keys. -/
def datasetNodeProvenance (state : DatasetState) : List ProvenanceRecord :=
  state.provenances ++
    (sortBy (fun (e : FacetKey × FacetState) => e.1.value) state.facets.entries).flatMap (fun e => e.2.provenances)

/-- `_observe_with_provenances` -/
def observeWithProvenances (identity : GraphNodeIdentity) (path : PropertyPath) (value : Json)
    (provenances : List ProvenanceRecord) : List PendingObservation :=
  provenances.map fun record => (identity, path, value, record)

/-- The records that state the name of a dataset. -/
def nameProvenances (state : DatasetState) : List ProvenanceRecord :=
  match state.facet .hierarchy with
  | some f => if state.physical.isSome then f.provenances else state.provenances
  | none => state.provenances

/-- `_observe_dataset_node` -/
def observeDatasetNode (identity : GraphNodeIdentity) (displayName : Stripped) (state : DatasetState) :
    List PendingObservation :=
  observeWithProvenances identity namePath (.str displayName.val) (nameProvenances state) ++
    attributeFacets.flatMap fun key => ((state.facet key).map fun f =>
      (facetAttributes f.material).flatMap fun m =>
        observeWithProvenances identity (attributePath m.1) m.2 f.provenances).getD []

/-- `_observe_column_node` -/
def observeColumnNode (node : GraphNode) (provenances : List ProvenanceRecord) : List PendingObservation :=
  observeWithProvenances node.identity namePath (.str node.name.val) provenances ++
    node.description.toList.flatMap
      (fun d => observeWithProvenances node.identity descriptionPath (.str d) provenances) ++
    node.attributes.items.flatMap
      (fun m => observeWithProvenances node.identity (attributePath m.1) m.2 provenances)

/-- The column of a schema field. -/
def fieldNode (parent : GraphNodeIdentity) (ns : Stripped) (provenances : List ProvenanceRecord) (h : FieldHead) :
    GraphNode :=
  mappedNode (.child ns kindColumn h.name parent) h.name h.description
    (h.type.toList.map fun t => ("data_type", .str t)) provenances

def fieldParts (parent : GraphNodeIdentity) (ns : Stripped) (provenances : List ProvenanceRecord) (h : FieldHead) :
    MappedParts :=
  let node := fieldNode parent ns provenances h
  ⟨[node], [mappedEdge parent node.identity kindContains []], observeColumnNode node provenances⟩

mutual
/-- `_map_schema_fields` -/
def mapSchemaFields (ns : Stripped) (provenances : List ProvenanceRecord) (parent : GraphNodeIdentity) :
    List SchemaField → MappedParts
  | [] => .empty
  | f :: fs => mapSchemaField ns provenances parent f ++ mapSchemaFields ns provenances parent fs

def mapSchemaField (ns : Stripped) (provenances : List ProvenanceRecord) (parent : GraphNodeIdentity) :
    SchemaField → MappedParts
  | .plain h => fieldParts parent ns provenances h
  | .nested h fs => fieldParts parent ns provenances h ++
      mapSchemaFields ns provenances (.child ns kindColumn h.name parent) fs
end

/-- The columns that the schema facet of a dataset declares. -/
def schemaParts (ns : Stripped) (identity : GraphNodeIdentity) (state : DatasetState) : MappedParts :=
  match state.facet .schema with
  | some ⟨.schema fields, provenances⟩ => mapSchemaFields ns provenances identity fields
  | _ => .empty

/-- The name that is shown: that of the table, else that of the dataset. -/
def displayName (key : DatasetKey) (state : DatasetState) : Stripped :=
  match state.physical with
  | some (_, _, table) => table
  | none => key.2

/-- The parts of one dataset, and the containers that are there after it. -/
def datasetParts (ns : Stripped) (seen : List GraphNodeIdentity) (key : DatasetKey) (state : DatasetState) :
    MappedParts × List GraphNodeIdentity :=
  let identity := state.identity ns key
  let node := mappedNode identity (displayName key state) none (datasetAttributes state) (datasetNodeProvenance state)
  let containers := match state.physical with
    | some (database, schema, _) => ensureContainers ns database schema seen
    | none => (.empty, seen)
  let contains := match identity.parent with
    | some parent => [mappedEdge parent identity kindContains []]
    | none => []
  (containers.1 ++ ⟨[node], contains, observeDatasetNode identity (displayName key state) state⟩ ++
    schemaParts ns identity state, containers.2)

/-- The datasets in the order of their keys. -/
def sortedDatasets (datasets : Dict DatasetKey DatasetState) : List (DatasetKey × DatasetState) :=
  sortBy (fun (e : DatasetKey × DatasetState) => toLex (e.1.1.val, e.1.2.val)) datasets.entries

/-- The parts of all datasets, one after the other. -/
def allDatasetParts (ns : Stripped) (datasets : Dict DatasetKey DatasetState) : MappedParts :=
  ((sortedDatasets datasets).foldl (fun (acc : MappedParts × List GraphNodeIdentity) e =>
    let parts := datasetParts ns acc.2 e.1 e.2
    (acc.1 ++ parts.1, parts.2)) (.empty, [])).1

/-- The columns known so far, with what has been added for lineage. -/
structure LineageColumns where
  columns : Dict GraphNodeIdentity GraphNode
  parts : MappedParts

/-- `_ensure_lineage_column` -/
def ensureLineageColumn (parent : GraphNodeIdentity) (ns field : Stripped) (provenances : List ProvenanceRecord)
    (st : LineageColumns) : LineageColumns :=
  let identity : GraphNodeIdentity := .child ns kindColumn field parent
  match st.columns.get? identity with
  | none =>
    let node := mappedNode identity field none [] provenances
    ⟨st.columns.set identity node,
      st.parts ++ ⟨[node], [mappedEdge parent identity kindContains []], observeColumnNode node provenances⟩⟩
  | some existing =>
    let merged := existing.withProvenance (existing.provenance ++ provenances)
    ⟨st.columns.set identity merged, st.parts ++ ⟨[merged], [], []⟩⟩

/-- `ColumnLineageAssertion` -/
structure ColumnLineageAssertion where
  output : GraphNodeIdentity
  input : GraphNodeIdentity
  provenance : List ProvenanceRecord

/-- `materialize_column_lineage_edges`: one edge for each pair, with the records of all its assertions. -/
def materializeColumnLineageEdges (assertions : List ColumnLineageAssertion) : List GraphEdge :=
  let merged : Dict (GraphNodeIdentity × GraphNodeIdentity) (List ProvenanceRecord) :=
    assertions.foldl (fun d a => d.set (a.output, a.input) (((d.get? (a.output, a.input)).getD []) ++ a.provenance))
      .empty
  sortBy GraphEdge.logicalSortKey (merged.entries.map fun e => mappedEdge e.1.1 e.1.2 kindDependsOn e.2)

/-- The identity of a dataset that was read. -/
def identityOf (ns : Stripped) (datasets : Dict DatasetKey DatasetState) (key : DatasetKey) : GraphNodeIdentity :=
  ((datasets.get? key).getD .empty).identity ns key

def lineageSortKey (key : LineageKey) : String ×ₗ String ×ₗ String ×ₗ String ×ₗ String ×ₗ String :=
  toLex (key.1.1.val, toLex (key.1.2.val, toLex (key.2.1.val, toLex (key.2.2.1.1.val,
    toLex (key.2.2.1.2.val, key.2.2.2.val)))))

def sortedLineage (lineage : Dict LineageKey (List ProvenanceRecord)) :
    List (LineageKey × List ProvenanceRecord) :=
  sortBy (fun (e : LineageKey × List ProvenanceRecord) => lineageSortKey e.1) lineage.entries

/-- `_emit_column_lineage_edges` -/
def columnLineageParts (ns : Stripped) (st : Ingested) (nodes : List GraphNode) : MappedParts :=
  let columns := Dict.index GraphNode.identity id (nodes.filter (fun n => n.identity.kind = kindColumn))
  let entries := sortedLineage st.lineage
  let ensured := entries.foldl (fun (acc : LineageColumns) e =>
    let (target, output, input, field) := e.1
    ensureLineageColumn (identityOf ns st.datasets input) ns field e.2
      (ensureLineageColumn (identityOf ns st.datasets target) ns output e.2 acc)) ⟨columns, .empty⟩
  let assertions := entries.map fun e =>
    let (target, output, input, field) := e.1
    (⟨.child ns kindColumn output (identityOf ns st.datasets target),
      .child ns kindColumn field (identityOf ns st.datasets input), mergeProvenance e.2⟩ : ColumnLineageAssertion)
  ensured.parts ++ ⟨[], materializeColumnLineageEdges assertions, []⟩

/-- `_emit_lineage_edges` -/
def lineageEdges (ns : Stripped) (datasets : Dict DatasetKey DatasetState) (inputs outputs : List DatasetKey)
    (provenances : List ProvenanceRecord) : List GraphEdge :=
  let sorted := sortBy (fun (k : DatasetKey) => toLex (k.1.val, k.2.val))
  (sorted outputs).flatMap fun output => (sorted inputs).map fun input =>
    mappedEdge (identityOf ns datasets output) (identityOf ns datasets input) kindDependsOn provenances

/-- Everything that is mapped of what was read. -/
def ingestedParts (ns : Stripped) (st : Ingested) : MappedParts :=
  let datasets := allDatasetParts ns st.datasets
  datasets ++ columnLineageParts ns st datasets.nodes ++
    ⟨[], st.runs.values.flatMap (fun r => lineageEdges ns st.datasets r.inputs r.outputs r.provenances) ++
      st.jobs.flatMap (fun j => lineageEdges ns st.datasets j.inputs j.outputs j.provenances), []⟩

/-- All events, each at its path. -/
def ingestEvents (events : List Event) : Checked Ingested :=
  events.zipIdx.foldlM (fun st entry => ingestEvent (pointerAt "" entry.2) st entry.1) .empty

/-- `_map_openlineage_result_with_assertions`, with its caller's refusal of graphs that are not built. -/
def mapOpenlineageResult (ns : Stripped) (events : List Event) : Checked GovernanceMappingResult := do
  let ingested ← ingestEvents events
  match (ingestedParts ns ingested).result with
  | .ok result => .ok result
  | .error _ => buildError

def requireNamespace (nameSpace : String) : Checked Stripped :=
  if h : isBlank nameSpace = false then .ok (.of nameSpace h) else mappingError "" "namespace is required"

/-- `map_openlineage_events_with_observations` -/
def mapOpenlineageEventsWithObservations (parsers : Parsers) (events : Json) (nameSpace : String) :
    Checked GovernanceMappingResult := do
  let ns ← requireNamespace nameSpace
  let validated ← validateOpenlineageEvents parsers events
  let read ← validated.zipIdx.mapM fun entry => readEvent entry.1 (pointerAt "" entry.2)
  mapOpenlineageResult ns read

end CollibraGovernance.Openlineage
