import CollibraGovernance.Dbt.Accept
import CollibraGovernance.Library.Refusal

/-! What a dbt manifest is mapped to: exactly the nodes, edges and observations that its resources state. -/
namespace CollibraGovernance.Dbt
open Library Identity Domain

/-! ### Refusals -/

section Refusal
variable {c : Context} {key path tableKey : String} {resource attributes document : Members}

/-- The error is none of the mapper's own. -/
def Foreign (e : DbtError) : Prop := ∀ at' message, e ≠ mappingError at' message

lemma not_foreign {at' message : String} : ¬ Foreign (mappingError at' message) := fun h => h at' message rfl

lemma not_fails_of_ok {α : Type} {p : DbtError → Prop} {x : Checked α} (h : ∃ a, x = .ok a) : ¬ Fails p x := by
  obtain ⟨a, rfl⟩ := h
  exact not_fails_ok

lemma relationResource_refusal (h : Provides key resource) (htable : ∃ t, requiredText resource tableKey = .ok t) :
    ¬ Fails Foreign (relationResource c path tableKey resource attributes) := by
  obtain ⟨schema, hschema⟩ := h.schema
  obtain ⟨table, htable⟩ := htable
  refine not_fails_bind ?_ fun database => ?_
  · unfold effectiveDatabase
    split
    · exact not_fails_ok
    · exact not_fails_ok
    · rw [fails_error]
      exact not_foreign
  · rw [hschema, ok_bind, htable, ok_bind]
    exact not_fails_of_ok (placedResource_ok h)

lemma modelResource_refusal (h : Provides key resource) (halias : ∃ t, requiredText resource "alias" = .ok t) :
    ¬ Fails Foreign (modelResource c path resource) := by
  cases hephemeral : isEphemeral resource with
  | true =>
    refine not_fails_of_ok ((modelResource_isOk h halias).mpr fun hfalse => ?_)
    rw [hephemeral] at hfalse
    cases hfalse
  | false =>
    unfold modelResource
    rw [if_neg (by rw [hephemeral]; exact Bool.false_ne_true)]
    exact relationResource_refusal h halias

lemma mapCollection_refusal {collectionPath resourceType : String} {read : String → Members → Checked Resource}
    {st : MapState} {collection : Members}
    (h : ∀ e ∈ resourcesOf resourceType collection, ¬ Fails Foreign (read (pointer collectionPath e.1) e.2)) :
    ¬ Fails Foreign (mapCollection c collectionPath resourceType read st collection) := by
  rw [mapCollection_eq, fails_foldlM]
  rintro ⟨before, e, after, st', hlist, -, hstep⟩
  have hmem : e ∈ resourcesOf resourceType collection := hlist ▸ List.mem_append_right _ (List.mem_cons_self ..)
  exact not_fails_bind (h e hmem) (fun r => not_fails_pure) hstep

lemma mapDependencies_refusal {parentMap : Members} {registry : Dict String Registered} {disabled : List String} :
    ¬ Fails Foreign (mapDependencies parentMap registry disabled) := by
  have hone : ∀ (childId : String) (child : Registered) (ref : String),
      ¬ Fails Foreign (mapDependency registry disabled childId child ref) := by
    intro childId child ref
    unfold mapDependency
    split
    · exact not_fails_ok
    · split_ifs
      · exact not_fails_ok
      · rw [fails_error]
        exact not_foreign
      · exact not_fails_ok
  have hlist : ∀ {α β : Type} {f : α → Checked β} {xs : List α}, (∀ x, ¬ Fails Foreign (f x)) →
      ¬ Fails Foreign (xs.mapM f) := by
    intro α β f xs hf hfails
    obtain ⟨_, x, _, -, -, hx⟩ := fails_mapM.mp hfails
    exact hf x hx
  exact not_fails_bind (hlist fun child => not_fails_bind (hlist fun ref => hone _ _ _) fun _ => not_fails_pure)
    fun _ => not_fails_pure

/-- A validated manifest is refused with an error of the mapper, if at all. -/
theorem mapDbtResult_refusal {ns : Stripped} {defaultDatabase : Option Stripped} (h : Validated document) :
    ¬ Fails Foreign (mapDbtResult document ns defaultDatabase) := by
  refine not_fails_bind (not_fails_of_ok h.version) fun version => ?_
  refine not_fails_bind ?_ fun st => ?_
  · refine not_fails_bind ?_ fun st => ?_
    · exact mapCollection_refusal fun e he => modelResource_refusal (h.models e he).1 (h.models e he).2
    · exact mapCollection_refusal fun e he => relationResource_refusal (h.sources e he).1 (h.sources e he).2
  · refine not_fails_bind mapDependencies_refusal fun edges => ?_
    rw [fails_mapError]
    rintro ⟨e, -, hforeign⟩
    exact not_foreign hforeign

end Refusal

/-! ### A manifest -/

/-- A model that is read from a table, with one column. -/
def ordersModel : Json :=
  .obj [("unique_id", .str "model.shop.orders"), ("resource_type", .str "model"), ("name", .str "orders"),
    ("package_name", .str "shop"), ("schema", .str "sales"), ("alias", .str "orders"), ("database", .str "lake"),
    ("fqn", .arr [.str "shop", .str "orders"]), ("config", .obj [("materialized", .str "table")]),
    ("columns", .obj [("amount", .obj [("name", .str "amount"), ("data_type", .str "INT")])])]

/-- An ephemeral model, without a database. -/
def stagingModel : Json :=
  .obj [("unique_id", .str "model.shop.staging"), ("resource_type", .str "model"), ("name", .str "staging"),
    ("package_name", .str "shop"), ("schema", .str "sales"), ("alias", .str "staging"), ("database", .null),
    ("fqn", .arr [.str "shop", .str "staging"]), ("config", .obj [("materialized", .str "ephemeral")])]

def rawSource : Json :=
  .obj [("unique_id", .str "source.shop.raw.orders"), ("resource_type", .str "source"), ("name", .str "orders"),
    ("package_name", .str "shop"), ("schema", .str "raw"), ("identifier", .str "orders"), ("source_name", .str "raw"),
    ("database", .str "lake")]

def shopManifest : Json :=
  .obj [("metadata", .obj [("dbt_schema_version", .str supportedManifestSchemaUri), ("dbt_version", .str "1.9.0")]),
    ("nodes", .obj [("model.shop.orders", ordersModel), ("model.shop.staging", stagingModel)]),
    ("sources", .obj [("source.shop.raw.orders", rawSource)]),
    ("parent_map", .obj [("model.shop.orders", .arr [.str "model.shop.staging"]),
      ("model.shop.staging", .arr [.str "source.shop.raw.orders"])]),
    ("disabled", .obj [])]

lemma shopManifest_valid : (validateDbtManifest shopManifest).toOption.isSome = true := by
  decide +kernel

lemma shopManifest_mapped : (mapDbtManifestWithObservations shopManifest "prod" none).toOption.isSome = true := by
  decide +kernel

section Manifest
variable {manifest : Json} {nameSpace : String} {database : Option String} {ns : Stripped}
  {defaultDatabase : Option Stripped} {document : Members} {result : GovernanceMappingResult}

lemma mapDbtManifest_eq (hns : requireNamespace nameSpace = .ok ns)
    (hdatabase : requireDefaultDatabase database = .ok defaultDatabase) (hvalid : validateDbtManifest manifest = .ok document) :
    mapDbtManifestWithObservations manifest nameSpace database = mapDbtResult document ns defaultDatabase := by
  rw [mapDbtManifestWithObservations, hns, ok_bind, hdatabase, ok_bind, hvalid, ok_bind]

/-- A valid manifest is mapped exactly where each resource with a place in a database has one, each reference to a model
or a source is to one that is mapped or disabled, and the nodes that are stated for one identity say the same. Else an
error of the mapper says so, and no other. -/
theorem dbt_accepts_iff (hns : requireNamespace nameSpace = .ok ns)
    (hdatabase : requireDefaultDatabase database = .ok defaultDatabase) (hvalid : validateDbtManifest manifest = .ok document) :
    ((∃ result, mapDbtManifestWithObservations manifest nameSpace database = .ok result) ↔
      DatabasesGiven defaultDatabase document ∧ ParentsResolvable document ∧
        ∀ version rs, dbtVersionOf document = .ok version →
          readResources ⟨ns, defaultDatabase, version⟩ document = .ok rs → Agree ns rs) ∧
    ∀ e, mapDbtManifestWithObservations manifest nameSpace database = .error e →
      ∃ path message, e = mappingError path message := by
  rw [mapDbtManifest_eq hns hdatabase hvalid]
  refine ⟨mapDbtResult_isOk (validated_of hvalid), fun e he => ?_⟩
  by_contra hforeign
  exact mapDbtResult_refusal (validated_of hvalid) ⟨e, he, fun path message heq => hforeign ⟨path, message, heq⟩⟩

end Manifest

theorem shopManifest_accepted : ∃ ns document, requireNamespace "prod" = .ok ns ∧
    validateDbtManifest shopManifest = .ok document ∧ DatabasesGiven none document ∧ ParentsResolvable document := by
  obtain ⟨document, hvalid⟩ := exists_ok shopManifest_valid
  obtain ⟨result, hmap⟩ := exists_ok shopManifest_mapped
  obtain ⟨ns, hns, -⟩ := bind_eq_ok.mp hmap
  obtain ⟨hgiven, hresolvable, -⟩ := (dbt_accepts_iff hns rfl hvalid).1.mp ⟨result, hmap⟩
  exact ⟨ns, document, hns, hvalid, hgiven, hresolvable⟩

/-! ### The graph -/

section Graph
variable {ns : Stripped} {document : Members} {rs : List Resource}

/-- A resource refers to another one, both registered. -/
structure Refers (ns : Stripped) (document : Members) (rs : List Resource) (child parent : Registered) : Prop where
  exists_ids : ∃ childId parentId, (registryOf ns rs).get? childId = some child ∧
    parentId ∈ parentRefs (Json.lookup (parentMapOf document) childId) ∧ (registryOf ns rs).get? parentId = some parent

/-- The resource states the node, for itself or for one of its columns. -/
def StatedBy (ns : Stripped) (r : Resource) (n : GraphNode) : Prop :=
  n = r.node ns ∨ ∃ column ∈ r.columns, n = r.columnNode ns column

/-- The graph holds what the resources of a manifest state: each node and each edge once, with exactly the records of
the resources that state it. -/
structure Holds (ns : Stripped) (document : Members) (rs : List Resource) (g : GovernanceGraph) : Prop where
  nodes_once : (g.nodes.map GraphNode.identity).Nodup
  edges_once : (g.edges.map GraphEdge.logicalIdentity).Nodup
  nodes : ∀ i, i ∈ g.nodes.map GraphNode.identity ↔
    ∃ n, (Containing ns rs n ∨ ∃ r ∈ rs, StatedBy ns r n) ∧ n.identity = i
  payload : ∀ n ∈ g.nodes, ∀ p, (Containing ns rs p ∨ ∃ r ∈ rs, StatedBy ns r p) → p.identity = n.identity →
    p.materialPayload = n.materialPayload
  provenance : ∀ n ∈ g.nodes, ∀ record, record ∈ n.provenance ↔
    ∃ r ∈ rs, r.record = record ∧ ∃ p, StatedBy ns r p ∧ p.identity = n.identity
  kinds : ∀ e ∈ g.edges, e.kind = kindContains ∨ e.kind = kindDependsOn
  contains : ∀ s t, (s, kindContains, t) ∈ g.edges.map GraphEdge.logicalIdentity ↔ Contained ns rs s t
  contains_provenance : ∀ e ∈ g.edges, e.kind = kindContains → e.provenance = []
  depends : ∀ s t, (s, kindDependsOn, t) ∈ g.edges.map GraphEdge.logicalIdentity ↔
    ∃ child parent, Refers ns document rs child parent ∧ child.identity = s ∧ parent.identity = t
  depends_provenance : ∀ e ∈ g.edges, e.kind = kindDependsOn → ∀ record, record ∈ e.provenance ↔
    ∃ child parent, Refers ns document rs child parent ∧ child.identity = e.source ∧ parent.identity = e.target ∧
      child.record = record

lemma stated_iff {n : GraphNode} : Stated ns rs n ↔ ∃ r ∈ rs, StatedBy ns r n := Iff.rfl

lemma contains_ne_depends : kindContains ≠ kindDependsOn := by decide

lemma mem_dependenciesOf {e : GraphEdge} : e ∈ dependenciesOf ns document rs ↔
    ∃ child parent, Refers ns document rs child parent ∧
      e = mappedEdge child.identity parent.identity kindDependsOn [child.record] := by
  rw [dependenciesOf, mem_dependencies]
  constructor
  · rintro ⟨childId, child, parentId, parent, hchild, href, hparent, rfl⟩
    exact ⟨child, parent, ⟨childId, parentId, hchild, href, hparent⟩, rfl⟩
  · rintro ⟨child, parent, ⟨childId, parentId, hchild, href, hparent⟩, rfl⟩
    exact ⟨childId, child, parentId, parent, hchild, href, hparent, rfl⟩

/-- The provenance of a stated node is the record of its resource. -/
lemma statedBy_provenance {r : Resource} {n : GraphNode} (h : StatedBy ns r n) {record : ProvenanceRecord} :
    record ∈ n.provenance ↔ r.record = record := by
  have hrecord : record ∈ mergeProvenance [r.record] ↔ r.record = record := by
    rw [mem_mergeProvenance, List.mem_singleton, eq_comm]
  rcases h with rfl | ⟨column, -, rfl⟩
  · exact hrecord
  · exact hrecord

lemma containing_provenance {n : GraphNode} (h : Containing ns rs n) {record : ProvenanceRecord} :
    record ∉ n.provenance := by
  rw [(containing_eq h).1]
  exact fun hrecord => absurd (mem_mergeProvenance.mp hrecord) List.not_mem_nil

/-- The graph that the parts of a manifest make holds what its resources state. -/
theorem holds_manifest {g : GovernanceGraph}
    (h : GovernanceGraph.fromParts (manifestParts ns document rs).nodes (manifestParts ns document rs).edges = .ok g) :
    Holds ns document rs g := by
  have hg := GovernanceGraph.holds_of_fromParts h
  have hedge : ∀ i, i ∈ g.edges.map GraphEdge.logicalIdentity ↔
      (∃ s t, Contained ns rs s t ∧ i = (s, kindContains, t)) ∨
        ∃ child parent, Refers ns document rs child parent ∧ i = (child.identity, kindDependsOn, parent.identity) := by
    intro i
    rw [hg.edge_identities, List.mem_map]
    constructor
    · rintro ⟨e, he, rfl⟩
      rcases mem_manifestEdges.mp he with ⟨s, t, hcontained, rfl⟩ | he
      · exact Or.inl ⟨s, t, hcontained, rfl⟩
      · obtain ⟨child, parent, hrefers, rfl⟩ := mem_dependenciesOf.mp he
        exact Or.inr ⟨child, parent, hrefers, rfl⟩
    · rintro (⟨s, t, hcontained, rfl⟩ | ⟨child, parent, hrefers, rfl⟩)
      · exact ⟨_, mem_manifestEdges.mpr (Or.inl ⟨s, t, hcontained, rfl⟩), rfl⟩
      · exact ⟨_, mem_manifestEdges.mpr (Or.inr (mem_dependenciesOf.mpr ⟨child, parent, hrefers, rfl⟩)), rfl⟩
  refine ⟨hg.nodes_once, hg.edges_once, fun i => ?_, fun n hn p hp hsame => ?_, fun n hn record => ?_, fun e he => ?_,
    fun s t => ?_, fun e he hkind => ?_, fun s t => ?_, fun e he hkind record => ?_⟩
  · rw [hg.node_identities, List.mem_map]
    simp only [mem_manifestParts, stated_iff]
  · exact hg.node_payload n hn p (mem_manifestParts.mpr hp) hsame
  · rw [hg.node_provenance n hn]
    constructor
    · rintro ⟨p, hp, hsame, hrecord⟩
      rcases mem_manifestParts.mp hp with hp | ⟨r, hr, hstated⟩
      · exact absurd hrecord (containing_provenance hp)
      · exact ⟨r, hr, (statedBy_provenance hstated).mp hrecord, p, hstated, hsame⟩
    · rintro ⟨r, hr, hrecord, p, hstated, hsame⟩
      exact ⟨p, mem_manifestParts.mpr (Or.inr ⟨r, hr, hstated⟩), hsame, (statedBy_provenance hstated).mpr hrecord⟩
  · rcases (hedge e.logicalIdentity).mp (List.mem_map_of_mem he) with ⟨s, t, -, hi⟩ | ⟨child, parent, -, hi⟩
    · exact Or.inl (congrArg (fun i => i.2.1) hi)
    · exact Or.inr (congrArg (fun i => i.2.1) hi)
  · rw [hedge]
    constructor
    · rintro (⟨s', t', hcontained, hi⟩ | ⟨child, parent, -, hi⟩)
      · obtain ⟨rfl, -, rfl⟩ : s = s' ∧ kindContains = kindContains ∧ t = t' := by simpa using hi
        exact hcontained
      · exact absurd (congrArg (fun i => i.2.1) hi) contains_ne_depends
    · exact fun hcontained => Or.inl ⟨s, t, hcontained, rfl⟩
  · refine List.eq_nil_iff_forall_not_mem.mpr fun record hrecord => ?_
    obtain ⟨p, hp, hsame, hrecord⟩ := (hg.edge_provenance e he record).mp hrecord
    rcases mem_manifestEdges.mp hp with ⟨s, t, -, rfl⟩ | hp
    · exact absurd (mem_mergeProvenance.mp hrecord) List.not_mem_nil
    · obtain ⟨child, parent, -, rfl⟩ := mem_dependenciesOf.mp hp
      exact contains_ne_depends (hkind.symm.trans (congrArg (fun i => i.2.1) hsame).symm)
  · rw [hedge]
    constructor
    · rintro (⟨s', t', -, hi⟩ | ⟨child, parent, hrefers, hi⟩)
      · exact absurd (congrArg (fun i => i.2.1) hi).symm contains_ne_depends
      · obtain ⟨rfl, -, rfl⟩ : s = child.identity ∧ kindDependsOn = kindDependsOn ∧ t = parent.identity := by simpa using hi
        exact ⟨child, parent, hrefers, rfl, rfl⟩
    · rintro ⟨child, parent, hrefers, rfl, rfl⟩
      exact Or.inr ⟨child, parent, hrefers, rfl⟩
  · rw [hg.edge_provenance e he]
    constructor
    · rintro ⟨p, hp, hsame, hrecord⟩
      rcases mem_manifestEdges.mp hp with ⟨s, t, -, rfl⟩ | hp
      · exact absurd ((congrArg (fun i => i.2.1) hsame).trans hkind) contains_ne_depends
      · obtain ⟨child, parent, hrefers, rfl⟩ := mem_dependenciesOf.mp hp
        exact ⟨child, parent, hrefers, congrArg (fun i => i.1) hsame, congrArg (fun i => i.2.2) hsame,
          (List.mem_singleton.mp (mem_mergeProvenance.mp hrecord)).symm⟩
    · rintro ⟨child, parent, hrefers, hsource, htarget, rfl⟩
      exact ⟨_, mem_manifestEdges.mpr (Or.inr (mem_dependenciesOf.mpr ⟨child, parent, hrefers, rfl⟩)),
        Prod.ext hsource (Prod.ext hkind.symm htarget), mem_mergeProvenance.mpr (List.mem_singleton.mpr rfl)⟩

/-- What a mapped manifest came from. -/
structure MappedFrom (manifest : Json) (nameSpace : String) (database : Option String) (ns : Stripped)
    (document : Members) (rs : List Resource) : Prop where
  nameSpace : requireNamespace nameSpace = .ok ns
  valid : validateDbtManifest manifest = .ok document
  resources : ∃ defaultDatabase version, requireDefaultDatabase database = .ok defaultDatabase ∧
    dbtVersionOf document = .ok version ∧ readResources ⟨ns, defaultDatabase, version⟩ document = .ok rs

lemma mappedFrom_of {manifest : Json} {nameSpace : String} {database : Option String} {result : GovernanceMappingResult}
    (h : mapDbtManifestWithObservations manifest nameSpace database = .ok result) :
    ∃ ns document rs, MappedFrom manifest nameSpace database ns document rs ∧
      (manifestParts ns document rs).result = .ok result := by
  obtain ⟨ns, hns, h⟩ := bind_eq_ok.mp h
  obtain ⟨defaultDatabase, hdatabase, h⟩ := bind_eq_ok.mp h
  obtain ⟨document, hvalid, h⟩ := bind_eq_ok.mp h
  obtain ⟨version, rs, hversion, hrs, -, hparts⟩ := mapDbtResult_ok.mp h
  exact ⟨ns, document, rs, ⟨hns, hvalid, defaultDatabase, version, hdatabase, hversion, hrs⟩, hparts⟩

/-- The graph of a mapped manifest holds exactly what its models and sources state: their nodes and columns with the
records of exactly the resources that state them, what contains them, and an edge for each reference. -/
theorem dbt_graph_exact {manifest : Json} {nameSpace : String} {database : Option String} {result : GovernanceMappingResult}
    (h : mapDbtManifestWithObservations manifest nameSpace database = .ok result) :
    ∃ ns document rs, MappedFrom manifest nameSpace database ns document rs ∧ Holds ns document rs result.graph := by
  obtain ⟨ns, document, rs, hfrom, hparts⟩ := mappedFrom_of h
  exact ⟨ns, document, rs, hfrom, holds_manifest (MappedParts.result_eq_ok.mp hparts).1⟩

theorem shopManifest_graph : ∃ result ns document rs,
    mapDbtManifestWithObservations shopManifest "prod" none = .ok result ∧ MappedFrom shopManifest "prod" none ns document rs ∧
      Holds ns document rs result.graph := by
  obtain ⟨result, hmap⟩ := exists_ok shopManifest_mapped
  obtain ⟨ns, document, rs, hfrom, hholds⟩ := dbt_graph_exact hmap
  exact ⟨result, ns, document, rs, hmap, hfrom, hholds⟩

end Graph

/-! ### The observations -/

section Observations
variable {ns : Stripped} {document : Members} {rs : List Resource}

/-- What a node says of one of its properties. -/
inductive Says (n : GraphNode) : PropertyPath → Json → Prop where
  | name : Says n namePath (.str n.name.val)
  | description {text : String} (h : n.description = some text) : Says n descriptionPath (.str text)
  | item {key : String} {value : Json} (h : (key, value) ∈ n.attributes.items) : Says n (attributePath key) value

lemma mem_observeNode {n : GraphNode} {record : ProvenanceRecord} (hne : n.provenance ≠ []) {o : PendingObservation} :
    o ∈ observeNode n record ↔ ∃ path value, Says n path value ∧ o = (n.identity, path, value, record) := by
  rw [observeNode, if_neg hne]
  simp only [List.mem_append, List.mem_singleton, List.mem_map, Option.mem_toList]
  constructor
  · rintro ((rfl | ⟨text, htext, rfl⟩) | ⟨member, hmember, rfl⟩)
    · exact ⟨_, _, .name, rfl⟩
    · exact ⟨_, _, .description htext, rfl⟩
    · exact ⟨_, _, .item hmember, rfl⟩
  · rintro ⟨path, value, hsays, rfl⟩
    cases hsays with
    | name => exact Or.inl (Or.inl rfl)
    | description htext => exact Or.inl (Or.inr ⟨_, htext, rfl⟩)
    | item hmember => exact Or.inr ⟨_, hmember, rfl⟩

lemma statedBy_ne_nil {r : Resource} {n : GraphNode} (h : StatedBy ns r n) : n.provenance ≠ [] :=
  List.ne_nil_of_mem ((statedBy_provenance h).mpr rfl)

/-- The reports of a resource: what each of its nodes says, with its record. -/
lemma mem_resourcePending {r : Resource} {o : PendingObservation} : o ∈ (r.parts ns).pending ↔
    ∃ n path value, StatedBy ns r n ∧ Says n path value ∧ o = (n.identity, path, value, r.record) := by
  have hcontainers : (r.placement.containers ns).pending = [] := by
    cases r.placement <;> rfl
  have hcolumns : (MappedParts.join (r.columns.map (r.columnParts ns))).pending =
      r.columns.flatMap fun column => observeNode (r.columnNode ns column) r.record := List.flatMap_map ..
  have hpending : (r.parts ns).pending = observeNode (r.node ns) r.record ++
      r.columns.flatMap fun column => observeNode (r.columnNode ns column) r.record := by
    rw [Resource.parts, MappedParts.pending_append, hcontainers, List.nil_append, Resource.own, MappedParts.pending_append,
      hcolumns]
    rfl
  rw [hpending, List.mem_append, List.mem_flatMap]
  constructor
  · rintro (ho | ⟨column, hcolumn, ho⟩)
    · have hstated : StatedBy ns r (r.node ns) := Or.inl rfl
      obtain ⟨path, value, hsays, rfl⟩ := (mem_observeNode (statedBy_ne_nil hstated)).mp ho
      exact ⟨_, path, value, hstated, hsays, rfl⟩
    · have hstated : StatedBy ns r (r.columnNode ns column) := Or.inr ⟨column, hcolumn, rfl⟩
      obtain ⟨path, value, hsays, rfl⟩ := (mem_observeNode (statedBy_ne_nil hstated)).mp ho
      exact ⟨_, path, value, hstated, hsays, rfl⟩
  · rintro ⟨n, path, value, hstated, hsays, rfl⟩
    have ho : (n.identity, path, value, r.record) ∈ observeNode n r.record :=
      (mem_observeNode (statedBy_ne_nil hstated)).mpr ⟨path, value, hsays, rfl⟩
    rcases hstated with rfl | ⟨column, hcolumn, rfl⟩
    · exact Or.inl ho
    · exact Or.inr ⟨column, hcolumn, ho⟩

lemma mem_manifestPending {o : PendingObservation} : o ∈ (manifestParts ns document rs).pending ↔
    ∃ r ∈ rs, ∃ n path value, StatedBy ns r n ∧ Says n path value ∧ o = (n.identity, path, value, r.record) := by
  rw [manifestParts, MappedParts.pending_append, List.append_nil, MappedParts.join, List.mem_flatMap]
  simp only [List.mem_map, exists_exists_and_eq_and, mem_resourcePending]

/-- The observations of a mapped manifest are exactly what the nodes of its models and sources say of themselves, each with
exactly the records of the resources that say it, and none twice. -/
theorem dbt_observations_exact {manifest : Json} {nameSpace : String} {database : Option String}
    {result : GovernanceMappingResult} (h : mapDbtManifestWithObservations manifest nameSpace database = .ok result) :
    ∃ ns document rs, MappedFrom manifest nameSpace database ns document rs ∧
      (result.observations.observations.map PropertyObservation.groupingKey).Nodup ∧
      ∀ i path value record, Observed result.observations.observations i path value record ↔
        ∃ r ∈ rs, r.record = record ∧ ∃ n said, StatedBy ns r n ∧ Says n path said ∧ n.identity = i ∧
          canonicalizeJsonValue said = value := by
  obtain ⟨ns, document, rs, hfrom, hparts⟩ := mappedFrom_of h
  refine ⟨ns, document, rs, hfrom, ?_⟩
  rw [(MappedParts.result_eq_ok.mp hparts).2]
  refine ⟨normalizeObservations_keys_nodup _, fun i path value record => ?_⟩
  rw [MappedParts.observations, PropertyObservationSet.fromObservations, sameObservations_normalize]
  constructor
  · rintro ⟨o, ho, rfl, rfl, rfl, hrecord⟩
    obtain ⟨q, hq, rfl⟩ := List.mem_map.mp ho
    obtain ⟨r, hr, n, path, said, hstated, hsays, rfl⟩ := mem_manifestPending.mp hq
    have hsame := List.mem_singleton.mp (mem_mergeProvenance.mp hrecord)
    exact ⟨r, hr, hsame.symm, n, said, hstated, hsays, rfl, rfl⟩
  · rintro ⟨r, hr, rfl, n, said, hstated, hsays, rfl, rfl⟩
    refine ⟨_, List.mem_map_of_mem (mem_manifestPending.mpr ⟨r, hr, n, path, said, hstated, hsays, rfl⟩), rfl, rfl, rfl, ?_⟩
    exact mem_mergeProvenance.mpr (List.mem_singleton.mpr rfl)

theorem shopManifest_observations : ∃ result ns document rs,
    mapDbtManifestWithObservations shopManifest "prod" none = .ok result ∧
      MappedFrom shopManifest "prod" none ns document rs ∧
    ∀ i path value record, Observed result.observations.observations i path value record ↔
      ∃ r ∈ rs, r.record = record ∧ ∃ n said, StatedBy ns r n ∧ Says n path said ∧ n.identity = i ∧
        canonicalizeJsonValue said = value := by
  obtain ⟨result, hmap⟩ := exists_ok shopManifest_mapped
  obtain ⟨ns, document, rs, hfrom, -, h⟩ := dbt_observations_exact hmap
  exact ⟨result, ns, document, rs, hmap, hfrom, h⟩

end Observations

end CollibraGovernance.Dbt
