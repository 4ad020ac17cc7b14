import CollibraGovernance.Dbt.Mapper

/-! The resources of a manifest: what the collected parts are, without the states between them. -/
namespace CollibraGovernance.Dbt
open Library Identity Domain
open Odcs (strippedText textOf mappings)

/-- Reading each item and adding what was read is reading all and adding them in turn. -/
theorem foldlM_read_ok {α β σ ε : Type} {read : α → Except ε β} {add : σ → β → σ} {s s' : σ} {as : List α} :
    as.foldlM (fun s a => do let b ← read a; return add s b) s = .ok s' ↔
      ∃ bs, as.mapM read = .ok bs ∧ s' = bs.foldl add s := by
  induction as generalizing s with
  | nil =>
    rw [List.foldlM_nil, pure_eq_ok, List.mapM_nil]
    constructor
    · rintro rfl
      exact ⟨[], rfl, rfl⟩
    · rintro ⟨bs, hbs, rfl⟩
      obtain rfl := pure_eq_ok.mp hbs
      rfl
  | cons a as ih =>
    rw [List.foldlM_cons, List.mapM_cons, bind_eq_ok]
    constructor
    · rintro ⟨t, ht, hrest⟩
      obtain ⟨b, hb, ht⟩ := bind_eq_ok.mp ht
      obtain rfl := pure_eq_ok.mp ht
      obtain ⟨bs, hbs, rfl⟩ := ih.mp hrest
      refine ⟨b :: bs, ?_, rfl⟩
      rw [hb, ok_bind, hbs]
      rfl
    · rintro ⟨bs, hbs, rfl⟩
      obtain ⟨b, hb, hbs⟩ := bind_eq_ok.mp hbs
      obtain ⟨rest, hrest, hbs⟩ := bind_eq_ok.mp hbs
      obtain rfl := pure_eq_ok.mp hbs
      refine ⟨add s b, ?_, ih.mpr ⟨rest, hrest, rfl⟩⟩
      rw [hb]
      rfl

/-! ### The resources -/

/-- The entries of a collection that are mapped: the resources of its type, in the order of their keys. -/
def resourcesOf (resourceType : String) (collection : Members) : List (String × Members) :=
  (sortedMappingItems collection).filterMap fun entry => match entry.2 with
    | .obj resource =>
      if Json.lookup resource "resource_type" = some (.str resourceType) then some (entry.1, resource) else none
    | _ => none

/-- The resources of a manifest as they are read, models first. -/
def readResources (c : Context) (document : Members) : Checked (List Resource) := do
  let models ← (resourcesOf resourceTypeModel (membersOf (Json.get document "nodes"))).mapM
    fun e => modelResource c (pointer "/nodes" e.1) e.2
  let sources ← (resourcesOf resourceTypeSource (membersOf (Json.get document "sources"))).mapM
    fun e => sourceResource c (pointer "/sources" e.1) e.2
  return models ++ sources

section Read
variable {c : Context} {collectionPath resourceType : String} {read : String → Members → Checked Resource}
  {st st' : MapState} {collection document : Members}

lemma mapCollection_eq : mapCollection c collectionPath resourceType read st collection =
    (resourcesOf resourceType collection).foldlM (fun st e => do
      let r ← read (pointer collectionPath e.1) e.2
      return st.addResource c.nameSpace r) st := by
  rw [mapCollection, resourcesOf]
  induction sortedMappingItems collection generalizing st with
  | nil => rfl
  | cons entry entries ih =>
    obtain ⟨key, value⟩ := entry
    rw [List.foldlM_cons, List.filterMap_cons, mapEntry]
    cases value with
    | obj resource =>
      dsimp only
      split_ifs with htype
      · rw [List.foldlM_cons]
        exact congrArg (_ >>= ·) (funext fun next => ih)
      · exact ih
    | _ => exact ih

/-- The state after all resources were mapped. -/
theorem mapResources_ok : mapResources c document = .ok st ↔
    ∃ rs, readResources c document = .ok rs ∧ st = rs.foldl (MapState.addResource c.nameSpace) .empty := by
  rw [mapResources, bind_eq_ok]
  simp only [mapCollection_eq, foldlM_read_ok]
  constructor
  · rintro ⟨between, ⟨models, hmodels, rfl⟩, sources, hsources, rfl⟩
    refine ⟨models ++ sources, ?_, List.foldl_append.symm⟩
    rw [readResources, hmodels, ok_bind, hsources]
    rfl
  · rintro ⟨rs, hrs, rfl⟩
    obtain ⟨models, hmodels, hrs⟩ := bind_eq_ok.mp hrs
    obtain ⟨sources, hsources, hrs⟩ := bind_eq_ok.mp hrs
    obtain rfl := pure_eq_ok.mp hrs
    exact ⟨_, ⟨models, hmodels, rfl⟩, sources, hsources, List.foldl_append⟩

end Read

/-! ### The parts of a resource -/

/-- The containers of a placement, with the edge between them. -/
def Placement.containers (ns : Stripped) : Placement → MappedParts
  | transformation _ => .empty
  | relation database schema _ =>
    ⟨[MapState.containerNode (databaseIdentity ns database) database,
        MapState.containerNode (schemaIdentity ns database schema) schema],
      [mappedEdge (databaseIdentity ns database) (schemaIdentity ns database schema) kindContains []], []⟩

namespace Resource

/-- The parts of a resource but for its containers. -/
def own (ns : Stripped) (r : Resource) : MappedParts :=
  .observed (r.node ns) r.record
    ((r.identity ns).parent.toList.map fun parent => mappedEdge parent (r.identity ns) kindContains []) ++
  .join (r.columns.map (r.columnParts ns))

/-- All parts of a resource. -/
def parts (ns : Stripped) (r : Resource) : MappedParts := r.placement.containers ns ++ r.own ns

end Resource

namespace MapState
variable {ns : Stripped} {st : MapState}

/-- What was seen is among the parts, with the edge that leads to it. -/
structure Covers (ns : Stripped) (st : MapState) : Prop where
  database : ∀ database, databaseIdentity ns database ∈ st.seenContainers →
    containerNode (databaseIdentity ns database) database ∈ st.parts.nodes
  schema : ∀ database schema, schemaIdentity ns database schema ∈ st.seenContainers →
    containerNode (schemaIdentity ns database schema) schema ∈ st.parts.nodes ∧
      mappedEdge (databaseIdentity ns database) (schemaIdentity ns database schema) kindContains [] ∈ st.parts.edges

lemma covers_empty : empty.Covers ns :=
  ⟨fun _ h => absurd h List.not_mem_nil, fun _ _ h => absurd h List.not_mem_nil⟩

lemma schema_ne_database {database database' schema : Stripped} :
    schemaIdentity ns database schema ≠ databaseIdentity ns database' := by
  intro h
  cases h

lemma databaseIdentity_inj {a b : Stripped} (h : databaseIdentity ns a = databaseIdentity ns b) : a = b :=
  (GraphNodeIdentity.root.inj h).2.2

lemma schemaIdentity_inj {a b a' b' : Stripped} (h : schemaIdentity ns a b = schemaIdentity ns a' b') :
    a = a' ∧ b = b' := by
  obtain ⟨-, -, hschema, hparent⟩ := GraphNodeIdentity.child.inj h
  exact ⟨databaseIdentity_inj hparent, hschema⟩

/-- Parts that are there already may be listed again. -/
lemma same_absorb {p q : MappedParts} (hnodes : ∀ n ∈ q.nodes, n ∈ p.nodes) (hedges : ∀ e ∈ q.edges, e ∈ p.edges)
    (hpending : ∀ o ∈ q.pending, o ∈ p.pending) : p.Same (p ++ q) where
  nodes n := by
    rw [MappedParts.nodes_append, List.mem_append]
    exact ⟨Or.inl, fun h => h.elim id (hnodes n)⟩
  edges e := by
    rw [MappedParts.edges_append, List.mem_append]
    exact ⟨Or.inl, fun h => h.elim id (hedges e)⟩
  pending o := by
    rw [MappedParts.pending_append, List.mem_append]
    exact ⟨Or.inl, fun h => h.elim id (hpending o)⟩

lemma addContainer_seen {identity : GraphNodeIdentity} {name : Stripped} {edges : List GraphEdge}
    (h : identity ∈ st.seenContainers) : st.addContainer identity name edges = st := if_pos h

lemma addContainer_new {identity : GraphNodeIdentity} {name : Stripped} {edges : List GraphEdge}
    (h : identity ∉ st.seenContainers) : st.addContainer identity name edges = { st with
      parts := st.parts ++ ⟨[containerNode identity name], edges, []⟩
      seenContainers := identity :: st.seenContainers } := if_neg h

/-- A database is there after it was added, whether or not it had been seen. -/
lemma addContainer_database (h : st.Covers ns) (database : Stripped) :
    (st.addContainer (databaseIdentity ns database) database []).Covers ns ∧
      (st.addContainer (databaseIdentity ns database) database []).parts.Same
        (st.parts ++ ⟨[containerNode (databaseIdentity ns database) database], [], []⟩) := by
  by_cases hseen : databaseIdentity ns database ∈ st.seenContainers
  · rw [addContainer_seen hseen]
    refine ⟨h, same_absorb (fun n hn => ?_) (fun e he => absurd he List.not_mem_nil)
      (fun o ho => absurd ho List.not_mem_nil)⟩
    rw [List.mem_singleton.mp hn]
    exact h.database database hseen
  · rw [addContainer_new hseen]
    refine ⟨⟨fun d hd => ?_, fun d s hd => ?_⟩, .refl _⟩
    · rcases List.mem_cons.mp hd with hd | hd
      · rw [databaseIdentity_inj hd]
        exact List.mem_append_right _ (List.mem_singleton.mpr rfl)
      · exact List.mem_append_left _ (h.database d hd)
    · rcases List.mem_cons.mp hd with hd | hd
      · exact absurd hd schema_ne_database
      · obtain ⟨hnode, hedge⟩ := h.schema d s hd
        exact ⟨List.mem_append_left _ hnode, List.mem_append_left _ hedge⟩

/-- A schema is there after it was added, with the edge from its database. -/
lemma addContainer_schema (h : st.Covers ns) (database schema : Stripped) :
    (st.addContainer (schemaIdentity ns database schema) schema
        [mappedEdge (databaseIdentity ns database) (schemaIdentity ns database schema) kindContains []]).Covers ns ∧
      (st.addContainer (schemaIdentity ns database schema) schema
        [mappedEdge (databaseIdentity ns database) (schemaIdentity ns database schema) kindContains []]).parts.Same
        (st.parts ++ ⟨[containerNode (schemaIdentity ns database schema) schema],
          [mappedEdge (databaseIdentity ns database) (schemaIdentity ns database schema) kindContains []], []⟩) := by
  by_cases hseen : schemaIdentity ns database schema ∈ st.seenContainers
  · rw [addContainer_seen hseen]
    obtain ⟨hnode, hedge⟩ := h.schema database schema hseen
    refine ⟨h, same_absorb (fun n hn => ?_) (fun e he => ?_) (fun o ho => absurd ho List.not_mem_nil)⟩
    · rw [List.mem_singleton.mp hn]
      exact hnode
    · rw [List.mem_singleton.mp he]
      exact hedge
  · rw [addContainer_new hseen]
    refine ⟨⟨fun d hd => ?_, fun d s hd => ?_⟩, .refl _⟩
    · rcases List.mem_cons.mp hd with hd | hd
      · exact absurd hd.symm schema_ne_database
      · exact List.mem_append_left _ (h.database d hd)
    · rcases List.mem_cons.mp hd with hd | hd
      · obtain ⟨rfl, rfl⟩ := schemaIdentity_inj hd
        exact ⟨List.mem_append_right _ (List.mem_singleton.mpr rfl), List.mem_append_right _ (List.mem_singleton.mpr rfl)⟩
      · obtain ⟨hnode, hedge⟩ := h.schema d s hd
        exact ⟨List.mem_append_left _ hnode, List.mem_append_left _ hedge⟩

lemma registry_addContainer (identity : GraphNodeIdentity) (name : Stripped) (edges : List GraphEdge) :
    (st.addContainer identity name edges).registry = st.registry := by
  unfold addContainer
  split_ifs <;> rfl

/-- More parts cover what was covered. -/
lemma Covers.mono (h : st.Covers ns) (parts : MappedParts) (registry : Dict String Registered) :
    Covers ns ⟨st.parts ++ parts, st.seenContainers, registry⟩ where
  database d hd := List.mem_append_left _ (h.database d hd)
  schema d s hd := ⟨List.mem_append_left _ (h.schema d s hd).1, List.mem_append_left _ (h.schema d s hd).2⟩

/-- The containers of a placement are there after they were ensured. -/
lemma ensureContainers_parts (h : st.Covers ns) (database schema table : Stripped) :
    (st.ensureContainers ns database schema).Covers ns ∧
      (st.ensureContainers ns database schema).parts.Same
        (st.parts ++ (Placement.relation database schema table).containers ns) ∧
      (st.ensureContainers ns database schema).registry = st.registry := by
  obtain ⟨hdatabase, hfirst⟩ := addContainer_database h database
  obtain ⟨hschema, hsecond⟩ := addContainer_schema hdatabase database schema
  refine ⟨hschema, hsecond.trans ?_, ?_⟩
  · have hboth := hfirst.append (.refl ⟨[containerNode (schemaIdentity ns database schema) schema],
      [mappedEdge (databaseIdentity ns database) (schemaIdentity ns database schema) kindContains []], []⟩)
    rw [MappedParts.append_assoc] at hboth
    exact hboth
  · rw [ensureContainers, registry_addContainer, registry_addContainer]

/-- A resource adds its parts, whether or not its containers were seen before, and is registered. -/
theorem addResource_parts (h : st.Covers ns) (r : Resource) :
    (st.addResource ns r).Covers ns ∧ (st.addResource ns r).parts.Same (st.parts ++ r.parts ns) ∧
      (st.addResource ns r).registry = st.registry.set r.uniqueId ⟨r.identity ns, r.record⟩ := by
  rw [Resource.parts, ← MappedParts.append_assoc]
  unfold addResource
  cases hplacement : r.placement with
  | transformation logicalId =>
    dsimp only
    rw [MappedParts.append_assoc]
    refine ⟨h.mono _ _, ?_, rfl⟩
    rw [Placement.containers, MappedParts.append_empty]
    exact .refl _
  | relation database schema table =>
    obtain ⟨hcovers, hparts, hregistry⟩ := ensureContainers_parts h database schema table
    dsimp only
    rw [MappedParts.append_assoc]
    exact ⟨hcovers.mono _ _, hparts.append (.refl _), by rw [hregistry]⟩

/-- After all resources the parts are theirs, and the last resource of an id is registered under it. -/
theorem foldl_addResource (h : st.Covers ns) (rs : List Resource) :
    (rs.foldl (addResource ns) st).parts.Same (st.parts ++ .join (rs.map (Resource.parts ns))) ∧
      (rs.foldl (addResource ns) st).registry =
        rs.foldl (fun d r => d.set r.uniqueId ⟨r.identity ns, r.record⟩) st.registry := by
  induction rs generalizing st with
  | nil =>
    rw [List.map_nil, MappedParts.join_nil, MappedParts.append_empty]
    exact ⟨.refl _, rfl⟩
  | cons r rs ih =>
    obtain ⟨hcovers, hparts, hregistry⟩ := addResource_parts h r
    obtain ⟨hrest, hregistered⟩ := ih hcovers
    rw [List.map_cons, MappedParts.join_cons, ← MappedParts.append_assoc]
    refine ⟨hrest.trans (hparts.append (.refl _)), ?_⟩
    rw [List.foldl_cons, hregistered, hregistry, List.foldl_cons]

end MapState

/-! ### Dependencies -/

section Dependencies
variable {registry : Dict String Registered} {disabled : List String} {parentMap : Members} {edges : List GraphEdge}

/-- A reference that a manifest may make: to a registered or a disabled resource, or to none that is mapped. -/
def Resolvable (registry : Dict String Registered) (disabled : List String) (ref : String) : Prop :=
  (∃ parent, registry.get? ref = some parent) ∨ ref ∈ disabled ∨ mustResolve ref = false

lemma mapDependency_ok {childId : String} {child : Registered} {ref : String} :
    mapDependency registry disabled childId child ref = .ok edges ↔ Resolvable registry disabled ref ∧
      edges = (registry.get? ref).toList.map fun parent =>
        mappedEdge child.identity parent.identity kindDependsOn [child.record] := by
  rw [mapDependency, Resolvable]
  cases registry.get? ref with
  | some parent =>
    dsimp only
    rw [Except.ok.injEq, eq_comm]
    exact (and_iff_right (Or.inl ⟨parent, rfl⟩)).symm
  | none =>
    dsimp only
    split_ifs with hdisabled hresolve
    · rw [Except.ok.injEq, eq_comm]
      exact (and_iff_right (Or.inr (Or.inl hdisabled))).symm
    · simp [hdisabled, hresolve]
    · rw [Except.ok.injEq, eq_comm]
      exact (and_iff_right (Or.inr (Or.inr (Bool.not_eq_true _ ▸ hresolve)))).symm

/-- The edges of one child. -/
def childEdges (parentMap : Members) (registry : Dict String Registered) (child : String × Registered) : List GraphEdge :=
  (parentRefs (Json.lookup parentMap child.1)).flatMap fun ref => (registry.get? ref).toList.map fun parent =>
    mappedEdge child.2.identity parent.identity kindDependsOn [child.2.record]

lemma childDependencies_ok {child : String × Registered} :
    (do let found ← (parentRefs (Json.lookup parentMap child.1)).mapM (mapDependency registry disabled child.1 child.2)
        return found.flatten : Checked (List GraphEdge)) = .ok edges ↔
      (∀ ref ∈ parentRefs (Json.lookup parentMap child.1), Resolvable registry disabled ref) ∧
        edges = childEdges parentMap registry child := by
  rw [bind_eq_ok]
  constructor
  · rintro ⟨found, hfound, hedges⟩
    obtain rfl := pure_eq_ok.mp hedges
    refine ⟨fun ref href => ?_, ?_⟩
    · obtain ⟨es, -, hes⟩ := (mapM_mem hfound).2 ref href
      exact (mapDependency_ok.mp hes).1
    · have hmap := mapM_map_of_mem (p := id) (fun ref _ es hes => (mapDependency_ok.mp hes).2) hfound
      rw [List.map_id] at hmap
      rw [hmap, childEdges, List.flatMap_def]
  · rintro ⟨hresolvable, rfl⟩
    refine ⟨_, mapM_eq_map fun ref href => mapDependency_ok.mpr ⟨hresolvable ref href, rfl⟩, ?_⟩
    rw [childEdges, List.flatMap_def]
    rfl

/-- Dependencies are refused exactly for a reference that is not resolvable, and they are those of the children. -/
theorem mapDependencies_ok : mapDependencies parentMap registry disabled = .ok edges ↔
    (∀ child ∈ registry.entries, ∀ ref ∈ parentRefs (Json.lookup parentMap child.1), Resolvable registry disabled ref) ∧
      edges = (sortBy Prod.fst registry.entries).flatMap (childEdges parentMap registry) := by
  rw [mapDependencies, bind_eq_ok]
  constructor
  · rintro ⟨found, hfound, hedges⟩
    obtain rfl := pure_eq_ok.mp hedges
    refine ⟨fun child hchild => ?_, ?_⟩
    · obtain ⟨es, -, hes⟩ := (mapM_mem hfound).2 child (mem_sortBy.mpr hchild)
      exact (childDependencies_ok.mp hes).1
    · have hmap := mapM_map_of_mem (p := id) (fun child _ es hes => (childDependencies_ok.mp hes).2) hfound
      rw [List.map_id] at hmap
      rw [hmap, List.flatMap_def]
  · rintro ⟨hresolvable, rfl⟩
    refine ⟨_, mapM_eq_map fun child hchild =>
      childDependencies_ok.mpr ⟨hresolvable child (mem_sortBy.mp hchild), rfl⟩, ?_⟩
    rw [List.flatMap_def]
    rfl

/-- An edge leads from a registered child to a registered parent that it refers to. -/
theorem mem_dependencies {e : GraphEdge} :
    e ∈ (sortBy Prod.fst registry.entries).flatMap (childEdges parentMap registry) ↔
      ∃ childId child parentId parent, registry.get? childId = some child ∧
        parentId ∈ parentRefs (Json.lookup parentMap childId) ∧ registry.get? parentId = some parent ∧
        e = mappedEdge child.identity parent.identity kindDependsOn [child.record] := by
  simp only [List.mem_flatMap, mem_sortBy, childEdges, List.mem_map, Option.mem_toList, Prod.exists,
    ← Dict.get?_eq_some]
  constructor
  · rintro ⟨childId, child, hchild, parentId, href, parent, hparent, rfl⟩
    exact ⟨childId, child, parentId, parent, hchild, href, hparent, rfl⟩
  · rintro ⟨childId, child, parentId, parent, hchild, href, hparent, rfl⟩
    exact ⟨childId, child, hchild, parentId, href, parent, hparent, rfl⟩

end Dependencies

/-! ### The result -/

/-- What edges can lead to: of resources with one id the last. -/
def registryOf (ns : Stripped) (rs : List Resource) : Dict String Registered :=
  Dict.index Resource.uniqueId (fun r => ⟨r.identity ns, r.record⟩) rs

/-- The state after resources were added to the empty one. -/
lemma foldl_empty (ns : Stripped) (rs : List Resource) :
    (rs.foldl (MapState.addResource ns) .empty).parts.Same (.join (rs.map (Resource.parts ns))) ∧
      (rs.foldl (MapState.addResource ns) .empty).registry = registryOf ns rs :=
  MapState.foldl_addResource MapState.covers_empty rs

def dbtVersionOf (document : Members) : Checked Stripped :=
  requiredText (membersOf (Json.get document "metadata")) "dbt_version"

def parentMapOf (document : Members) : Members := membersOf (Json.get document "parent_map")

def disabledOf (document : Members) : List String := disabledIds (membersOf (Json.get document "disabled"))

/-- The dependencies of resources. -/
def dependenciesOf (ns : Stripped) (document : Members) (rs : List Resource) : List GraphEdge :=
  (sortBy Prod.fst (registryOf ns rs).entries).flatMap (childEdges (parentMapOf document) (registryOf ns rs))

/-- The parts of a whole manifest. -/
def manifestParts (ns : Stripped) (document : Members) (rs : List Resource) : MappedParts :=
  .join (rs.map (Resource.parts ns)) ++ ⟨[], dependenciesOf ns document rs, []⟩

/-- What a mapped manifest came from: its resources, whose references are resolvable and whose parts fit together. -/
theorem mapDbtResult_ok {document : Members} {ns : Stripped} {defaultDatabase : Option Stripped}
    {result : GovernanceMappingResult} : mapDbtResult document ns defaultDatabase = .ok result ↔
      ∃ version rs, dbtVersionOf document = .ok version ∧ readResources ⟨ns, defaultDatabase, version⟩ document = .ok rs ∧
        (∀ child ∈ (registryOf ns rs).entries, ∀ ref ∈ parentRefs (Json.lookup (parentMapOf document) child.1),
          Resolvable (registryOf ns rs) (disabledOf document) ref) ∧
        (manifestParts ns document rs).result = .ok result := by
  rw [mapDbtResult, bind_eq_ok]
  constructor
  · rintro ⟨version, hversion, h⟩
    obtain ⟨st, hst, h⟩ := bind_eq_ok.mp h
    obtain ⟨edges, hedges, h⟩ := bind_eq_ok.mp h
    obtain ⟨rs, hrs, rfl⟩ := mapResources_ok.mp hst
    obtain ⟨hparts, hregistry⟩ := foldl_empty ns rs
    rw [hregistry] at hedges
    obtain ⟨hresolvable, rfl⟩ := mapDependencies_ok.mp hedges
    exact ⟨version, rs, hversion, hrs, hresolvable, (hparts.append (.refl _)).result (mapError_eq_ok.mp h)⟩
  · rintro ⟨version, rs, hversion, hrs, hresolvable, h⟩
    obtain ⟨hparts, hregistry⟩ := foldl_empty ns rs
    have hedges : mapDependencies (membersOf (Json.get document "parent_map")) (registryOf ns rs)
        (disabledIds (membersOf (Json.get document "disabled"))) = .ok (dependenciesOf ns document rs) :=
      mapDependencies_ok.mpr ⟨hresolvable, rfl⟩
    refine ⟨version, hversion, ?_⟩
    rw [mapResources_ok.mpr ⟨rs, hrs, rfl⟩, ok_bind, hregistry, hedges, ok_bind]
    exact mapError_eq_ok.mpr ((hparts.append (.refl _)).symm.result h)

end CollibraGovernance.Dbt
