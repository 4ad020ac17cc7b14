import CollibraGovernance.Dbt.Resources

/-! Which validated manifests are mapped: their databases are named, their references resolvable, their parts agree. -/
namespace CollibraGovernance.Dbt
open Library Identity Domain
open Odcs (strippedText textOf mappings)

/-! ### What the validator establishes -/

section Validated
variable {mapping resource document : Members} {key path collectionPath : String} {value : Json}

lemma requireText_ok {s : String} (h : requireText value path = .ok s) : value = .str s ∧ isBlank s = false := by
  unfold requireText at h
  split at h
  · split_ifs at h with hblank
    · cases h
    · obtain rfl := Except.ok.inj h
      exact ⟨rfl, Bool.not_eq_true _ ▸ hblank⟩
  · cases h

lemma lookup_of_get {s : String} (h : Json.get mapping key = .str s) : Json.lookup mapping key = some (.str s) := by
  unfold Json.get at h
  cases hlookup : Json.lookup mapping key with
  | none =>
    rw [hlookup] at h
    cases h
  | some j =>
    rw [hlookup] at h
    exact congrArg some h

lemma requiredText_of {s : String} (hlookup : Json.lookup mapping key = some (.str s)) (hblank : isBlank s = false) :
    requiredText mapping key = .ok (.of s hblank) := by
  rw [requiredText, hlookup, strippedText, dif_pos hblank]

/-- A text that was required is read. -/
lemma requiredText_ok {s : String} (h : textField mapping key path = .ok s) : ∃ t, requiredText mapping key = .ok t := by
  obtain ⟨hget, hblank⟩ := requireText_ok h
  exact ⟨_, requiredText_of (lookup_of_get hget) hblank⟩

lemma requireMapping_ok {members : Members} (h : requireMapping value path = .ok members) : value = .obj members := by
  unfold requireMapping at h
  split at h
  · rw [Except.ok.inj h]
  · cases h

lemma optionalField_ok {check : Json → String → Checked Unit} (h : optionalField mapping key path check = .ok ()) :
    ∀ v ∈ Json.lookup mapping key, check v (pointer path key) = .ok () := by
  intro v hv
  rw [Option.mem_def] at hv
  rw [optionalField, hv] at h
  exact h

lemma readColumn_of {column : Members} {t : Stripped} (h : requiredText column "name" = .ok t) :
    readColumn column = .ok ⟨t, normalizeDescription (Json.lookup column "description"),
      canonicalizeAttributesObject (some (columnAttributes column))⟩ := by
  rw [readColumn, h]
  rfl

/-- Columns that were validated are read. -/
lemma readColumns_ok (h : validateColumns value path = .ok ()) : ∃ columns, readColumns (some value) = .ok columns := by
  obtain ⟨members, hmembers, h⟩ := bind_eq_ok.mp h
  obtain rfl := requireMapping_ok hmembers
  refine exists_mapM_ok fun column hcolumn => ?_
  obtain ⟨v, hv, hobj⟩ := List.mem_filterMap.mp hcolumn
  obtain ⟨entry, hentry, rfl⟩ := List.mem_map.mp hv
  have hvalid := forM_eq_ok.mp h entry (mem_sortBy.mpr hentry)
  unfold validateColumn at hvalid
  split_ifs at hvalid
  · cases hvalid
  · obtain ⟨col, hcol, hvalid⟩ := bind_eq_ok.mp hvalid
    obtain ⟨name, hname, -⟩ := bind_eq_ok.mp hvalid
    rw [requireMapping_ok hcol] at hobj
    obtain rfl := Option.some.inj hobj
    obtain ⟨t, ht⟩ := requiredText_ok hname
    exact ⟨_, readColumn_of ht⟩

lemma readColumns_member (h : ∀ v ∈ Json.lookup resource "columns", validateColumns v path = .ok ()) :
    ∃ columns, readColumns (Json.lookup resource "columns") = .ok columns := by
  cases hlookup : Json.lookup resource "columns" with
  | none => exact ⟨[], rfl⟩
  | some v => exact readColumns_ok (h v hlookup)

/-- What every resource of a validated manifest provides. -/
structure Provides (key : String) (resource : Members) : Prop where
  uniqueId : Json.lookup resource "unique_id" = some (.str key)
  nonblank : isBlank key = false
  name : ∃ t, requiredText resource "name" = .ok t
  schema : ∃ t, requiredText resource "schema" = .ok t
  columns : ∃ columns, readColumns (Json.lookup resource "columns") = .ok columns

lemma provides_model (huid : Json.lookup resource "unique_id" = some (.str key)) (hblank : isBlank key = false)
    (h : validateModel resource path = .ok ()) : Provides key resource ∧ ∃ t, requiredText resource "alias" = .ok t := by
  obtain ⟨_, hname, h⟩ := bind_eq_ok.mp h
  obtain ⟨_, -, h⟩ := bind_eq_ok.mp h
  obtain ⟨_, hschema, h⟩ := bind_eq_ok.mp h
  obtain ⟨_, halias, h⟩ := bind_eq_ok.mp h
  obtain ⟨_, -, h⟩ := bind_eq_ok.mp h
  obtain ⟨_, -, h⟩ := bind_eq_ok.mp h
  obtain ⟨_, -, h⟩ := bind_eq_ok.mp h
  obtain ⟨_, -, h⟩ := bind_eq_ok.mp h
  obtain ⟨_, -, h⟩ := bind_eq_ok.mp h
  obtain ⟨⟨⟩, hcolumns, -⟩ := bind_eq_ok.mp h
  exact ⟨⟨huid, hblank, requiredText_ok hname, requiredText_ok hschema, readColumns_member (optionalField_ok hcolumns)⟩,
    requiredText_ok halias⟩

lemma provides_source (huid : Json.lookup resource "unique_id" = some (.str key)) (hblank : isBlank key = false)
    (h : validateSource resource path = .ok ()) :
    Provides key resource ∧ ∃ t, requiredText resource "identifier" = .ok t := by
  obtain ⟨_, hname, h⟩ := bind_eq_ok.mp h
  obtain ⟨_, -, h⟩ := bind_eq_ok.mp h
  obtain ⟨_, hschema, h⟩ := bind_eq_ok.mp h
  obtain ⟨_, hidentifier, h⟩ := bind_eq_ok.mp h
  obtain ⟨_, -, h⟩ := bind_eq_ok.mp h
  obtain ⟨_, -, h⟩ := bind_eq_ok.mp h
  obtain ⟨_, -, h⟩ := bind_eq_ok.mp h
  obtain ⟨_, -, h⟩ := bind_eq_ok.mp h
  obtain ⟨_, -, h⟩ := bind_eq_ok.mp h
  obtain ⟨⟨⟩, hcolumns, -⟩ := bind_eq_ok.mp h
  exact ⟨⟨huid, hblank, requiredText_ok hname, requiredText_ok hschema, readColumns_member (optionalField_ok hcolumns)⟩,
    requiredText_ok hidentifier⟩

/-- A validated entry of a type, with its key and the checks of the type. -/
lemma validateResourceEntry_ok {expected : Option String} {t : String}
    (h : validateResourceEntry collectionPath expected (key, .obj resource) = .ok ())
    (htype : Json.lookup resource "resource_type" = some (.str t)) :
    Json.lookup resource "unique_id" = some (.str key) ∧ isBlank key = false ∧
      (if t = resourceTypeModel then validateModel resource (pointer collectionPath key)
        else if t = resourceTypeSource then validateSource resource (pointer collectionPath key) else .ok ()) = .ok () := by
  unfold validateResourceEntry at h
  dsimp only at h
  split_ifs at h
  · cases h
  · obtain ⟨node, hnode, h⟩ := bind_eq_ok.mp h
    obtain rfl := Json.obj.inj (requireMapping_ok hnode)
    obtain ⟨uniqueId, huid, h⟩ := bind_eq_ok.mp h
    obtain ⟨huid, hblank⟩ := requireText_ok huid
    split_ifs at h with hkey
    · cases h
    · rw [not_not] at hkey
      subst hkey
      obtain ⟨resourceType, hresourceType, h⟩ := bind_eq_ok.mp h
      have hsame := lookup_of_get (requireText_ok hresourceType).1
      rw [htype] at hsame
      obtain rfl := Json.str.inj (Option.some.inj hsame)
      split_ifs at h with hexpected hmodel hsource
      · cases h
      · exact ⟨lookup_of_get huid, hblank, by rw [if_pos hmodel]; exact h⟩
      · exact ⟨lookup_of_get huid, hblank, by rw [if_neg hmodel, if_pos hsource]; exact h⟩
      · exact ⟨lookup_of_get huid, hblank, by rw [if_neg hmodel, if_neg hsource]⟩

end Validated

/-! ### Reading the resources -/

section Read
variable {c : Context} {key path tableKey : String} {resource attributes : Members} {placement : Placement}
  {name : Stripped}

/-- A resource that stands in a database names it, unless a default is given. -/
def DatabaseGiven (defaultDatabase : Option Stripped) (resource : Members) : Prop :=
  defaultDatabase.isSome = true ∨ (strippedText (Json.lookup resource "database")).isSome = true

lemma effectiveDatabase_isOk :
    (∃ database, effectiveDatabase c path resource = .ok database) ↔ DatabaseGiven c.defaultDatabase resource := by
  unfold effectiveDatabase DatabaseGiven
  cases strippedText (Json.lookup resource "database") <;> cases c.defaultDatabase <;> simp

lemma transformationLogicalId_nonblank (model : Members) : isBlank (transformationLogicalId model) = false := by
  rw [transformationLogicalId, isBlank, Json.canonicalJson, Json.normalize_arr, List.map_cons, Json.encode,
    String.toList_ofList, List.all_cons]
  rfl

/-- A resource is read under its key. -/
lemma placedResource_ok (h : Provides key resource) : ∃ r, placedResource c resource placement name attributes = .ok r := by
  obtain ⟨columns, hcolumns⟩ := h.columns
  rw [placedResource, requiredText_of h.uniqueId h.nonblank, ok_bind, hcolumns]
  exact ⟨_, rfl⟩

lemma placedResource_uniqueId {r : Resource} (h : Json.lookup resource "unique_id" = some (.str key))
    (hr : placedResource c resource placement name attributes = .ok r) : r.uniqueId = key := by
  obtain ⟨_, -, hr⟩ := bind_eq_ok.mp hr
  obtain ⟨_, -, hr⟩ := bind_eq_ok.mp hr
  obtain rfl := pure_eq_ok.mp hr
  rw [h]
  rfl

lemma relationResource_isOk (h : Provides key resource) (htable : ∃ t, requiredText resource tableKey = .ok t) :
    (∃ r, relationResource c path tableKey resource attributes = .ok r) ↔ DatabaseGiven c.defaultDatabase resource := by
  obtain ⟨schema, hschema⟩ := h.schema
  obtain ⟨table, htable⟩ := htable
  rw [← @effectiveDatabase_isOk c path resource]
  constructor
  · rintro ⟨r, hr⟩
    obtain ⟨database, hdatabase, -⟩ := bind_eq_ok.mp hr
    exact ⟨database, hdatabase⟩
  · rintro ⟨database, hdatabase⟩
    rw [relationResource, hdatabase, ok_bind, hschema, ok_bind, htable, ok_bind]
    exact placedResource_ok h

lemma relationResource_uniqueId {r : Resource} (h : Json.lookup resource "unique_id" = some (.str key))
    (hr : relationResource c path tableKey resource attributes = .ok r) : r.uniqueId = key := by
  obtain ⟨_, -, hr⟩ := bind_eq_ok.mp hr
  obtain ⟨_, -, hr⟩ := bind_eq_ok.mp hr
  obtain ⟨_, -, hr⟩ := bind_eq_ok.mp hr
  exact placedResource_uniqueId h hr

/-- A model is read where it is ephemeral or its database is given. -/
theorem modelResource_isOk (h : Provides key resource) (halias : ∃ t, requiredText resource "alias" = .ok t) :
    (∃ r, modelResource c path resource = .ok r) ↔
      (isEphemeral resource = false → DatabaseGiven c.defaultDatabase resource) := by
  unfold modelResource
  cases isEphemeral resource with
  | true =>
    obtain ⟨name, hname⟩ := h.name
    rw [if_pos rfl, requireNonEmptyStr, dif_pos (transformationLogicalId_nonblank resource), mapError_eq_ok.mpr rfl, ok_bind,
      hname, ok_bind]
    exact iff_of_true (placedResource_ok h) (fun hfalse => by cases hfalse)
  | false =>
    rw [if_neg Bool.false_ne_true, relationResource_isOk h halias]
    exact ⟨fun hgiven _ => hgiven, fun hgiven => hgiven rfl⟩

lemma sourceResource_isOk (h : Provides key resource) (hidentifier : ∃ t, requiredText resource "identifier" = .ok t) :
    (∃ r, sourceResource c path resource = .ok r) ↔ DatabaseGiven c.defaultDatabase resource :=
  relationResource_isOk h hidentifier

lemma modelResource_uniqueId {r : Resource} (h : Json.lookup resource "unique_id" = some (.str key))
    (hr : modelResource c path resource = .ok r) : r.uniqueId = key := by
  unfold modelResource at hr
  split_ifs at hr
  · obtain ⟨_, -, hr⟩ := bind_eq_ok.mp hr
    obtain ⟨_, -, hr⟩ := bind_eq_ok.mp hr
    exact placedResource_uniqueId h hr
  · exact relationResource_uniqueId h hr

end Read

/-! ### The resources of a validated manifest -/

section Manifest
variable {c : Context} {document members : Members} {resourceType : String} {collection : Members}

lemma mem_resourcesOf {e : String × Members} : e ∈ resourcesOf resourceType collection ↔
    (e.1, .obj e.2) ∈ collection ∧ Json.lookup e.2 "resource_type" = some (.str resourceType) := by
  rw [resourcesOf, List.mem_filterMap]
  constructor
  · rintro ⟨⟨key, value⟩, hmem, h⟩
    cases value with
    | obj resource =>
      dsimp only at h
      split_ifs at h with htype
      obtain rfl := Option.some.inj h
      exact ⟨mem_sortBy.mp hmem, htype⟩
    | _ => cases h
  · rintro ⟨hmem, htype⟩
    refine ⟨_, mem_sortBy.mpr hmem, ?_⟩
    dsimp only
    rw [if_pos htype]

/-- The models of a manifest, with their keys. -/
def modelsOf (document : Members) : List (String × Members) :=
  resourcesOf resourceTypeModel (membersOf (Json.get document "nodes"))

def sourcesOf (document : Members) : List (String × Members) :=
  resourcesOf resourceTypeSource (membersOf (Json.get document "sources"))

/-- The ids of the resources that are mapped. -/
def mappedIds (document : Members) : List String := (modelsOf document ++ sourcesOf document).map Prod.fst

/-- What the validator establishes of a manifest, as far as the mapper reads it. -/
structure Validated (document : Members) : Prop where
  version : ∃ version, dbtVersionOf document = .ok version
  models : ∀ e ∈ modelsOf document, Provides e.1 e.2 ∧ ∃ t, requiredText e.2 "alias" = .ok t
  sources : ∀ e ∈ sourcesOf document, Provides e.1 e.2 ∧ ∃ t, requiredText e.2 "identifier" = .ok t

lemma requiredMember_ok {key path : String} {value : Json} (h : requiredMember document key path = .ok value) :
    Json.get document key = value := by
  unfold requiredMember at h
  split at h
  · rename_i v hlookup
    rw [Json.get_of_lookup hlookup, Except.ok.inj h]
  · cases h

lemma membersOf_required {key path place : String} {value : Json} (h : requiredMember document key path = .ok value)
    (hmapping : requireMapping value place = .ok members) : membersOf (Json.get document key) = members := by
  rw [requiredMember_ok h, requireMapping_ok hmapping]
  rfl

lemma gateManifestVersion_ok (h : gateManifestVersion document = .ok ()) :
    ∃ version, dbtVersionOf document = .ok version := by
  obtain ⟨value, hvalue, h⟩ := bind_eq_ok.mp h
  obtain ⟨metadata, hmetadata, h⟩ := bind_eq_ok.mp h
  obtain ⟨_, -, h⟩ := bind_eq_ok.mp h
  obtain ⟨_, -, h⟩ := bind_eq_ok.mp h
  split_ifs at h
  obtain ⟨dbtVersion, hversion, h⟩ := bind_eq_ok.mp h
  obtain ⟨version, htext, -⟩ := bind_eq_ok.mp h
  rw [dbtVersionOf, membersOf_required hvalue hmetadata]
  obtain ⟨rfl, hblank⟩ := requireText_ok htext
  exact ⟨_, requiredText_of (lookup_of_get (requiredMember_ok hversion)) hblank⟩

theorem validated_of {manifest : Json} (h : validateDbtManifest manifest = .ok document) : Validated document := by
  unfold validateDbtManifest at h
  split_ifs at h
  · cases h
  · split at h
    · obtain ⟨⟨⟩, hmembers, h⟩ := bind_eq_ok.mp h
      obtain rfl := pure_eq_ok.mp h
      obtain ⟨⟨⟩, hgate, hmembers⟩ := bind_eq_ok.mp hmembers
      obtain ⟨nodes, hnodes, hmembers⟩ := bind_eq_ok.mp hmembers
      obtain ⟨sources, hsources, hmembers⟩ := bind_eq_ok.mp hmembers
      obtain ⟨_, -, hmembers⟩ := bind_eq_ok.mp hmembers
      obtain ⟨_, -, hmembers⟩ := bind_eq_ok.mp hmembers
      obtain ⟨nodeMembers, hnodeMembers, hmembers⟩ := bind_eq_ok.mp hmembers
      obtain ⟨sourceMembers, hsourceMembers, hmembers⟩ := bind_eq_ok.mp hmembers
      obtain ⟨_, -, hmembers⟩ := bind_eq_ok.mp hmembers
      obtain ⟨_, -, hmembers⟩ := bind_eq_ok.mp hmembers
      obtain ⟨⟨⟩, hnodesValid, hmembers⟩ := bind_eq_ok.mp hmembers
      obtain ⟨⟨⟩, hsourcesValid, -⟩ := bind_eq_ok.mp hmembers
      refine ⟨gateManifestVersion_ok hgate, fun e he => ?_, fun e he => ?_⟩
      · rw [modelsOf, membersOf_required hnodes hnodeMembers, mem_resourcesOf] at he
        have hentry := forM_eq_ok.mp hnodesValid _ (mem_sortBy.mpr he.1)
        obtain ⟨huid, hblank, hvalid⟩ := validateResourceEntry_ok hentry he.2
        rw [if_pos rfl] at hvalid
        exact provides_model huid hblank hvalid
      · rw [sourcesOf, membersOf_required hsources hsourceMembers, mem_resourcesOf] at he
        have hentry := forM_eq_ok.mp hsourcesValid _ (mem_sortBy.mpr he.1)
        obtain ⟨huid, hblank, hvalid⟩ := validateResourceEntry_ok hentry he.2
        rw [if_neg (by decide), if_pos rfl] at hvalid
        exact provides_source huid hblank hvalid
    · cases h

/-- Every resource that stands in a database names it, unless a default is given. -/
def DatabasesGiven (defaultDatabase : Option Stripped) (document : Members) : Prop :=
  (∀ e ∈ modelsOf document, isEphemeral e.2 = false → DatabaseGiven defaultDatabase e.2) ∧
    ∀ e ∈ sourcesOf document, DatabaseGiven defaultDatabase e.2

theorem readResources_isOk (h : Validated document) :
    (∃ rs, readResources c document = .ok rs) ↔ DatabasesGiven c.defaultDatabase document := by
  constructor
  · rintro ⟨rs, hrs⟩
    obtain ⟨models, hmodels, hrs⟩ := bind_eq_ok.mp hrs
    obtain ⟨sources, hsources, -⟩ := bind_eq_ok.mp hrs
    refine ⟨fun e he => ?_, fun e he => ?_⟩
    · obtain ⟨r, -, hr⟩ := (mapM_mem hmodels).2 e he
      exact (modelResource_isOk (h.models e he).1 (h.models e he).2).mp ⟨r, hr⟩
    · obtain ⟨r, -, hr⟩ := (mapM_mem hsources).2 e he
      exact (sourceResource_isOk (h.sources e he).1 (h.sources e he).2).mp ⟨r, hr⟩
  · rintro ⟨hgiven, hgiven'⟩
    have hmodels : ∃ models, (modelsOf document).mapM (fun e => modelResource c (pointer "/nodes" e.1) e.2) = .ok models :=
      exists_mapM_ok fun e he => (modelResource_isOk (h.models e he).1 (h.models e he).2).mpr (hgiven e he)
    have hsources : ∃ sources, (sourcesOf document).mapM (fun e => sourceResource c (pointer "/sources" e.1) e.2) =
        .ok sources :=
      exists_mapM_ok fun e he => (sourceResource_isOk (h.sources e he).1 (h.sources e he).2).mpr (hgiven' e he)
    obtain ⟨models, hmodels⟩ := hmodels
    obtain ⟨sources, hsources⟩ := hsources
    exact ⟨models ++ sources, bind_eq_ok.mpr ⟨models, hmodels, bind_eq_ok.mpr ⟨sources, hsources, rfl⟩⟩⟩

/-- The resources are read under the ids of the manifest. -/
lemma readResources_ids (h : Validated document) {rs : List Resource} (hrs : readResources c document = .ok rs) :
    rs.map Resource.uniqueId = mappedIds document := by
  obtain ⟨models, hmodels, hrs⟩ := bind_eq_ok.mp hrs
  obtain ⟨sources, hsources, hrs⟩ := bind_eq_ok.mp hrs
  obtain rfl := pure_eq_ok.mp hrs
  rw [List.map_append, mappedIds, List.map_append]
  congr 1
  · exact mapM_map_of_mem (fun e he r hr => modelResource_uniqueId (h.models e he).1.uniqueId hr) hmodels
  · exact mapM_map_of_mem (fun e he r hr => relationResource_uniqueId (h.sources e he).1.uniqueId hr) hsources

end Manifest

/-! ### The parts fit together -/

section Fit
variable {ns : Stripped} {document : Members} {rs : List Resource} {n n' : GraphNode}

/-- The nodes that resources state: their own, and those of their columns. -/
def Stated (ns : Stripped) (rs : List Resource) (n : GraphNode) : Prop :=
  ∃ r ∈ rs, n = r.node ns ∨ ∃ column ∈ r.columns, n = r.columnNode ns column

/-- Nodes that are stated for one identity say the same. -/
def Agree (ns : Stripped) (rs : List Resource) : Prop :=
  ∀ n n', Stated ns rs n → Stated ns rs n' → n.identity = n'.identity → n.materialPayload = n'.materialPayload

/-- The nodes of the databases and schemas in which resources stand. -/
def Containing (ns : Stripped) (rs : List Resource) (n : GraphNode) : Prop :=
  ∃ r ∈ rs, n ∈ (r.placement.containers ns).nodes

lemma mem_containers {p : Placement} : n ∈ (p.containers ns).nodes ↔ ∃ database schema table,
    p = .relation database schema table ∧ (n = MapState.containerNode (databaseIdentity ns database) database ∨
      n = MapState.containerNode (schemaIdentity ns database schema) schema) := by
  cases p with
  | transformation logicalId => simp [Placement.containers]
  | relation database schema table => simp [Placement.containers]

lemma mem_own {r : Resource} : n ∈ (r.own ns).nodes ↔ n = r.node ns ∨ ∃ column ∈ r.columns, n = r.columnNode ns column := by
  simp [Resource.own, MappedParts.observed, MappedParts.join, Resource.columnParts, eq_comm]

theorem mem_manifestParts : n ∈ (manifestParts ns document rs).nodes ↔ Containing ns rs n ∨ Stated ns rs n := by
  rw [manifestParts, MappedParts.nodes_append, List.append_nil, MappedParts.join, List.mem_flatMap]
  simp only [List.mem_map, exists_exists_and_eq_and, Resource.parts, MappedParts.nodes_append, List.mem_append, mem_own]
  constructor
  · rintro ⟨r, hr, hcontainer | hown⟩
    · exact Or.inl ⟨r, hr, hcontainer⟩
    · exact Or.inr ⟨r, hr, hown⟩
  · rintro (⟨r, hr, hcontainer⟩ | ⟨r, hr, hown⟩)
    · exact ⟨r, hr, Or.inl hcontainer⟩
    · exact ⟨r, hr, Or.inr hown⟩

/-- One stands in the other: a schema in its database, a table in its schema, a column in its resource. -/
inductive Contained (ns : Stripped) (rs : List Resource) : GraphNodeIdentity → GraphNodeIdentity → Prop where
  | schema {r : Resource} {database schema table : Stripped} (hr : r ∈ rs)
      (h : r.placement = .relation database schema table) :
      Contained ns rs (databaseIdentity ns database) (schemaIdentity ns database schema)
  | table {r : Resource} {database schema table : Stripped} (hr : r ∈ rs)
      (h : r.placement = .relation database schema table) :
      Contained ns rs (schemaIdentity ns database schema) (r.identity ns)
  | column {r : Resource} {column : Column} (hr : r ∈ rs) (hcolumn : column ∈ r.columns) :
      Contained ns rs (r.identity ns) (r.columnIdentity ns column)

lemma mem_containerEdges {p : Placement} {e : GraphEdge} : e ∈ (p.containers ns).edges ↔
    ∃ database schema table, p = .relation database schema table ∧
      e = mappedEdge (databaseIdentity ns database) (schemaIdentity ns database schema) kindContains [] := by
  cases p with
  | transformation logicalId => simp [Placement.containers]
  | relation database schema table => simp [Placement.containers]

lemma mem_parent {p : Placement} {parent : GraphNodeIdentity} : parent ∈ (p.identity ns).parent ↔
    ∃ database schema table, p = .relation database schema table ∧ parent = schemaIdentity ns database schema := by
  cases p with
  | transformation logicalId => simp [Placement.identity, GraphNodeIdentity.parent]
  | relation database schema table => simp [Placement.identity, GraphNodeIdentity.parent, eq_comm]

lemma mem_ownEdges {r : Resource} {e : GraphEdge} : e ∈ (r.own ns).edges ↔
    (∃ parent ∈ (r.identity ns).parent, e = mappedEdge parent (r.identity ns) kindContains []) ∨
      ∃ column ∈ r.columns, e = mappedEdge (r.identity ns) (r.columnIdentity ns column) kindContains [] := by
  simp [Resource.own, MappedParts.observed, MappedParts.join, Resource.columnParts, eq_comm]

/-- The edges of a manifest are those of containment and those of its dependencies. -/
theorem mem_manifestEdges {e : GraphEdge} : e ∈ (manifestParts ns document rs).edges ↔
    (∃ parent child, Contained ns rs parent child ∧ e = mappedEdge parent child kindContains []) ∨
      e ∈ dependenciesOf ns document rs := by
  rw [manifestParts, MappedParts.edges_append, List.mem_append, MappedParts.join, List.mem_flatMap]
  refine or_congr_left ?_
  simp only [List.mem_map, exists_exists_and_eq_and, Resource.parts, MappedParts.edges_append, List.mem_append,
    mem_containerEdges, mem_ownEdges, Resource.identity]
  constructor
  · rintro ⟨r, hr, ⟨database, schema, table, h, rfl⟩ | ⟨parent, hparent, rfl⟩ | ⟨column, hcolumn, rfl⟩⟩
    · exact ⟨_, _, .schema hr h, rfl⟩
    · obtain ⟨database, schema, table, h, rfl⟩ := mem_parent.mp hparent
      exact ⟨_, _, .table hr h, rfl⟩
    · exact ⟨_, _, .column hr hcolumn, rfl⟩
  · rintro ⟨parent, child, hcontained, rfl⟩
    cases hcontained with
    | schema hr h => exact ⟨_, hr, Or.inl ⟨_, _, _, h, rfl⟩⟩
    | table hr h => exact ⟨_, hr, Or.inr (Or.inl ⟨_, mem_parent.mpr ⟨_, _, _, h, rfl⟩, rfl⟩)⟩
    | column hr hcolumn => exact ⟨_, hr, Or.inr (Or.inr ⟨_, hcolumn, rfl⟩)⟩

/-- The identities that a manifest states. -/
def Listed (ns : Stripped) (document : Members) (rs : List Resource) (i : GraphNodeIdentity) : Prop :=
  i ∈ (manifestParts ns document rs).nodes.map GraphNode.identity

lemma listed_of (h : Containing ns rs n ∨ Stated ns rs n) : Listed ns document rs n.identity :=
  List.mem_map_of_mem (mem_manifestParts.mpr h)

lemma listed_resource {r : Resource} (hr : r ∈ rs) : Listed ns document rs (r.identity ns) :=
  listed_of (n := r.node ns) (Or.inr ⟨r, hr, Or.inl rfl⟩)

lemma listed_containers {r : Resource} {database schema table : Stripped} (hr : r ∈ rs)
    (h : r.placement = .relation database schema table) : Listed ns document rs (databaseIdentity ns database) ∧
      Listed ns document rs (schemaIdentity ns database schema) := by
  refine ⟨?_, ?_⟩
  · exact listed_of (n := MapState.containerNode (databaseIdentity ns database) database)
      (Or.inl ⟨r, hr, mem_containers.mpr ⟨_, _, _, h, Or.inl rfl⟩⟩)
  · exact listed_of (n := MapState.containerNode (schemaIdentity ns database schema) schema)
      (Or.inl ⟨r, hr, mem_containers.mpr ⟨_, _, _, h, Or.inr rfl⟩⟩)

lemma listed_ancestors {r : Resource} (hr : r ∈ rs) :
    ∀ a ∈ (r.identity ns).ancestors, Listed ns document rs a := by
  intro a ha
  cases hplacement : r.placement with
  | transformation logicalId =>
    rw [Resource.identity, hplacement, Placement.identity, GraphNodeIdentity.ancestors_root] at ha
    cases ha
  | relation database schema table =>
    have hcontainers : Listed ns document rs (databaseIdentity ns database) ∧
        Listed ns document rs (schemaIdentity ns database schema) := listed_containers hr hplacement
    rw [Resource.identity, hplacement, Placement.identity, GraphNodeIdentity.ancestors_child, schemaIdentity,
      GraphNodeIdentity.ancestors_child, databaseIdentity, GraphNodeIdentity.ancestors_root] at ha
    rcases List.mem_cons.mp ha with rfl | ha
    · exact hcontainers.2
    · rw [List.mem_singleton.mp ha]
      exact hcontainers.1

/-- What contains, and what is contained, is listed. -/
lemma listed_contained {parent child : GraphNodeIdentity} (h : Contained ns rs parent child) :
    Listed ns document rs parent ∧ Listed ns document rs child := by
  cases h with
  | schema hr h => exact listed_containers hr h
  | table hr h => exact ⟨(listed_containers hr h).2, listed_resource hr⟩
  | @column r column hr hcolumn =>
    exact ⟨listed_resource hr, listed_of (n := r.columnNode ns column) (Or.inr ⟨r, hr, Or.inr ⟨column, hcolumn, rfl⟩⟩)⟩

lemma registered_of {id : String} {registered : Registered} (h : (registryOf ns rs).get? id = some registered) :
    ∃ r ∈ rs, r.uniqueId = id ∧ registered = ⟨r.identity ns, r.record⟩ := by
  obtain ⟨r, hr, hid, hregistered⟩ := Dict.exists_of_mem_index (Dict.get?_eq_some.mp h)
  exact ⟨r, hr, hid, hregistered.symm⟩

/-- A container is known by its identity, whose kind is that of a database or a schema. -/
lemma containing_eq (h : Containing ns rs n) :
    n = MapState.containerNode n.identity n.identity.logicalId ∧ n.identity.kind ∈ [kindDataSource, kindDataset] := by
  obtain ⟨r, -, hcontainer⟩ := h
  obtain ⟨database, schema, table, -, rfl | rfl⟩ := mem_containers.mp hcontainer
  · exact ⟨rfl, List.mem_cons_self ..⟩
  · exact ⟨rfl, List.mem_cons_of_mem _ (List.mem_cons_self ..)⟩

lemma stated_kind (h : Stated ns rs n) : n.identity.kind ∉ [kindDataSource, kindDataset] := by
  have hkind : n.identity.kind ∈ [kindTransformation, kindTable, kindColumn] := by
    obtain ⟨r, -, rfl | ⟨column, -, rfl⟩⟩ := h
    · change (r.placement.identity ns).kind ∈ _
      cases r.placement with
      | transformation logicalId => exact List.mem_cons_self ..
      | relation database schema table => exact List.mem_cons_of_mem _ (List.mem_cons_self ..)
    · exact List.mem_cons_of_mem _ (List.mem_cons_of_mem _ (List.mem_cons_self ..))
  have hdisjoint : ∀ k ∈ [kindTransformation, kindTable, kindColumn], k ∉ [kindDataSource, kindDataset] := by decide
  exact hdisjoint _ hkind

/-- The parts of a manifest make a graph exactly where the nodes that are stated for one identity say the same. -/
theorem admissible_iff : Admissible (manifestParts ns document rs).nodes (manifestParts ns document rs).edges ↔
    Agree ns rs := by
  constructor
  · intro h n n' hn hn' hsame
    exact h.nodes_agree n (mem_manifestParts.mpr (Or.inr hn)) n' (mem_manifestParts.mpr (Or.inr hn')) hsame
  · intro hagree
    refine ⟨fun n hn n' hn' hsame => ?_, fun n hn a ha => ?_, fun e he => ?_, fun e he e' he' _ => ?_⟩
    · rcases mem_manifestParts.mp hn with hn | hn <;> rcases mem_manifestParts.mp hn' with hn' | hn'
      · rw [(containing_eq hn).1, (containing_eq hn').1, hsame]
      · exact absurd (hsame ▸ (containing_eq hn).2) (stated_kind hn')
      · exact absurd (hsame ▸ (containing_eq hn').2) (stated_kind hn)
      · exact hagree n n' hn hn' hsame
    · rcases mem_manifestParts.mp hn with ⟨r, hr, hcontainer⟩ | ⟨r, hr, rfl | ⟨column, -, rfl⟩⟩
      · obtain ⟨database, schema, table, hplacement, rfl | rfl⟩ := mem_containers.mp hcontainer
        · cases ha
        · have hdatabase : a ∈ (schemaIdentity ns database schema).ancestors := ha
          rw [schemaIdentity, GraphNodeIdentity.ancestors_child, databaseIdentity, GraphNodeIdentity.ancestors_root,
            List.mem_singleton] at hdatabase
          rw [hdatabase]
          exact (listed_containers hr hplacement).1
      · exact listed_ancestors hr a ha
      · have hcolumn : a ∈ (r.columnIdentity ns column).ancestors := ha
        rw [Resource.columnIdentity, GraphNodeIdentity.ancestors_child] at hcolumn
        rcases List.mem_cons.mp hcolumn with rfl | hcolumn
        · exact listed_resource hr
        · exact listed_ancestors hr a hcolumn
    · rcases mem_manifestEdges.mp he with ⟨parent, child, hcontained, rfl⟩ | he
      · exact listed_contained hcontained
      · obtain ⟨_, child, _, parent, hchild, -, hparent, rfl⟩ := mem_dependencies.mp he
        obtain ⟨r, hr, -, rfl⟩ := registered_of hchild
        obtain ⟨r', hr', -, rfl⟩ := registered_of hparent
        exact ⟨listed_resource hr, listed_resource hr'⟩
    · have hattributes : ∀ e ∈ (manifestParts ns document rs).edges, e.attributes = canonicalizeAttributesObject none := by
        intro e he
        rcases mem_manifestEdges.mp he with ⟨parent, child, -, rfl⟩ | he
        · rfl
        · obtain ⟨_, child, _, parent, -, -, -, rfl⟩ := mem_dependencies.mp he
          rfl
      rw [hattributes e he, hattributes e' he']

end Fit

/-! ### Acceptance -/

/-- Every reference of a mapped resource is to a mapped or a disabled one, or to none that has to be resolved. -/
def ParentsResolvable (document : Members) : Prop :=
  ∀ id ∈ mappedIds document, ∀ ref ∈ parentRefs (Json.lookup (parentMapOf document) id),
    ref ∈ mappedIds document ∨ ref ∈ disabledOf document ∨ mustResolve ref = false

section Accept
variable {document : Members} {ns : Stripped} {defaultDatabase : Option Stripped} {rs : List Resource}

lemma mem_registry {c : Context} (h : Validated document) (hrs : readResources c document = .ok rs) {id : String} :
    (∃ registered, (registryOf ns rs).get? id = some registered) ↔ id ∈ mappedIds document := by
  rw [← Dict.mem_keys_iff, registryOf, Dict.mem_keys_index, ← readResources_ids h hrs, List.mem_map]

lemma parentsResolvable_iff {c : Context} (h : Validated document) (hrs : readResources c document = .ok rs) :
    (∀ child ∈ (registryOf ns rs).entries, ∀ ref ∈ parentRefs (Json.lookup (parentMapOf document) child.1),
      Resolvable (registryOf ns rs) (disabledOf document) ref) ↔ ParentsResolvable document := by
  constructor
  · intro hresolvable id hid ref href
    obtain ⟨registered, hregistered⟩ := (mem_registry h hrs).mpr hid
    exact (hresolvable _ (Dict.get?_eq_some.mp hregistered) ref href).imp_left (mem_registry h hrs).mp
  · intro hresolvable child hchild ref href
    have hid := (mem_registry h hrs).mp ⟨child.2, Dict.get?_eq_some.mpr hchild⟩
    exact (hresolvable child.1 hid ref href).imp_left (mem_registry h hrs).mpr

/-- A validated manifest is mapped exactly where its databases are given, its references are resolvable and the nodes
that its resources state for one identity say the same. -/
theorem mapDbtResult_isOk (h : Validated document) :
    (∃ result, mapDbtResult document ns defaultDatabase = .ok result) ↔
      DatabasesGiven defaultDatabase document ∧ ParentsResolvable document ∧
        ∀ version rs, dbtVersionOf document = .ok version →
          readResources ⟨ns, defaultDatabase, version⟩ document = .ok rs → Agree ns rs := by
  constructor
  · rintro ⟨result, hresult⟩
    obtain ⟨version, rs, hversion, hrs, hresolvable, hparts⟩ := mapDbtResult_ok.mp hresult
    refine ⟨(readResources_isOk h).mp ⟨rs, hrs⟩, (parentsResolvable_iff h hrs).mp hresolvable, fun version' rs' hv hr => ?_⟩
    obtain rfl := Except.ok.inj (hversion.symm.trans hv)
    obtain rfl := Except.ok.inj (hrs.symm.trans hr)
    exact admissible_iff.mp (GovernanceGraph.fromParts_isOk_iff.mp ⟨_, (MappedParts.result_eq_ok.mp hparts).1⟩)
  · rintro ⟨hgiven, hresolvable, hagree⟩
    obtain ⟨version, hversion⟩ := h.version
    obtain ⟨rs, hrs⟩ := (readResources_isOk (c := ⟨ns, defaultDatabase, version⟩) h).mpr hgiven
    obtain ⟨graph, hgraph⟩ := GovernanceGraph.fromParts_isOk_iff.mpr (admissible_iff.mpr (hagree version rs hversion hrs))
    exact ⟨⟨graph, (manifestParts ns document rs).observations⟩, mapDbtResult_ok.mpr ⟨version, rs, hversion, hrs,
      (parentsResolvable_iff h hrs).mpr hresolvable, MappedParts.result_eq_ok.mpr ⟨hgraph, rfl⟩⟩⟩

end Accept
end CollibraGovernance.Dbt
