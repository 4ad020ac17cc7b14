import CollibraGovernance.Comparison.RoundTrip
import CollibraGovernance.Domain.PhysicalProjection
import CollibraGovernance.Observations.Artifact

/-! A written observation set is loaded back equal. -/
namespace CollibraGovernance.Observations
open Library Identity Domain Comparison

/-- Every kind from the node up to its root is one the schema admits. -/
def admitted : GraphNodeIdentity → Bool
  | .root _ kind _ _ => admittedKinds.contains kind.val
  | .child _ kind _ parent => admittedKinds.contains kind.val && admitted parent

section Schema

lemma text_stripped (s : Stripped) : JsonSchema.text 1 (.str s.val) = true :=
  text_of_ne (ne_empty_of_not_blank s.nonblank)

lemma descends_graphNodeIdentityStep : JsonSchema.Descends graphNodeIdentityStep := by
  intro p q j h
  cases j with
  | obj members =>
    apply JsonSchema.object_congr
    have hparent : ∀ m ∈ members, optionalSchema p m.2 = optionalSchema q m.2 := by
      intro m hm
      simp only [optionalSchema, JsonSchema.oneOf, List.countP_cons, h m.2 (Json.depth_lt_obj hm)]
    exact .cons ⟨rfl, rfl, fun _ _ => rfl⟩ (.cons ⟨rfl, rfl, fun _ _ => rfl⟩
      (.cons ⟨rfl, rfl, fun _ _ => rfl⟩ (.cons ⟨rfl, rfl, hparent⟩ .nil)))
  | _ => rfl

/-- The schema accepts an identity exactly when it admits all its kinds. -/
theorem graphNodeIdentitySchema_toDict (i : GraphNodeIdentity) : graphNodeIdentitySchema i.toDict = admitted i := by
  induction i with
  | root n k l h =>
    have hparent : optionalSchema graphNodeIdentitySchema .null = true := by decide
    rw [graphNodeIdentitySchema, JsonSchema.recursive_eq descends_graphNodeIdentityStep, ← graphNodeIdentitySchema]
    simp [graphNodeIdentityStep, GraphNodeIdentity.toDict, JsonSchema.object, JsonSchema.texts, Json.lookup,
      text_stripped, hparent, admitted]
  | child n k l p ih =>
    have hparent : optionalSchema graphNodeIdentitySchema p.toDict = admitted p := by
      rw [Bool.eq_iff_iff, optionalSchema, JsonSchema.oneOf_pair, ← ih]
      cases p <;> simp [GraphNodeIdentity.toDict, JsonSchema.isNull, JsonSchema.constant]
    rw [graphNodeIdentitySchema, JsonSchema.recursive_eq descends_graphNodeIdentityStep, ← graphNodeIdentitySchema]
    simp [graphNodeIdentityStep, GraphNodeIdentity.toDict, JsonSchema.object, JsonSchema.texts, Json.lookup,
      text_stripped, hparent, admitted]

lemma provenanceRecordSchema_toDict (r : ProvenanceRecord) : provenanceRecordSchema r.toDict = true := by
  have hversion : optionalSchema (JsonSchema.text 1) r.versionJson = true := by
    rw [optionalSchema, JsonSchema.oneOf_pair, ProvenanceRecord.versionJson]
    cases r.sourceVersion with
    | none => exact Or.inl ⟨rfl, rfl⟩
    | some v => exact Or.inr ⟨rfl, text_stripped v⟩
  have hmode : JsonSchema.texts ["declared", "observed", "derived"] (.str r.observationMode.value) = true := by
    cases r.observationMode <;> decide
  simp [provenanceRecordSchema, ProvenanceRecord.toDict, JsonSchema.object, Json.lookup, text_stripped, hversion,
    hmode]

/-- A list of records, of which there is one. -/
lemma provenanceSchema_of {records : List ProvenanceRecord} (h : records ≠ []) :
    JsonSchema.sized 1 none provenanceRecordSchema (.arr (records.map ProvenanceRecord.toDict)) = true := by
  refine JsonSchema.sized_iff.mpr ⟨?_, by rintro n ⟨⟩, ?_⟩
  · rw [List.length_map]
    exact List.length_pos_iff.mpr h
  · intro j hj
    obtain ⟨r, -, rfl⟩ := List.mem_map.mp hj
    exact provenanceRecordSchema_toDict r

lemma toPointer_ne (p : PropertyPath) : p.toPointer ≠ "" := by
  intro h
  have hnil := String.toList_eq_nil_iff.mpr h
  rw [PropertyPath.toPointer, pointerText, String.toList_append] at hnil
  cases hnil

lemma propertyObservationSchema_of {o : PropertyObservation} (h : admitted o.objectIdentity = true) :
    propertyObservationSchema o.toIdentityEntry = true := by
  have hobject := (graphNodeIdentitySchema_toDict o.objectIdentity).trans h
  simp [propertyObservationSchema, PropertyObservation.toIdentityEntry, JsonSchema.object, JsonSchema.anything,
    Json.lookup, hobject, provenanceSchema_of o.observed, text_of_ne (toPointer_ne o.propertyPath)]

end Schema

section Parse
variable (path : String)

lemma parseGraphNodeIdentity_toDict (i : GraphNodeIdentity) : parseGraphNodeIdentity i.toDict path = .ok i := by
  induction i generalizing path with
  | root n k l h =>
    rw [GraphNodeIdentity.toDict, parseGraphNodeIdentity]
    simp [hasExactKeys, Json.lookup, Json.get, requireExactNonEmptyStr_val, ok_bind, GraphNodeIdentity.create,
      requireNonEmptyStr_stripped, h, pure, Except.pure]
  | child n k l p ih =>
    have hne : p.toDict ≠ .null := by cases p <;> simp [GraphNodeIdentity.toDict]
    rw [GraphNodeIdentity.toDict, parseGraphNodeIdentity]
    simp [hasExactKeys, Json.lookup, Json.get, requireExactNonEmptyStr_val, ok_bind, GraphNodeIdentity.create,
      requireNonEmptyStr_stripped, ih, hne, pure, Except.pure, Except.map]

lemma parse_value (mode : ObservationMode) : ObservationMode.parse mode.value = some mode := by
  cases mode <;> decide

lemma requireNonEmptyStr_mode (mode : ObservationMode) (fieldName : String) :
    ∃ s, requireNonEmptyStr mode.value fieldName = .ok s ∧ s.val = mode.value := by
  have hblank : isBlank mode.value = false := by cases mode <;> decide
  have hstrip : strip mode.value = mode.value := by cases mode <;> decide
  exact ⟨.of mode.value hblank, dif_pos hblank, hstrip⟩

lemma create_provenance (r : ProvenanceRecord) : ProvenanceRecord.create r.providerType.val r.sourceRef.val
    (r.sourceVersion.map Stripped.val) r.observationMode.value = .ok r := by
  obtain ⟨s, hs, hmode⟩ := requireNonEmptyStr_mode r.observationMode "observation_mode"
  obtain ⟨provider, source, version, mode⟩ := r
  rw [ProvenanceRecord.create, requireNonEmptyStr_stripped, ok_bind, requireNonEmptyStr_stripped, ok_bind]
  cases version with
  | none => simp only [Option.map_none, hs, ok_bind, hmode, parse_value]; rfl
  | some v =>
    simp only [Option.map_some, dif_pos v.nonblank, Stripped.of_val, hs, ok_bind, hmode, parse_value]
    rfl

lemma parseProvenanceRecord_toDict (r : ProvenanceRecord) : parseProvenanceRecord r.toDict path = .ok r := by
  have hmode : requireExactNonEmptyStr (.str r.observationMode.value) (path ++ "/" ++ "observation_mode")
      "invalid provenance record" = .ok r.observationMode.value := by
    cases r.observationMode <;> rfl
  have hcreate := create_provenance r
  rw [ProvenanceRecord.toDict, ProvenanceRecord.versionJson, parseProvenanceRecord]
  cases hversion : r.sourceVersion with
  | none =>
    rw [hversion] at hcreate
    simp [hasExactKeys, Json.lookup, Json.get, requireExactNonEmptyStr_val, ok_bind, hmode, parse_value]
    exact congrArg (orRefuse · path "invalid provenance record") hcreate
  | some v =>
    rw [hversion] at hcreate
    simp [hasExactKeys, Json.lookup, Json.get, requireExactNonEmptyStr_val, ok_bind, hmode, parse_value, Except.map]
    exact congrArg (orRefuse · path "invalid provenance record") hcreate

lemma parsePropertyPath_toPointer (p : PropertyPath) : parsePropertyPath (.str p.toPointer) path = .ok p := by
  rw [parsePropertyPath, p.parse_toPointer, orRefuse_ok, ok_bind, if_pos rfl]
  rfl

/-- Entries that are each read back are read back in their order. -/
lemma parseEach_map {α β : Type} {parse : Json → String → Read α} {write : β → Json} {value : β → α}
    {items : List β} (h : ∀ x ∈ items, ∀ path, parse (write x) path = .ok (value x)) :
    parseEach parse path (items.map write) = .ok (items.map value) := by
  rw [parseEach, List.zipIdx_map, List.mapM_map]
  exact mapM_zipIdx_eq_map (fun x hx n => h x hx _)

lemma create_observation (o : PropertyObservation) :
    PropertyObservation.create o.objectIdentity o.propertyPath o.value.val o.provenance = .ok o := by
  rw [PropertyObservation.create, dif_pos o.observed]
  exact congrArg Except.ok (PropertyObservation.ext rfl rfl (canonicalizeJsonValue_val _) o.provenance_merged)

theorem parseObservationEntry_toIdentityEntry (o : PropertyObservation) :
    parseObservationEntry o.toIdentityEntry path = .ok o := by
  have hprovenance : parseEach parseProvenanceRecord (path ++ "/provenance")
      (o.provenance.map ProvenanceRecord.toDict) = .ok o.provenance := by
    have hread : parseEach parseProvenanceRecord (path ++ "/provenance")
        (o.provenance.map ProvenanceRecord.toDict) = .ok (o.provenance.map id) :=
      parseEach_map _ (fun r _ path => parseProvenanceRecord_toDict path r)
    rwa [List.map_id] at hread
  have hcreate := create_observation o
  cases hrecords : o.provenance with
  | nil => exact absurd hrecords o.observed
  | cons r rest =>
    rw [hrecords, List.map_cons] at hprovenance
    rw [hrecords] at hcreate
    rw [PropertyObservation.toIdentityEntry, parseObservationEntry, hrecords]
    simp [hasExactKeys, Json.lookup, Json.get, parseGraphNodeIdentity_toDict, parsePropertyPath_toPointer, ok_bind,
      hprovenance, hcreate]

end Parse

section Document
variable {sha256 : String → String} {iterErrors : Json → List JsonSchema.Failure} {s : PropertyObservationSet}

lemma normalize_provenance (r : ProvenanceRecord) : r.toDict.normalize = r.toDict := by
  have hkeys : SortedBy id ["observation_mode", "provider_type", "source_ref", "source_version"] := by decide
  exact Json.normalize_obj_self hkeys (by simp [r.versionJson_normalize])

lemma normalize_entry (o : PropertyObservation) : o.toIdentityEntry.normalize = o.toIdentityEntry := by
  have hkeys : SortedBy id ["object", "property", "provenance", "value"] := by decide
  exact Json.normalize_obj_self hkeys
    (by simp [GraphNodeIdentity.normalize_toDict, normalize_provenance, o.value.canonical])

lemma normalize_entries (observations : List PropertyObservation) :
    (Json.arr (observations.map PropertyObservation.toIdentityEntry)).normalize =
      .arr (observations.map PropertyObservation.toIdentityEntry) := by
  rw [Json.normalize_arr, List.map_map]
  exact congrArg Json.arr (List.map_congr_left (fun o _ => normalize_entry o))

/-- The schema accepts the written set. -/
theorem observationSchemaAccepts_of (hdigest : HexDigest sha256)
    (hkinds : ∀ o ∈ s.observations, admitted o.objectIdentity = true) :
    observationSchemaAccepts (.obj (Json.sortedMembers (artifactMembers sha256 s))) = true := by
  have hidentity : contentIdentitySchema (s.contentIdentity sha256).toDict = true :=
    contentIdentitySchema_of hdigest rfl rfl ⟨_, rfl⟩
  have hentries : JsonSchema.array propertyObservationSchema
      (.arr (s.observations.map PropertyObservation.toIdentityEntry)) = true := by
    refine JsonSchema.array_iff.mpr ⟨_, rfl, ?_⟩
    intro j hj
    obtain ⟨o, ho, rfl⟩ := List.mem_map.mp hj
    exact propertyObservationSchema_of (hkinds o ho)
  rw [observationSchemaAccepts, JsonSchema.object_perm (Json.sortedMembers_perm _)]
  simp only [artifactMembers, List.map_cons, List.map_nil, normalize_entries, normalize_contentIdentity,
    Json.normalize_str]
  simp [observationProperties, JsonSchema.object, JsonSchema.texts, Json.lookup, hidentity, hentries]

lemma parseContentIdentity_toDict (c : ContentIdentity) (path : String) :
    parseContentIdentity (membersOf c.toDict) path = .ok c := by
  simp [parseContentIdentity, ContentIdentity.toDict, membersOf, hasExactKeys, Json.lookup, Json.get]

/-- What is written of a normalized set over admitted kinds is loaded back as the same set. -/
theorem observations_reload (hdigest : HexDigest sha256)
    (hvalidator : ∀ d, iterErrors d = [] ↔ observationSchemaAccepts d = true)
    (hkinds : ∀ o ∈ s.observations, admitted o.objectIdentity = true) :
    ∃ loaded, loadPropertyObservationSetArtifact sha256 iterErrors
        (propertyObservationSetToDict sha256 s).normalize = .ok loaded ∧
      loaded = s ∧ loaded.contentIdentity sha256 = s.contentIdentity sha256 := by
  refine ⟨s, ?_, rfl, rfl⟩
  have hget := fun key => Json.get_sortedMembers (artifactMembers sha256 s) key
  have hschema : Json.get (Json.sortedMembers (artifactMembers sha256 s)) "observation_schema" =
      .str propertyObservationSetSchema := (hget _).trans rfl
  have hversion : Json.get (Json.sortedMembers (artifactMembers sha256 s)) "observation_version" =
      .str propertyObservationSetVersion := (hget _).trans rfl
  have hidentity : Json.get (Json.sortedMembers (artifactMembers sha256 s)) "content_identity" =
      .obj (membersOf (s.contentIdentity sha256).toDict) := (hget _).trans (normalize_contentIdentity _)
  have hstored : Json.get (Json.sortedMembers (artifactMembers sha256 s)) "observations" =
      .arr (s.observations.map PropertyObservation.toIdentityEntry) := (hget _).trans (normalize_entries _)
  have herrors : iterErrors (.obj (Json.sortedMembers (artifactMembers sha256 s))) = [] :=
    (hvalidator _).mpr (observationSchemaAccepts_of hdigest hkinds)
  have hparsed : parseEach parseObservationEntry "/observations"
      (s.observations.map PropertyObservation.toIdentityEntry) = .ok s.observations := by
    have hread : parseEach parseObservationEntry "/observations"
        (s.observations.map PropertyObservation.toIdentityEntry) = .ok (s.observations.map id) :=
      parseEach_map _ (fun o _ path => parseObservationEntry_toIdentityEntry path o)
    rwa [List.map_id] at hread
  have hset : PropertyObservationSet.fromObservations s.observations = s := PropertyObservationSet.ext s.normalized
  rw [propertyObservationSetToDict, Json.normalize_obj_eq, loadPropertyObservationSetArtifact]
  simp only [hschema, hversion, herrors, hidentity, hstored, hparsed, ok_bind, hset, Json.pyEquals_self,
    parseContentIdentity_toDict, ne_eq, not_true_eq_false, if_false, if_true]
  rfl

end Document

lemma orders_nonblank : isBlank "orders" = false := by decide
lemma table_ne_column : kindTable.val ≠ nodeKindColumn := by decide
lemma statistics_nonempty : ["attributes", "statistics"] ≠ [] := by decide

def ordersNode : GraphNodeIdentity :=
  .root (.of "orders" orders_nonblank) kindTable (.of "orders" orders_nonblank) table_ne_column

def ordersScan : ProvenanceRecord :=
  ⟨.of "orders" orders_nonblank, .of "orders" orders_nonblank, none, .observed⟩

def ordersStatistics : PropertyObservationSet := .fromObservations
  [⟨ordersNode, ⟨["attributes", "statistics"], statistics_nonempty⟩,
    canonicalizeJsonValue (.obj [("rows", .int 12), ("sizes", .arr [.null, .bool true])]), [ordersScan],
    List.cons_ne_nil _ _, rfl⟩]

theorem ordersStatistics_reload :
    ∃ loaded, loadPropertyObservationSetArtifact constantDigest (validatorOf observationSchemaAccepts)
        (propertyObservationSetToDict constantDigest ordersStatistics).normalize = .ok loaded ∧
      loaded = ordersStatistics ∧
        loaded.contentIdentity constantDigest = ordersStatistics.contentIdentity constantDigest := by
  have hkinds : ∀ o ∈ ordersStatistics.observations, admitted o.objectIdentity = true := by decide +kernel
  exact observations_reload constantDigest_hex (validatorOf_iff observationSchemaAccepts) hkinds

end CollibraGovernance.Observations
