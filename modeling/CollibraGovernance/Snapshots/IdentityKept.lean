import CollibraGovernance.Snapshots.IdentitySpec

/-! A loaded snapshot has the identity stored with it exactly when its document is in canonical order. -/
namespace CollibraGovernance.Snapshots
open Library Domain Identity Comparison

section Governance
variable {governance : List (String × Json)} {roots : Roots}

/-- The listed schemas are all written as they were exactly when they and all below them are in order. -/
theorem schemas_written_iff {schemas : List Schema} {tables : List ParsedTable} {keys : List ForeignKey}
    {seen : List String} (hproper : ∀ j ∈ roots.schemas, j.uniqueKeys = true ∧ schemaSchema j = true)
    (hseen : roots.seen.Nodup) (h : schemasFromDict roots = .ok (schemas, tables, keys, seen)) :
    seen.Nodup ∧ ((Json.arr roots.schemas).normalize =
      (Json.arr ((sortBy Schema.id schemas).map Schema.toDict)).normalize ↔
        SortedBy (rawText "id") roots.schemas ∧ ∀ schema ∈ roots.schemas, SchemaListed schema) := by
  unfold schemasFromDict at h
  obtain ⟨⟨ps, seen₁⟩, hread, h⟩ := bind_eq_ok.mp h
  obtain ⟨⟨keys', seen₂⟩, hkeys, h⟩ := bind_eq_ok.mp h
  obtain ⟨rebuilt, hrebuilt, h⟩ := bind_eq_ok.mp h
  cases pure_eq_ok.mp h
  dsimp only at hkeys hrebuilt
  obtain ⟨rfl, hnodup, hfrom⟩ := readEach_inv (fun x hx i seen p seen' hseen hschema =>
    schema_inv (hproper x hx).1 (hproper x hx).2 hseen hschema) hseen hread
  have hps : List.Forall₂ TableFrom (roots.schemas.flatMap (rawList "tables")) (ps.flatMap ParsedSchema.tables) :=
    List.rel_flatMap hfrom fun _ _ h => h.tables
  obtain ⟨hseen', hpending⟩ := foreignKeys_inv hps hnodup hkeys
  have hids : ((ps.flatMap ParsedSchema.tables).map (fun p => p.table.id)).Nodup := by
    refine (hnodup.of_append_right).sublist ?_
    rw [List.map_flatMap]
    refine List.Sublist.flatMap_right _ fun p _ => List.Sublist.cons _ ?_
    rw [List.map_eq_flatMap]
    exact List.Sublist.flatMap_right _ fun q _ => by simp [readIds]
  have heq : schemas = ps.map (fun p => Schema.withTables p.schema (linkedTables keys' p.tables)) := by
    have hall : ps.mapM (fun p => rebuildSchema keys' p.schema) =
        .ok (ps.map (fun p => Schema.withTables p.schema (linkedTables keys' p.tables))) := by
      refine mapM_eq_map fun p hp => ?_
      obtain ⟨raw, -, hraw⟩ := (forall₂_mem hfrom).1 p hp
      exact rebuildSchema_eq hraw.sorted
    rw [hrebuilt] at hall
    exact Except.ok.inj hall
  have hnames : List.Forall₂ (fun raw s => rawText "id" raw = s.id) roots.schemas schemas := by
    rw [heq, List.forall₂_map_right_iff]
    exact hfrom.imp fun _ _ h => h.id
  have hpairs : List.Forall₂ (fun raw s => raw.normalize = s.toDict.normalize ↔ SchemaListed raw) roots.schemas
      schemas := by
    have hmem := (List.forall₂_and_left ps roots.schemas (p := fun p => p ∈ ps)).mpr ⟨fun _ hp => hp, hfrom.flip⟩
    rw [heq, List.forall₂_map_right_iff]
    refine (hmem.imp ?_).flip
    rintro p raw ⟨hp, hraw⟩
    exact schema_written_iff hids hpending (fun q hq => List.mem_flatMap.mpr ⟨p, hp, hq⟩) hraw
  refine ⟨hseen', ?_⟩
  rw [listed_iff (fun _ => rawText_normalize) rawText_schema hnames, forall₂_iff_forall hpairs]

/-- The data source is written as it was exactly when its database is in order. -/
theorem dataSource_written_iff {schemas : List Schema} {tables : List ParsedTable} {keys : List ForeignKey}
    {seen : List String} {source : DataSource} {database : Database}
    (hunique : (Json.obj governance).uniqueKeys = true)
    (haccepts : governanceModelSchema (.obj governance) = true) (hroots : rootsFromDict governance = .ok roots)
    (hschemas : schemasFromDict roots = .ok (schemas, tables, keys, seen))
    (h : dataSourceFromDict roots schemas = .ok (source, database)) :
    seen.Nodup ∧ ((Json.obj roots.dataSource).normalize = source.toDict.normalize ↔
      DatabaseListed (.obj roots.database)) := by
  have hfrom := roots_inv hroots
  rw [governanceModelSchema] at haccepts
  have hsourcesAccepted := JsonSchema.accepts_get haccepts (by decide)
    (p := ⟨"data_sources", true, JsonSchema.sized 1 none dataSourceSchema⟩) (by simp) rfl
  obtain ⟨hsourceUnique, hsourceAccepted⟩ := items_proper hunique hfrom.source (array_of_sized hsourcesAccepted) _
    (List.mem_singleton_self _)
  rw [dataSourceSchema] at hsourceAccepted
  have hdatabasesAccepted := JsonSchema.accepts_get hsourceAccepted (by decide)
    (p := ⟨"databases", true, JsonSchema.array databaseSchema⟩) (by simp) rfl
  obtain ⟨hdatabaseUnique, hdatabaseAccepted⟩ := items_proper hsourceUnique hfrom.database hdatabasesAccepted _
    (List.mem_singleton_self _)
  rw [databaseSchema] at hdatabaseAccepted
  have hschemasAccepted := JsonSchema.accepts_get hdatabaseAccepted (by decide)
    (p := ⟨"schemas", true, JsonSchema.array schemaSchema⟩) (by simp) rfl
  have hproper := items_proper hdatabaseUnique hfrom.schemas hschemasAccepted
  obtain ⟨hseen, hwritten⟩ := schemas_written_iff hproper hfrom.seen hschemas
  have hsourceOwner := JsonSchema.accepts_get hsourceAccepted (by decide)
    (p := ⟨"ownership", true, nullableOwnershipSchema⟩) (by simp) rfl
  have hdatabaseOwner := JsonSchema.accepts_get hdatabaseAccepted (by decide)
    (p := ⟨"ownership", true, nullableOwnershipSchema⟩) (by simp) rfl
  unfold dataSourceFromDict at h
  obtain ⟨databaseOwnership, hdatabaseOwnership, h⟩ := bind_eq_ok.mp h
  obtain ⟨database', hdatabase, h⟩ := bind_eq_ok.mp h
  obtain ⟨ownership, hownership, h⟩ := bind_eq_ok.mp h
  obtain ⟨attributes, hattributes, h⟩ := bind_eq_ok.mp h
  obtain ⟨source', hsource, h⟩ := bind_eq_ok.mp h
  cases pure_eq_ok.mp h
  obtain ⟨hid, hname, hparent, hsorted, hdescription, rfl⟩ := Database.create_ok (raised_ok.mp hdatabase)
  obtain ⟨hsourceId, hsourceName, hsystem, hdatabases, hsourceDescription, rfl, rfl⟩ :=
    DataSource.create_ok (raised_ok.mp hsource)
  refine ⟨hseen, ?_⟩
  have hdatabaseWritten : (Json.obj roots.database).normalize = database.toDict.normalize ↔
      DatabaseListed (.obj roots.database) := by
    have hdescribed : database.description.normalize = (Json.get roots.database "description").normalize := by
      rw [hdescription, descriptionFromValue, Json.normalize_idem]
    rw [DatabaseListed, rawList_of hfrom.schemas, ← hwritten, Database.toDict, JsonSchema.normalize_eq_iff
      hdatabaseAccepted ((Json.uniqueKeys_obj _).mp hdatabaseUnique).1 (by simp) (.refl _) (by simp)]
    simp only [List.forall_mem_cons, hfrom.database_id, hfrom.database_name, hfrom.database_parent, hfrom.schemas,
      hid, hname, hparent, hsorted, hdescribed,
      ownership_inv (Json.uniqueKeys_get hdatabaseUnique _) hdatabaseOwner hdatabaseOwnership, true_and]
    simp
  have hdescribed : source.description.normalize = (Json.get roots.dataSource "description").normalize := by
    rw [hsourceDescription, descriptionFromValue, Json.normalize_idem]
  have hsole : source.databases = [database] := by rw [hdatabases, sortBy_eq_self (List.pairwise_singleton _ _)]
  rw [← hdatabaseWritten, DataSource.toDict, JsonSchema.normalize_eq_iff hsourceAccepted
    ((Json.uniqueKeys_obj _).mp hsourceUnique).1 (by simp) (.refl _) (by simp)]
  simp only [List.forall_mem_cons, hfrom.source_id, hfrom.source_name, hfrom.source_system, hfrom.database, hsourceId,
    hsourceName, hsystem, hsole, hdescribed, attributes_inv hsourceAccepted (by decide) (by simp) hattributes,
    ownership_inv (Json.uniqueKeys_get hsourceUnique _) hsourceOwner hownership, true_and]
  simp [-Json.normalize_obj]

/-- The model is written as it was exactly when all its lists are in order. -/
theorem model_written_iff {tables : List ParsedTable} {keys : List ForeignKey} {seen : List String}
    {source : DataSource} {m : GovernanceModel} (hunique : (Json.obj governance).uniqueKeys = true)
    (haccepts : governanceModelSchema (.obj governance) = true) (hroots : rootsFromDict governance = .ok roots)
    (hseen : seen.Nodup) (h : modelFromDict governance source tables keys seen = .ok m) :
    (Json.obj governance).normalize = m.toDict.normalize ↔
      (Json.obj roots.dataSource).normalize = source.toDict.normalize ∧
        SortedBy (rawText "id") (rawList "relationships" (.obj governance)) := by
  have hfrom := roots_inv hroots
  rw [governanceModelSchema] at haccepts
  have hrelationshipsAccepted := JsonSchema.accepts_get haccepts (by decide)
    (p := ⟨"relationships", true, JsonSchema.array relationshipSchema⟩) (by simp) rfl
  unfold modelFromDict at h
  obtain ⟨listed, hlisted, h⟩ := bind_eq_ok.mp h
  obtain ⟨⟨relationships, seen'⟩, hread, h⟩ := bind_eq_ok.mp h
  have hlisted := requireList_ok.mp hlisted
  have hproper := items_proper hunique hlisted hrelationshipsAccepted
  obtain ⟨-, -, hwritten⟩ := readEach_inv (fun x hx i seen r seen' hseen hr =>
    relationship_inv (hproper x hx).1 (hproper x hx).2 hseen hr) hseen hread
  obtain ⟨hsources, hrelationships⟩ := GovernanceModel.create_ok (mapError_eq_ok.mp h)
  have hsole : m.dataSources = [source] := by rw [hsources, sortBy_eq_self (List.pairwise_singleton _ _)]
  have hordered := entries_iff (fun _ => rawText_normalize) rawText_relationship hwritten
  rw [rawList_of hlisted, ← hordered, GovernanceModel.toDict, JsonSchema.normalize_eq_iff haccepts
    ((Json.uniqueKeys_obj _).mp hunique).1 (by simp) (.refl _) (by simp)]
  simp only [List.forall_mem_cons, hfrom.source, hsole, hlisted, hrelationships]
  simp [-Json.normalize_obj]

end Governance

/-- The members that are hashed. -/
def hashedProperties : List JsonSchema.Property :=
  [⟨"snapshot_schema", true, JsonSchema.texts [snapshotSchema]⟩,
    ⟨"snapshot_version", true, JsonSchema.texts [snapshotVersion]⟩, ⟨"source", true, sourceEnvelopeSchema⟩,
    ⟨"scan", true, scanEnvelopeSchema⟩, ⟨"governance", true, governanceModelSchema⟩]

/-- What of a document is hashed. -/
def withoutIdentity (document : Json) : Json := .obj ((membersOf document).filter (fun m => m.1 ≠ "content_identity"))

lemma texts_inv {expected : String} {j : Json} (h : JsonSchema.texts [expected] j = true) : j = .str expected := by
  cases j <;> simp [JsonSchema.texts] at h
  rw [h]

section Payload
variable {payload : List (String × Json)} {s : GovernanceSnapshot}

lemma envelope_inv {envelope : Envelope} (h : envelopeFromDict payload = .ok envelope) :
    ∃ source scan, Json.get payload "source" = .obj source ∧ Json.get payload "scan" = .obj scan ∧
      Json.get payload "governance" = .obj envelope.governance ∧ Json.get source "name" = .str envelope.sourceName ∧
      Json.get source "database" = .str envelope.databaseName ∧
      Json.get source "system_type" = .str envelope.systemType ∧ Json.get scan "scanner" = .str envelope.scanner ∧
      Json.get scan "scanner_contract_version" = .str envelope.scannerContractVersion := by
  unfold envelopeFromDict at h
  obtain ⟨source, hsource, h⟩ := bind_eq_ok.mp h
  obtain ⟨scan, hscan, h⟩ := bind_eq_ok.mp h
  obtain ⟨governance, hgovernance, h⟩ := bind_eq_ok.mp h
  obtain ⟨name, hname, h⟩ := bind_eq_ok.mp h
  obtain ⟨database, hdatabase, h⟩ := bind_eq_ok.mp h
  obtain ⟨system, hsystem, h⟩ := bind_eq_ok.mp h
  obtain ⟨scanner, hscanner, h⟩ := bind_eq_ok.mp h
  obtain ⟨version, hversion, h⟩ := bind_eq_ok.mp h
  split at h
  · cases h
  · cases h
    exact ⟨source, scan, requireMapping_ok.mp hsource, requireMapping_ok.mp hscan, requireMapping_ok.mp hgovernance,
      text_inv hname, text_inv hdatabase, text_inv hsystem, text_inv hscanner, text_inv hversion⟩

theorem payload_written_iff (hunique : (Json.obj payload).uniqueKeys = true)
    (haccepts : snapshotSchemaAccepts (.obj payload) = true)
    (h : validateAndParseSnapshotPayload payload = .ok s) :
    (withoutIdentity (.obj payload)).normalize = s.canonicalDictWithoutIdentity.normalize ↔
      CanonicallyListed (.obj payload) := by
  unfold validateAndParseSnapshotPayload at h
  obtain ⟨envelope, henvelope, h⟩ := bind_eq_ok.mp h
  obtain ⟨roots, hroots, h⟩ := bind_eq_ok.mp h
  obtain ⟨⟨schemas, tables, keys, seen⟩, hschemas, h⟩ := bind_eq_ok.mp h
  obtain ⟨⟨source, database⟩, hsource, h⟩ := bind_eq_ok.mp h
  obtain ⟨⟨⟩, -, h⟩ := bind_eq_ok.mp h
  obtain ⟨m, hm, h⟩ := bind_eq_ok.mp h
  cases pure_eq_ok.mp h
  obtain ⟨rawSource, rawScan, hrawSource, hrawScan, hgovernance, hname, hdatabase, hsystem, hscanner, hversion⟩ :=
    envelope_inv henvelope
  have hfrom := roots_inv hroots
  have hnodup := ((Json.uniqueKeys_obj payload).mp hunique).1
  have hunchanged : JsonSchema.object hashedProperties
      (.obj (payload.filter (fun m => m.1 ≠ "content_identity"))) = true :=
    JsonSchema.object_without (p := ⟨"content_identity", true, Comparison.contentIdentitySchema⟩) haccepts (by decide)
  have hget : ∀ key, key ≠ "content_identity" →
      Json.get (payload.filter (fun m => m.1 ≠ "content_identity")) key = Json.get payload key :=
    fun key hne => Json.get_filter_ne hne
  have haccepted : ∀ p ∈ hashedProperties, p.accepts (Json.get payload p.name) = true := by
    intro p hp
    have hne : p.name ≠ "content_identity" := by
      revert p
      decide
    rw [← hget p.name hne]
    exact JsonSchema.accepts_get hunchanged (by decide) hp (by revert p; decide)
  have hschema := texts_inv (haccepted ⟨"snapshot_schema", true, JsonSchema.texts [snapshotSchema]⟩
    (by simp [hashedProperties]))
  have hsnapshotVersion := texts_inv (haccepted ⟨"snapshot_version", true, JsonSchema.texts [snapshotVersion]⟩
    (by simp [hashedProperties]))
  have hsourceAccepted := haccepted ⟨"source", true, sourceEnvelopeSchema⟩ (by simp [hashedProperties])
  have hscanAccepted := haccepted ⟨"scan", true, scanEnvelopeSchema⟩ (by simp [hashedProperties])
  have hgovernanceAccepted := haccepted ⟨"governance", true, governanceModelSchema⟩ (by simp [hashedProperties])
  dsimp only at hschema hsnapshotVersion hsourceAccepted hscanAccepted hgovernanceAccepted
  have hsourceUnique := Json.uniqueKeys_get hunique "source"
  have hscanUnique := Json.uniqueKeys_get hunique "scan"
  have hgovernanceUnique := Json.uniqueKeys_get hunique "governance"
  rw [hrawSource] at hsourceAccepted hsourceUnique
  rw [hrawScan] at hscanAccepted hscanUnique
  rw [hgovernance] at hgovernanceAccepted hgovernanceUnique
  rw [sourceEnvelopeSchema] at hsourceAccepted
  rw [scanEnvelopeSchema] at hscanAccepted
  have hsourceWritten : (Json.obj rawSource).normalize = (Json.obj [("database", .str envelope.databaseName),
      ("name", .str envelope.sourceName), ("system_type", .str envelope.systemType)]).normalize := by
    refine (JsonSchema.normalize_eq_iff hsourceAccepted ((Json.uniqueKeys_obj _).mp hsourceUnique).1 (by simp)
      ?_ ?_).mpr ?_
    · exact List.Perm.swap _ _ _
    · simp
    · simp [hname, hdatabase, hsystem]
  have hscanWritten : (Json.obj rawScan).normalize = (Json.obj [("scanner", .str envelope.scanner),
      ("scanner_contract_version", .str envelope.scannerContractVersion)]).normalize := by
    rw [JsonSchema.normalize_eq_iff hscanAccepted ((Json.uniqueKeys_obj _).mp hscanUnique).1 (by simp) (.refl _)
      (by simp)]
    simp [hscanner, hversion]
  obtain ⟨hseen, hsourceListed⟩ := dataSource_written_iff hgovernanceUnique hgovernanceAccepted hroots hschemas hsource
  have hmodel := model_written_iff hgovernanceUnique hgovernanceAccepted hroots hseen hm
  have hkeys : (["governance", "scan", "snapshot_schema", "snapshot_version", "source"] : List String).Perm
      (hashedProperties.map JsonSchema.Property.name) := by decide
  have hlisted : CanonicallyListed (.obj payload) ↔ DatabaseListed (.obj roots.database) ∧
      SortedBy (rawText "id") (rawList "relationships" (.obj envelope.governance)) := by
    rw [CanonicallyListed, show rawMember (.obj payload) "governance" = .obj envelope.governance from hgovernance,
      rawList_of hfrom.source, List.forall_mem_singleton, rawList_of hfrom.database, List.forall_mem_singleton]
  rw [hlisted, ← hsourceListed, ← hmodel, withoutIdentity, GovernanceSnapshot.canonicalDictWithoutIdentity]
  change (Json.obj (payload.filter (fun m => m.1 ≠ "content_identity"))).normalize = _ ↔ _
  refine (JsonSchema.normalize_eq_iff hunchanged (hnodup.sublist (List.filter_sublist.map _)) (by decide) ?_ ?_).trans ?_
  · exact hkeys
  · simp
  · simp only [List.forall_mem_cons]
    rw [hget _ (by decide), hget _ (by decide), hget _ (by decide), hget _ (by decide), hget _ (by decide), hgovernance,
      hrawScan, hrawSource, hschema, hsnapshotVersion, hsourceWritten, hscanWritten]
    simp [-Json.normalize_obj]

end Payload

/-- The identity that a document carries. -/
def storedIdentity (document : Json) : ContentIdentity :=
  ⟨rawText "algorithm" (rawMember document "content_identity"),
    rawText "hashing_contract_version" (rawMember document "content_identity"),
    rawText "digest" (rawMember document "content_identity")⟩

/-- What is hashed of a snapshot document. -/
def hashedText (document : Json) : String := "gov-snapshot-v1\n" ++ document.canonicalJson

section Load
variable {sha256 : String → String} {schemaErrors : Json → List JsonSchema.Failure} {document : Json}
  {s : GovernanceSnapshot}

lemma loaded_inv (hvalidator : ∀ d, schemaErrors d = [] ↔ snapshotSchemaAccepts d = true)
    (h : loadSnapshotArtifact sha256 schemaErrors document = .ok s) :
    ∃ payload, document = .obj payload ∧ document.uniqueKeys = true ∧ snapshotSchemaAccepts document = true ∧
      CarriesIdentity sha256 payload ∧ validateAndParseSnapshotPayload payload = .ok s := by
  unfold loadSnapshotArtifact at h
  split at h
  · cases h
  · rename_i hkeys
    cases document with
    | obj payload =>
      obtain ⟨⟨⟩, hchecked, hparsed⟩ := bind_eq_ok.mp h
      obtain ⟨haccepts, hcarries⟩ := (checkEnvelope_ok hvalidator payload).mp hchecked
      exact ⟨payload, rfl, by simpa using hkeys, haccepts, hcarries, hparsed⟩
    | _ => cases h

/-- The stored identity is the one of the raw document. -/
lemma storedIdentity_eq {payload : List (String × Json)} (h : CarriesIdentity sha256 payload) :
    storedIdentity (.obj payload) = snapshotIdentity sha256 (withoutIdentity (.obj payload)) := by
  obtain ⟨identity, hidentity, halgorithm, hversion, hdigest⟩ := h
  rw [storedIdentity, show rawMember (.obj payload) "content_identity" = .obj identity from hidentity,
    rawText_of halgorithm, rawText_of hversion, rawText_of hdigest]
  rfl

/-- A loaded snapshot has the identity stored with it exactly when every list of its document stands in canonical
order; the digest has to tell the two hashed texts apart. -/
theorem stored_identity_kept_iff (hvalidator : ∀ d, schemaErrors d = [] ↔ snapshotSchemaAccepts d = true)
    (hdigest : sha256 (hashedText s.canonicalDictWithoutIdentity) = sha256 (hashedText (withoutIdentity document)) →
      hashedText s.canonicalDictWithoutIdentity = hashedText (withoutIdentity document))
    (h : loadSnapshotArtifact sha256 schemaErrors document = .ok s) :
    s.contentIdentity sha256 = storedIdentity document ↔ CanonicallyListed document := by
  obtain ⟨payload, rfl, hunique, haccepts, hcarries, hparsed⟩ := loaded_inv hvalidator h
  rw [storedIdentity_eq hcarries, ← payload_written_iff hunique haccepts hparsed, eq_comm (b := Json.normalize _)]
  constructor
  · intro heq
    have htexts := hdigest (congrArg ContentIdentity.digest heq)
    exact Json.canonicalJson_inj.mp ((String.append_right_inj _).mp htexts)
  · exact sha256Identity_congr

end Load

section Shop

def columnRecord (id : String) (position : Int) : Json :=
  .obj [("id", .str id), ("name", .str id), ("data_type", .str "text"), ("ordinal_position", .int position),
    ("nullable", .bool true), ("description", .null), ("technical_attributes", .obj [])]

/-- The members of a snapshot of one table with the listed columns. -/
def columnsPayload (columns : List Json) : List (String × Json) :=
  [("snapshot_schema", .str snapshotSchema), ("snapshot_version", .str snapshotVersion),
    ("source", .obj [("name", .str "shop"), ("database", .str "orders"), ("system_type", .str "postgresql")]),
    ("scan", .obj [("scanner", .str "postgresql"), ("scanner_contract_version", .str "1")]),
    ("governance", .obj [("data_sources", .arr [.obj [("id", .str "ds:shop"), ("name", .str "shop"),
      ("system_type", .str "postgresql"), ("databases", .arr [.obj [("id", .str "db:shop/orders"),
        ("name", .str "orders"), ("datasource_id", .str "ds:shop"), ("schemas", .arr [.obj [("id", .str "sch"),
          ("name", .str "public"), ("database_id", .str "db:shop/orders"), ("tables", .arr [.obj [("id", .str "tbl"),
            ("name", .str "lines"), ("schema_id", .str "sch"), ("columns", .arr columns),
            ("primary_key", .null), ("foreign_keys", .arr []), ("description", .null), ("ownership", .null),
            ("technical_attributes", .obj [])]]), ("description", .null), ("ownership", .null)]]),
        ("description", .null), ("ownership", .null)]]), ("description", .null), ("ownership", .null),
      ("technical_attributes", .obj [])]]), ("relationships", .arr [])]),
    ("content_identity", .obj [("algorithm", .str "sha256"), ("hashing_contract_version", .str "1"),
      ("digest", .str (String.ofList (List.replicate 64 'a')))])]

/-- The columns of the table by position. -/
def orderedPayload : List (String × Json) := columnsPayload [columnRecord "col:a" 1, columnRecord "col:b" 2]

/-- The columns of the table listed the other way round. -/
def reversedPayload : List (String × Json) := columnsPayload [columnRecord "col:b" 2, columnRecord "col:a" 1]

/-- In canonical order the stored identity is kept. -/
theorem ordered_identity_kept : ∃ s, loadSnapshotArtifact constantDigest snapshotValidator (.obj orderedPayload) = .ok s ∧
    (s.contentIdentity constantDigest = storedIdentity (.obj orderedPayload) ↔
      CanonicallyListed (.obj orderedPayload)) := by
  have hloaded : (loadSnapshotArtifact constantDigest snapshotValidator (.obj orderedPayload)).toOption.isSome = true :=
    rfl
  obtain ⟨s, hs⟩ := exists_ok hloaded
  refine ⟨s, hs, stored_identity_kept_iff snapshotValidator_iff ?_ hs⟩
  obtain ⟨payload, hpayload, hunique, haccepts, -, hparsed⟩ := loaded_inv snapshotValidator_iff hs
  cases hpayload
  have hwritten := (payload_written_iff hunique haccepts hparsed).mpr (by decide)
  rw [hashedText, hashedText, Json.canonicalJson_inj.mpr hwritten.symm]
  exact fun _ => rfl

/-- A digest that tells one text from all others. -/
def markingDigest (marked hashed : String) : String :=
  String.ofList (List.replicate 64 (if hashed = marked then 'a' else 'b'))

lemma markingDigest_hex (marked : String) : HexDigest (markingDigest marked) := by
  intro hashed
  have hdigits : (markingDigest marked hashed).toList = List.replicate 64 (if hashed = marked then 'a' else 'b') :=
    String.toList_ofList
  refine ⟨by rw [hdigits, List.length_replicate], ?_⟩
  intro c hc
  rw [hdigits] at hc
  rw [List.eq_of_mem_replicate hc]
  split_ifs <;> decide

/-- A snapshot that lists its columns the other way round is loaded, with another identity than the stored one. -/
theorem reversed_identity_lost : ∃ sha256 s, HexDigest sha256 ∧
    loadSnapshotArtifact sha256 snapshotValidator (.obj reversedPayload) = .ok s ∧
      s.contentIdentity sha256 ≠ storedIdentity (.obj reversedPayload) := by
  have hunique : (Json.obj reversedPayload).uniqueKeys = true := by decide
  have haccepts : snapshotSchemaAccepts (.obj reversedPayload) = true := by decide
  have hparsed : (validateAndParseSnapshotPayload reversedPayload).toOption.isSome = true := rfl
  obtain ⟨s, hs⟩ := exists_ok hparsed
  have hcarries : CarriesIdentity (markingDigest (hashedText (withoutIdentity (.obj reversedPayload))))
      reversedPayload := by
    refine ⟨_, rfl, rfl, rfl, ?_⟩
    change Json.str _ = Json.str (markingDigest _ (hashedText (withoutIdentity (.obj reversedPayload))))
    rw [markingDigest, if_pos rfl]
  have hne : hashedText s.canonicalDictWithoutIdentity ≠ hashedText (withoutIdentity (.obj reversedPayload)) := by
    intro heq
    have hwritten := Json.canonicalJson_inj.mp ((String.append_right_inj _).mp heq)
    exact absurd ((payload_written_iff hunique haccepts hs).mp hwritten.symm) (by decide)
  refine ⟨markingDigest (hashedText (withoutIdentity (.obj reversedPayload))), s, markingDigest_hex _, ?_, ?_⟩
  · rw [loadSnapshotArtifact, if_neg (by rw [hunique]; decide),
      (checkEnvelope_ok snapshotValidator_iff _).mpr ⟨haccepts, hcarries⟩, ok_bind, hs]
  · rw [storedIdentity_eq hcarries]
    intro heq
    have hdigests := congrArg ContentIdentity.digest heq
    change markingDigest _ (hashedText _) = markingDigest _ (hashedText _) at hdigests
    rw [markingDigest, markingDigest, if_neg hne, if_pos rfl] at hdigests
    exact absurd hdigests (by decide)

end Shop
end CollibraGovernance.Snapshots
