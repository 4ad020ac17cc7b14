import CollibraGovernance.Snapshots.RoundTrip

/-! Writing a snapshot of a closed model and loading the file again. -/
namespace CollibraGovernance.Snapshots
open Library Domain Identity Comparison

section Schema
/-! The schema accepts what is written. -/

lemma object_normalize {properties : List JsonSchema.Property} (members : List (String × Json)) :
    JsonSchema.object properties (Json.obj members).normalize =
      JsonSchema.object properties (.obj (members.map (fun m => (m.1, m.2.normalize)))) := by
  rw [Json.normalize_obj_eq]
  exact JsonSchema.object_perm (Json.sortedMembers_perm members)

lemma nonEmptyText_of {s : String} (h : isBlank s = false) : nonEmptyText (.str s) = true :=
  text_of_ne (ne_empty_of_not_blank h)

lemma columnIdsSchema_of {ids : List String} (hne : ids ≠ []) (h : ∀ id ∈ ids, isBlank id = false) :
    columnIdsSchema (.arr (ids.map .str)) = true := by
  rw [columnIdsSchema, JsonSchema.sized_iff, List.length_map]
  refine ⟨List.length_pos_iff.mpr hne, by simp, ?_⟩
  intro j hj
  obtain ⟨id, hid, rfl⟩ := List.mem_map.mp hj
  exact nonEmptyText_of (h id hid)

/-- A written list whose entries are accepted. -/
lemma array_written {α : Type} {accepts : Json → Bool} {toDict : α → Json} {xs : List α}
    (h : ∀ x ∈ xs, accepts (toDict x).normalize = true) :
    JsonSchema.array accepts (.arr (xs.map (Json.normalize ∘ toDict))) = true := by
  refine JsonSchema.array_iff.mpr ⟨_, rfl, ?_⟩
  intro j hj
  obtain ⟨x, hx, rfl⟩ := List.mem_map.mp hj
  exact h x hx

lemma sized_written {α : Type} {accepts : Json → Bool} {toDict : α → Json} {xs : List α} (hne : xs ≠ [])
    (h : ∀ x ∈ xs, accepts (toDict x).normalize = true) :
    JsonSchema.sized 1 none accepts (.arr (xs.map (Json.normalize ∘ toDict))) = true := by
  rw [JsonSchema.sized_iff, List.length_map]
  refine ⟨List.length_pos_iff.mpr hne, by simp, ?_⟩
  intro j hj
  obtain ⟨x, hx, rfl⟩ := List.mem_map.mp hj
  exact h x hx

lemma ownershipSchema_written (ownership : Option Ownership) :
    nullableOwnershipSchema (ownershipToDict ownership).normalize = true := by
  rw [nullableOwnershipSchema, JsonSchema.oneOf_pair]
  cases ownership with
  | none => exact Or.inl ⟨rfl, rfl⟩
  | some o =>
    have haccepts : ownershipSchema o.toDict.normalize = true := by
      rw [ownershipSchema, Ownership.toDict, object_normalize]
      simp [JsonSchema.object, Json.lookup, nonEmptyText_of o.ownerName_nonblank,
        nonEmptyText_of o.ownerType_nonblank]
    exact Or.inr ⟨rfl, haccepts⟩

lemma columnSchema_written (c : Column) : columnSchema c.toDict.normalize = true := by
  rw [columnSchema, Column.toDict, object_normalize]
  simp [JsonSchema.object, Json.lookup, nonEmptyText_of c.id_nonblank, nonEmptyText_of c.name_nonblank,
    nonEmptyText_of c.dataType_nonblank, JsonSchema.integer, c.ordinalPosition_pos, technicalAttributesSchema,
    JsonSchema.anything]

lemma primaryKeySchema_written (k : PrimaryKey) : primaryKeySchema k.toDict.normalize = true := by
  rw [primaryKeySchema, PrimaryKey.toDict, object_normalize]
  simp [JsonSchema.object, Json.lookup, nonEmptyText_of k.id_nonblank, nonEmptyText_of k.name_nonblank,
    nonEmptyText_of k.tableId_nonblank, normalize_ids, columnIdsSchema_of k.columnIds_nonempty k.columnIds_nonblank,
    -List.map_map]

lemma foreignKeySchema_written {k : ForeignKey} (hcolumns : ∀ c ∈ k.columnIds, isBlank c = false)
    (hreferenced : ∀ c ∈ k.referencedColumnIds, isBlank c = false) : foreignKeySchema k.toDict.normalize = true := by
  rw [foreignKeySchema, ForeignKey.toDict, object_normalize]
  simp [JsonSchema.object, Json.lookup, nonEmptyText_of k.id_nonblank, nonEmptyText_of k.name_nonblank,
    nonEmptyText_of k.tableId_nonblank, nonEmptyText_of k.referencedTableId_nonblank, normalize_ids,
    columnIdsSchema_of k.columnIds_nonempty hcolumns, columnIdsSchema_of k.referencedColumnIds_nonempty hreferenced,
    -List.map_map]

lemma tableSchema_written {t : Table} (hkeys : ∀ k ∈ t.foreignKeys, foreignKeySchema k.toDict.normalize = true) :
    tableSchema t.toDict.normalize = true := by
  have hcolumns := sized_written t.columns_nonempty fun c _ => columnSchema_written c
  have hkeys := array_written hkeys
  have hprimary : JsonSchema.oneOf [JsonSchema.isNull, primaryKeySchema] (primaryKeyToDict t.primaryKey).normalize =
      true := by
    rw [JsonSchema.oneOf_pair]
    cases t.primaryKey with
    | none => exact Or.inl ⟨rfl, rfl⟩
    | some k => exact Or.inr ⟨rfl, primaryKeySchema_written k⟩
  rw [tableSchema, Table.toDict, object_normalize]
  simp [JsonSchema.object, Json.lookup, nonEmptyText_of t.id_nonblank, nonEmptyText_of t.name_nonblank,
    nonEmptyText_of t.schemaId_nonblank, hcolumns, hkeys, hprimary, ownershipSchema_written,
    technicalAttributesSchema, JsonSchema.anything]

lemma schemaSchema_written {s : Schema} (htables : ∀ t ∈ s.tables, tableSchema t.toDict.normalize = true) :
    schemaSchema s.toDict.normalize = true := by
  have htables := array_written htables
  rw [schemaSchema, Schema.toDict, object_normalize]
  simp [JsonSchema.object, Json.lookup, nonEmptyText_of s.id_nonblank, nonEmptyText_of s.name_nonblank,
    nonEmptyText_of s.databaseId_nonblank, htables, ownershipSchema_written, JsonSchema.anything]

lemma databaseSchema_written {d : Database} (hschemas : ∀ s ∈ d.schemas, schemaSchema s.toDict.normalize = true) :
    databaseSchema d.toDict.normalize = true := by
  have hschemas := array_written hschemas
  rw [databaseSchema, Database.toDict, object_normalize]
  simp [JsonSchema.object, Json.lookup, nonEmptyText_of d.id_nonblank, nonEmptyText_of d.name_nonblank,
    nonEmptyText_of d.datasourceId_nonblank, hschemas, ownershipSchema_written, JsonSchema.anything]

lemma dataSourceSchema_written {s : DataSource}
    (hdatabases : ∀ d ∈ s.databases, databaseSchema d.toDict.normalize = true) :
    dataSourceSchema s.toDict.normalize = true := by
  have hdatabases := array_written hdatabases
  rw [dataSourceSchema, DataSource.toDict, object_normalize]
  simp [JsonSchema.object, Json.lookup, nonEmptyText_of s.id_nonblank, nonEmptyText_of s.name_nonblank,
    nonEmptyText_of s.systemType_nonblank, hdatabases, ownershipSchema_written, technicalAttributesSchema,
    JsonSchema.anything]

lemma relationshipSchema_written {r : Relationship} (hkey : ∀ id ∈ r.foreignKeyId, isBlank id = false) :
    relationshipSchema r.toDict.normalize = true := by
  have hkey : JsonSchema.oneOf [JsonSchema.isNull, nonEmptyText]
      ((r.foreignKeyId.map Json.str).getD .null).normalize = true := by
    rw [JsonSchema.oneOf_pair]
    cases hid : r.foreignKeyId with
    | none => exact Or.inl ⟨rfl, rfl⟩
    | some id => exact Or.inr ⟨rfl, nonEmptyText_of (hkey id hid)⟩
  rw [relationshipSchema, Relationship.toDict, object_normalize]
  simp [JsonSchema.object, Json.lookup, nonEmptyText_of r.id_nonblank, nonEmptyText_of r.name_nonblank,
    nonEmptyText_of r.fromTableId_nonblank, nonEmptyText_of r.toTableId_nonblank, hkey, JsonSchema.anything]

lemma governanceSchema_written {m : GovernanceModel} {source : DataSource} {database : Database}
    (h : Closed m source database) : governanceModelSchema m.toDict.normalize = true := by
  have hproper : ∀ t : Table, ∀ c ∈ columnIdsOf t, isBlank c = false := columnIdsOf_proper
  have htables : ∀ t ∈ m.tables, tableSchema t.toDict.normalize = true := by
    intro t ht
    refine tableSchema_written fun k hk => foreignKeySchema_written ?_ ?_
    · exact fun c hc => hproper t c (h.keys.foreignKeys t ht k hk c hc)
    · obtain ⟨r, -, -, hreferenced⟩ := h.keys.referenced t ht k hk
      exact fun c hc => hproper r c (hreferenced c hc)
  have hschemas : ∀ s ∈ database.schemas, schemaSchema s.toDict.normalize = true := by
    intro s hs
    refine schemaSchema_written fun t ht => htables t ?_
    rw [tables_of_closed h]
    exact List.mem_flatMap.mpr ⟨s, hs, ht⟩
  have hsource : dataSourceSchema source.toDict.normalize = true := by
    refine dataSourceSchema_written fun d hd => ?_
    rw [h.databases, List.mem_singleton] at hd
    exact hd ▸ databaseSchema_written hschemas
  have hsources : ∀ s ∈ m.dataSources, dataSourceSchema s.toDict.normalize = true := by
    intro s hs
    rw [h.dataSources, List.mem_singleton] at hs
    exact hs ▸ hsource
  have hrelationships : ∀ r ∈ m.relationships, relationshipSchema r.toDict.normalize = true := by
    intro r hr
    refine relationshipSchema_written fun id hid => ?_
    obtain ⟨_, _, k, _, rfl, -⟩ := h.keys.relationship_keys r hr id hid
    exact k.id_nonblank
  have hsources := sized_written m.dataSources_nonempty hsources
  have hrelationships := array_written hrelationships
  rw [governanceModelSchema, GovernanceModel.toDict, object_normalize]
  simp [JsonSchema.object, Json.lookup, hsources, hrelationships]

end Schema

/-- A snapshot of a closed model, written by the current scanner contract, whose envelope says what its model says and
whose mappings have distinct keys. -/
structure ClosedSnapshot (s : GovernanceSnapshot) (source : DataSource) (database : Database) : Prop where
  closed : Closed s.model source database
  sourceName : s.sourceName = source.name
  databaseName : s.databaseName = database.name
  systemType : s.systemType = source.systemType
  version : s.scannerContractVersion = Snapshots.scannerContractVersion
  finite : s.model.toDict.uniqueKeys = true

def GovernanceSnapshot.canonical (s : GovernanceSnapshot) : GovernanceSnapshot :=
  { s with model := s.model.canonical }

section Load
variable {sha256 : String → String} {schemaErrors : Json → List JsonSchema.Failure} {s : GovernanceSnapshot}
  {source : DataSource} {database : Database}

/-- What is hashed of a snapshot, as members. -/
def payloadMembers (s : GovernanceSnapshot) : List (String × Json) :=
  [("governance", s.model.toDict),
    ("scan", .obj [("scanner", .str s.scanner), ("scanner_contract_version", .str s.scannerContractVersion)]),
    ("snapshot_schema", .str snapshotSchema), ("snapshot_version", .str snapshotVersion),
    ("source", .obj [("database", .str s.databaseName), ("name", .str s.sourceName),
      ("system_type", .str s.systemType)])]

/-- The members of the artifact document. -/
def documentMembers (sha256 : String → String) (s : GovernanceSnapshot) : List (String × Json) :=
  payloadMembers s ++ [("content_identity", (s.contentIdentity sha256).toDict)]

lemma toDict_eq : s.toDict sha256 = .obj (documentMembers sha256 s) := rfl

lemma documentKeys_nodup : ((documentMembers sha256 s).map Prod.fst).Nodup := by
  have hkeys : (documentMembers sha256 s).map Prod.fst =
    ["governance", "scan", "snapshot_schema", "snapshot_version", "source", "content_identity"] := rfl
  rw [hkeys]
  decide

lemma contentIdentity_canonical : s.canonical.contentIdentity sha256 = s.contentIdentity sha256 := by
  refine sha256Identity_congr ?_
  apply Json.normalize_obj_congr
  simp only [List.map_cons, List.map_nil, GovernanceSnapshot.canonical, GovernanceModel.toDict_canonical]

/-- A written document carries the identity that is computed from its other members. -/
lemma carriesIdentity_written : CarriesIdentity sha256 (Json.sortedMembers (documentMembers sha256 s)) := by
  have hsame : snapshotIdentity sha256 (.obj ((Json.sortedMembers (documentMembers sha256 s)).filter
      (fun m => m.1 ≠ "content_identity"))) = s.contentIdentity sha256 :=
    sha256Identity_congr (Json.normalize_without documentKeys_nodup)
  refine ⟨Json.sortedMembers [("algorithm", .str (s.contentIdentity sha256).algorithm),
    ("digest", .str (s.contentIdentity sha256).digest),
    ("hashing_contract_version", .str (s.contentIdentity sha256).hashingContractVersion)], ?_, ?_, ?_, ?_⟩
  · rw [get_written rfl]
    exact Json.normalize_obj_eq _
  · rw [hsame, get_written rfl]
    rfl
  · rw [hsame, get_written rfl]
    rfl
  · rw [hsame, get_written rfl]
    rfl

lemma documentSchema_written (hdigest : HexDigest sha256) (h : ClosedSnapshot s source database)
    (hscanner : s.scanner ≠ "") : snapshotSchemaAccepts (.obj (Json.sortedMembers (documentMembers sha256 s))) = true := by
  have hgovernance := governanceSchema_written h.closed
  have hidentity : Comparison.contentIdentitySchema (s.contentIdentity sha256).toDict.normalize = true := by
    rw [normalize_contentIdentity]
    exact contentIdentitySchema_of hdigest rfl rfl ⟨_, rfl⟩
  have hsource : sourceEnvelopeSchema (Json.obj [("database", .str s.databaseName), ("name", .str s.sourceName),
      ("system_type", .str s.systemType)]).normalize = true := by
    rw [sourceEnvelopeSchema, object_normalize, h.sourceName, h.databaseName, h.systemType]
    simp [JsonSchema.object, Json.lookup, nonEmptyText_of source.name_nonblank,
      nonEmptyText_of database.name_nonblank, nonEmptyText_of source.systemType_nonblank]
  have hscan : scanEnvelopeSchema (Json.obj [("scanner", .str s.scanner),
      ("scanner_contract_version", .str s.scannerContractVersion)]).normalize = true := by
    have hversion : nonEmptyText (.str s.scannerContractVersion) = true := by
      rw [h.version]
      decide
    have hscanner : nonEmptyText (.str s.scanner) = true := text_of_ne hscanner
    rw [scanEnvelopeSchema, object_normalize]
    simp [JsonSchema.object, Json.lookup, hscanner, hversion]
  rw [snapshotSchemaAccepts, ← Json.normalize_obj_eq, object_normalize]
  simp [JsonSchema.object, Json.lookup, documentMembers, payloadMembers, hgovernance, hidentity, hsource, hscan,
    JsonSchema.texts, -Json.normalize_obj]

/-- The envelope says what the model of the snapshot says, and names the scanner and its contract. -/
structure EnvelopeOf (s : GovernanceSnapshot) (source : DataSource) (database : Database) : Prop where
  sourceName : s.sourceName = source.name
  databaseName : s.databaseName = database.name
  systemType : s.systemType = source.systemType
  version : s.scannerContractVersion = Snapshots.scannerContractVersion
  scanner : s.scanner ≠ ""

lemma envelope_written (h : EnvelopeOf s source database) :
    envelopeFromDict (Json.sortedMembers (documentMembers sha256 s)) =
      .ok ⟨s.sourceName, s.databaseName, s.systemType, s.scanner, s.scannerContractVersion,
        Json.sortedMembers [("data_sources", .arr (s.model.dataSources.map DataSource.toDict)),
          ("relationships", .arr (s.model.relationships.map Relationship.toDict))]⟩ := by
  have hname : isBlank s.sourceName = false := h.sourceName ▸ source.name_nonblank
  have hdatabase : isBlank s.databaseName = false := h.databaseName ▸ database.name_nonblank
  have hsystem : isBlank s.systemType = false := h.systemType ▸ source.systemType_nonblank
  have hversion : isBlank s.scannerContractVersion = false := by
    rw [h.version]
    decide
  have hscanned : textField (Json.sortedMembers [("scanner", .str s.scanner),
      ("scanner_contract_version", .str s.scannerContractVersion)]) "scanner" "/scan" = .ok s.scanner :=
    textField_ok.mpr ⟨by rw [get_written rfl]; rfl, h.scanner⟩
  have hobj : ∀ {key : String} {members : List (String × Json)} (path : String),
      Json.lookup (documentMembers sha256 s) key = some (.obj members) →
      requireMapping (Json.get (Json.sortedMembers (documentMembers sha256 s)) key) path =
        .ok (Json.sortedMembers members) := by
    intro key members path hlookup
    rw [get_written hlookup, Json.normalize_obj_eq]
    rfl
  rw [envelopeFromDict, hobj _ rfl, ok_bind, hobj _ rfl, ok_bind, hobj _ rfl, ok_bind, textField_written rfl hname,
    ok_bind, textField_written rfl hdatabase, ok_bind, textField_written rfl hsystem, ok_bind, hscanned, ok_bind,
    textField_written rfl hversion, ok_bind, if_neg (not_not.mpr h.version)]

/-- The payload of a written snapshot of a closed model is parsed to that snapshot. -/
lemma payload_readBack (h : Closed s.model source database) (henvelope : EnvelopeOf s source database) :
    validateAndParseSnapshotPayload (Json.sortedMembers (documentMembers sha256 s)) = .ok s.canonical := by
  obtain ⟨tables, htables, hschemas⟩ := schemas_readBack h
  have hmatches : envelopeMatches ⟨s.sourceName, s.databaseName, s.systemType, s.scanner, s.scannerContractVersion,
      Json.sortedMembers [("data_sources", .arr (s.model.dataSources.map DataSource.toDict)),
        ("relationships", .arr (s.model.relationships.map Relationship.toDict))]⟩ source.canonical database.canonical =
      .ok () :=
    (if_neg (not_not.mpr henvelope.sourceName)).trans
      ((if_neg (not_not.mpr henvelope.databaseName)).trans (if_neg (not_not.mpr henvelope.systemType)))
  rw [validateAndParseSnapshotPayload, envelope_written henvelope, ok_bind, roots_readBack h, ok_bind, hschemas, ok_bind]
  dsimp only
  rw [dataSource_readBack h, ok_bind]
  dsimp only
  rw [hmatches, ok_bind, model_readBack h htables]
  rfl

/-- A snapshot of a closed model is loaded back from what is written of it, with the same identity; of its mappings
only the order of their members may change. -/
theorem snapshot_write_load (hdigest : HexDigest sha256)
    (hvalidator : ∀ d, schemaErrors d = [] ↔ snapshotSchemaAccepts d = true) (h : ClosedSnapshot s source database)
    (hscanner : s.scanner ≠ "") :
    loadSnapshotArtifact sha256 schemaErrors (s.toDict sha256).normalize = .ok s.canonical ∧
      s.canonical.contentIdentity sha256 = s.contentIdentity sha256 := by
  refine ⟨?_, contentIdentity_canonical⟩
  have hunique : (s.toDict sha256).normalize.uniqueKeys = true := by
    apply Json.uniqueKeys_normalize
    rw [toDict_eq, Json.uniqueKeys_obj]
    refine ⟨documentKeys_nodup, ?_⟩
    simp [documentMembers, payloadMembers, h.finite, ContentIdentity.toDict, Json.uniqueKeys, Json.uniqueKeysMembers]
  have hchecked : checkEnvelope sha256 schemaErrors (Json.sortedMembers (documentMembers sha256 s)) = .ok () :=
    (checkEnvelope_ok hvalidator _).mpr ⟨documentSchema_written hdigest h hscanner, carriesIdentity_written⟩
  rw [toDict_eq, Json.normalize_obj_eq] at hunique ⊢
  rw [loadSnapshotArtifact, if_neg (by rw [hunique]; decide), hchecked, ok_bind]
  exact payload_readBack h.closed ⟨h.sourceName, h.databaseName, h.systemType, h.version, hscanner⟩

end Load

/-- The shop that was scanned by the named scanner. -/
def scannedShop (scanner : String) : GovernanceSnapshot :=
  ⟨customerShop, "shop", "shop", "postgresql", scanner, Snapshots.scannerContractVersion⟩

lemma customerShop_references : KeyReferences customerShop := by
  constructor <;> decide

lemma customerShop_closed : ∃ source database, Closed customerShop source database ∧ source.name = "shop" ∧
    database.name = "shop" ∧ source.systemType = "postgresql" := by
  refine ⟨_, _, ⟨rfl, rfl, ?_, rfl, ?_, ?_, ?_, ?_, ?_, customerShop_references⟩, rfl, rfl, rfl⟩
  all_goals decide

lemma scannedShop_closed (scanner : String) : ∃ source database, ClosedSnapshot (scannedShop scanner) source database := by
  obtain ⟨source, database, hclosed, hsource, hdatabase, hsystem⟩ := customerShop_closed
  have hunique : customerShop.toDict.uniqueKeys = true := by decide
  exact ⟨source, database, hclosed, hsource.symm, hdatabase.symm, hsystem.symm, rfl, hunique⟩

/-- What a scanner writes of the shop is loaded back. -/
theorem scanned_shop_loaded : loadSnapshotArtifact constantDigest snapshotValidator
      ((scannedShop "postgresql").toDict constantDigest).normalize = .ok (scannedShop "postgresql").canonical ∧
    (scannedShop "postgresql").canonical.contentIdentity constantDigest =
      (scannedShop "postgresql").contentIdentity constantDigest := by
  obtain ⟨source, database, hclosed⟩ := scannedShop_closed "postgresql"
  exact snapshot_write_load constantDigest_hex snapshotValidator_iff hclosed (by decide)

/-- A snapshot whose scanner has no name is written, but not loaded again. -/
theorem nameless_scanner_refused : (∃ source database, ClosedSnapshot (scannedShop "") source database) ∧
    ∀ loaded, loadSnapshotArtifact constantDigest snapshotValidator
      ((scannedShop "").toDict constantDigest).normalize ≠ .ok loaded := by
  refine ⟨scannedShop_closed "", ?_⟩
  intro loaded hloaded
  have hrefused : snapshotSchemaAccepts (((scannedShop "").toDict constantDigest).normalize) = false := by
    decide
  rw [toDict_eq, Json.normalize_obj_eq] at hloaded hrefused
  unfold loadSnapshotArtifact at hloaded
  split_ifs at hloaded with hkeys
  · cases hloaded
  · obtain ⟨⟨⟩, hchecked, -⟩ := bind_eq_ok.mp hloaded
    have haccepts := ((checkEnvelope_ok snapshotValidator_iff _).mp hchecked).1
    rw [hrefused] at haccepts
    cases haccepts

end CollibraGovernance.Snapshots
