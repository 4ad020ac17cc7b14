import CollibraGovernance.Comparison.LoadSpec

/-! A written comparison is loaded back: the schema accepts it and its identity is its own. -/
namespace CollibraGovernance.Comparison
open Library Domain Identity Snapshots

/-- What `hexdigest` gives for any text: 64 lower-case hexadecimal digits. -/
def HexDigest (sha256 : String → String) : Prop :=
  ∀ hashed, (sha256 hashed).toList.length = 64 ∧
    ∀ c ∈ (sha256 hashed).toList, c ∈ "0123456789abcdef".toList

section Schema
variable {sha256 : String → String}

lemma digestPattern_of (h : HexDigest sha256) (hashed : String) : digestPattern (sha256 hashed) = true := by
  obtain ⟨hlength, hdigits⟩ := h hashed
  have hlast : (sha256 hashed).toList.getLast? ≠ some '\n' := by
    intro hlast
    exact absurd (hdigits _ (List.mem_of_getLast? hlast)) (by decide)
  simp only [digestPattern, hlast, if_false, hlength, decide_true, Bool.true_and, List.all_eq_true,
    List.contains_iff_mem]
  exact hdigits

lemma text_of_ne {s : String} (h : s ≠ "") : JsonSchema.text 1 (.str s) = true := by
  have hne : s.toList ≠ [] := fun hnil => h (String.toList_eq_nil_iff.mp hnil)
  exact decide_eq_true (List.length_pos_iff.mpr hne)

lemma contentIdentitySchema_of (h : HexDigest sha256) {c : ContentIdentity} (halgorithm : c.algorithm = algorithmName)
    (hversion : c.hashingContractVersion = hashingContractVersion) (hdigest : ∃ hashed, c.digest = sha256 hashed) :
    contentIdentitySchema c.toDict = true := by
  obtain ⟨hashed, hdigest⟩ := hdigest
  have hpattern := digestPattern_of h hashed
  rw [ContentIdentity.toDict, halgorithm, hversion, hdigest]
  simp [contentIdentitySchema, JsonSchema.object, JsonSchema.texts, JsonSchema.matching, hpattern, Json.lookup,
    algorithmName, hashingContractVersion]

lemma artifactMetadataSchema_of (h : HexDigest sha256) {a : ArtifactMetadata} (ha : ProperMetadata sha256 a) :
    artifactMetadataSchema a.toDict = true := by
  have hidentity := contentIdentitySchema_of h ha.algorithm ha.hashing ha.digest
  have hversion : a.scannerContractVersion ≠ "" := by
    rw [ha.version]
    decide
  simp [artifactMetadataSchema, ArtifactMetadata.toDict, JsonSchema.object, Json.lookup, hidentity,
    text_of_ne ha.sourceName, text_of_ne ha.databaseName, text_of_ne ha.systemType, text_of_ne ha.scanner,
    text_of_ne hversion]

lemma alignmentPairSchema_of {x y : String} (hx : x ≠ "") (hy : y ≠ "") :
    optionalSchema alignmentPairSchema (((alignmentPair x y).map AlignmentPair.toDict).getD .null) = true := by
  rw [optionalSchema, JsonSchema.oneOf_pair, alignmentPair]
  split_ifs with h
  · exact Or.inl ⟨rfl, rfl⟩
  · refine Or.inr ⟨rfl, ?_⟩
    simp [alignmentPairSchema, AlignmentPair.toDict, JsonSchema.object, Json.lookup, text_of_ne hx, text_of_ne hy]

lemma text_injective : Function.Injective GovernedObjectKind.text := by
  intro a b h
  revert h
  cases a <;> cases b <;> decide

lemma identitySchema_toDict (kind : GovernedObjectKind) (i : ComparisonObjectIdentity) :
    identitySchema kind i.toDict = decide (kind = i.kind) := by
  by_cases h : kind = i.kind
  · subst h
    have hpath : JsonSchema.sized i.kind.arity (some i.kind.arity)
        (JsonSchema.text (if i.kind.arity = 0 then 0 else 1))
          (.arr (i.path.map (fun s => .str s.val))) = true := by
      rw [JsonSchema.sized_iff]
      cases i <;> simp [ComparisonObjectIdentity.kind, ComparisonObjectIdentity.path, GovernedObjectKind.arity,
        text_of_ne, Segment.nonempty]
    simp [identitySchema, ComparisonObjectIdentity.toDict, JsonSchema.object, JsonSchema.texts, Json.lookup,
      hpath]
  · have hne : kind.text ≠ i.kind.text := fun heq => h (text_injective heq)
    simp [identitySchema, ComparisonObjectIdentity.toDict, JsonSchema.object, JsonSchema.texts, h, hne.symm]

lemma comparisonObjectIdentitySchema_toDict (i : ComparisonObjectIdentity) :
    comparisonObjectIdentitySchema i.toDict = true := by
  rw [comparisonObjectIdentitySchema, JsonSchema.oneOf, List.countP_map]
  simp only [Function.comp_def, identitySchema_toDict]
  generalize i.kind = kind
  cases kind <;> decide

lemma comparablePropertyValueSchema_toDict (v : ComparablePropertyValue) :
    comparablePropertyValueSchema v.toDict = true := by
  rw [comparablePropertyValueSchema, JsonSchema.oneOf_pair]
  cases v with
  | missing => exact Or.inr (by decide)
  | present v =>
    refine Or.inl ?_
    simp [ComparablePropertyValue.toDict, JsonSchema.object, JsonSchema.constant, JsonSchema.anything,
      Json.lookup]

lemma propertyChangeSchema_toDict {i : ComparisonObjectIdentity} {c : PropertyChange} (h : ProperProperty i c) :
    propertyChangeSchema c.toDict = true := by
  obtain ⟨segments, -, htext⟩ := h.pointer
  have hslash : c.property.toList.head? = some '/' := by
    rw [← htext, pointerText, String.toList_append]
    rfl
  simp [propertyChangeSchema, PropertyChange.toDict, JsonSchema.object, JsonSchema.matching, Json.lookup, hslash,
    comparablePropertyValueSchema_toDict]

lemma parent_schema (i : ComparisonObjectIdentity) : optionalSchema comparisonObjectIdentitySchema
    ((i.expectedParent.map ComparisonObjectIdentity.toDict).getD .null) = true := by
  rw [optionalSchema, JsonSchema.oneOf_pair]
  cases i.expectedParent with
  | none => exact Or.inl ⟨rfl, by decide⟩
  | some parent => exact Or.inr ⟨rfl, comparisonObjectIdentitySchema_toDict parent⟩

lemma objectChangeOf_toDict {o : ObjectChange} (h : ProperChange o) (change : ChangeKind) :
    objectChangeOf change o.toDict = decide (change = o.change) := by
  by_cases hchange : change = o.change
  · subst hchange
    have hproperties : (if o.change = .changed then JsonSchema.sized 1 none propertyChangeSchema
        else JsonSchema.sized 0 (some 0) propertyChangeSchema)
          (.arr (o.propertyChanges.map PropertyChange.toDict)) = true := by
      have hall : ∀ j ∈ o.propertyChanges.map PropertyChange.toDict, propertyChangeSchema j = true := by
        intro j hj
        obtain ⟨c, hc, rfl⟩ := List.mem_map.mp hj
        exact propertyChangeSchema_toDict (h.property hc)
      split_ifs with hkind
      · refine JsonSchema.sized_iff.mpr ⟨?_, by rintro n ⟨⟩, hall⟩
        rw [List.length_map]
        exact List.length_pos_iff.mpr (h.nonempty hkind)
      · rw [h.empty hkind]
        decide
    have hidentity := comparisonObjectIdentitySchema_toDict o.objectIdentity
    have hparent := parent_schema o.objectIdentity
    rw [← h.parent] at hparent
    simp [objectChangeOf, ObjectChange.toDict, JsonSchema.object, JsonSchema.texts, Json.lookup, hidentity, hparent,
      hproperties]
  · have hne : change.text ≠ o.change.text := by
      intro heq
      apply hchange
      revert heq
      cases change <;> cases o.change <;> decide
    simp [objectChangeOf, ObjectChange.toDict, JsonSchema.object, JsonSchema.texts, hchange, hne.symm]

lemma parentKindConstraint_toDict {o : ObjectChange} (h : ProperChange o) :
    parentKindConstraint o.toDict = true := by
  have hkind : kindTold o.toDict = .str o.objectIdentity.kind.text := by
    simp [kindTold, membersOf, ObjectChange.toDict, ComparisonObjectIdentity.toDict, Json.get, Json.lookup]
  have hparent : Json.lookup (membersOf o.toDict) "parent_identity" =
      some ((o.objectIdentity.expectedParent.map ComparisonObjectIdentity.toDict).getD .null) := by
    simp [membersOf, ObjectChange.toDict, Json.lookup, h.parent]
  rw [parentKindConstraint, hkind, hparent]
  cases o.objectIdentity <;>
    simp [parentSchemas, ComparisonObjectIdentity.kind, ComparisonObjectIdentity.expectedParent,
      GovernedObjectKind.text, identitySchema_toDict, JsonSchema.isNull, JsonSchema.constant]

theorem objectChangeSchema_toDict {o : ObjectChange} (h : ProperChange o) :
    objectChangeSchema o.toDict = true := by
  rw [objectChangeSchema, parentKindConstraint_toDict h, Bool.and_true, JsonSchema.oneOf]
  simp only [List.countP_cons, List.countP_nil, objectChangeOf_toDict h]
  cases o.change <;> decide

end Schema

/-- The members of the document of a result. -/
def ComparisonResult.members (sha256 : String → String) (r : ComparisonResult) : List (String × Json) :=
  r.dictWithoutIdentity ++
    [("content_identity", (snapshotComparisonIdentity sha256 (.obj r.dictWithoutIdentity)).toDict)]

section Document
variable {sha256 : String → String} {isPrintable : Char → Bool} {r : ComparisonResult}
  {iterErrors : Json → List JsonSchema.Failure}

lemma members_nodup (sha256 : String → String) (r : ComparisonResult) :
    ((r.members sha256).map Prod.fst).Nodup := by
  have hkeys : ["baseline", "candidate", "comparison_schema", "comparison_version", "direction",
      "object_changes", "root_alignment", "status", "summary", "writes_performed",
      "content_identity"].Nodup := by decide
  exact hkeys

lemma normalize_contentIdentity (c : ContentIdentity) : c.toDict.normalize = c.toDict := by
  have hkeys : SortedBy id ["algorithm", "digest", "hashing_contract_version"] := by decide
  exact Json.normalize_obj_self hkeys (by simp)

lemma normalize_metadata (a : ArtifactMetadata) : a.toDict.normalize = a.toDict := by
  have hkeys : SortedBy id ["content_identity", "database_name", "scanner", "scanner_contract_version",
    "source_name", "system_type"] := by decide
  exact Json.normalize_obj_self hkeys (by simp [normalize_contentIdentity])

lemma normalize_alignment (a : RootAlignmentResult) : a.toDict.normalize = a.toDict := by
  have hkeys : SortedBy id ["database", "source"] := by decide
  have hpair : ∀ p : Option AlignmentPair, ((p.map AlignmentPair.toDict).getD .null).normalize =
      (p.map AlignmentPair.toDict).getD .null := by
    intro p
    have hkeys : SortedBy id ["baseline", "candidate"] := by decide
    cases p with
    | none => rfl
    | some p =>
      exact Json.normalize_obj_self hkeys (by simp)
  exact Json.normalize_obj_self hkeys (by simp [hpair])

lemma normalize_value (v : ComparablePropertyValue) : v.toDict.normalize = v.toDict := by
  cases v with
  | missing => rfl
  | present v =>
    have hkeys : SortedBy id ["has_value", "value"] := by decide
    exact Json.normalize_obj_self hkeys (by simp [v.canonical])

lemma normalize_propertyChange (c : PropertyChange) : c.toDict.normalize = c.toDict := by
  have hkeys : SortedBy id ["baseline", "candidate", "property"] := by decide
  exact Json.normalize_obj_self hkeys (by simp [normalize_value])

lemma normalize_objectChange (o : ObjectChange) : o.toDict.normalize = o.toDict := by
  have hkeys : SortedBy id ["change", "object_identity", "parent_identity", "property_changes"] := by decide
  have hparent : ((o.parentIdentity.map ComparisonObjectIdentity.toDict).getD .null).normalize =
      (o.parentIdentity.map ComparisonObjectIdentity.toDict).getD .null := by
    cases o.parentIdentity with
    | none => rfl
    | some parent => exact parent.normalize_toDict
  exact Json.normalize_obj_self hkeys (by simp [ComparisonObjectIdentity.normalize_toDict, hparent, normalize_propertyChange])

/-- The result as it is built. -/
lemma presents_built (sha256 : String → String) (r : ComparisonResult) : Presents (r.members sha256) r := by
  constructor
  case summary => exact ⟨_, rfl, rfl, rfl, rfl, rfl, rfl⟩
  all_goals rfl

/-- The result as it is written, with the members in key order. -/
theorem presents_written (sha256 : String → String) (r : ComparisonResult) :
    Presents (Json.sortedMembers (r.members sha256)) r := by
  have hget := fun key => Json.get_sortedMembers (r.members sha256) key
  have h := presents_built sha256 r
  constructor
  case direction => rw [hget, h.direction]; rfl
  case writes => rw [hget, h.writes]; rfl
  case baseline => rw [hget, h.baseline, normalize_metadata]
  case candidate => rw [hget, h.candidate, normalize_metadata]
  case alignment => rw [hget, h.alignment, normalize_alignment]
  case changes =>
    rw [hget, h.changes, Json.normalize_arr, List.map_map]
    exact congrArg Json.arr (List.map_congr_left (fun o _ => normalize_objectChange o))
  case status => rw [hget, h.status]; rfl
  case summary =>
    obtain ⟨members, hmembers, hadded, hremoved, hchanged, hunchanged, hproperties⟩ := h.summary
    refine ⟨Json.sortedMembers members, ?_, ?_, ?_, ?_, ?_, ?_⟩
    · rw [hget, hmembers, Json.normalize_obj_eq]
    · rw [Json.get_sortedMembers, hadded]; rfl
    · rw [Json.get_sortedMembers, hremoved]; rfl
    · rw [Json.get_sortedMembers, hchanged]; rfl
    · rw [Json.get_sortedMembers, hunchanged]; rfl
    · rw [Json.get_sortedMembers, hproperties]; rfl

lemma summarySchema_normalize (s : ComparisonSummary) : summarySchema s.toDict.normalize = true := by
  rw [ComparisonSummary.toDict, Json.normalize_obj_eq, summarySchema,
    JsonSchema.object_perm (Json.sortedMembers_perm _)]
  simp [JsonSchema.object, JsonSchema.integer, Json.lookup]

lemma rootAlignmentSchema_of (hr : ProperResult sha256 r) :
    rootAlignmentSchema r.rootAlignment.toDict = true := by
  have hsource := alignmentPairSchema_of hr.baseline.sourceName hr.candidate.sourceName
  have hdatabase := alignmentPairSchema_of hr.baseline.databaseName hr.candidate.databaseName
  rw [hr.alignment]
  simp [rootAlignmentSchema, RootAlignmentResult.toDict, JsonSchema.object, Json.lookup, hsource, hdatabase]

lemma status_eq (hr : ProperResult sha256 r) : r.status = "identical" ∨ r.status = "different" := by
  rw [hr.status, statusOf]
  split_ifs
  · exact Or.inl rfl
  · exact Or.inr rfl

/-- The schema accepts the written result. -/
theorem comparisonSchemaAccepts_of (hdigest : HexDigest sha256) (hr : ProperResult sha256 r) :
    comparisonSchemaAccepts (.obj (Json.sortedMembers (r.members sha256))) = true := by
  have hbaseline := artifactMetadataSchema_of hdigest hr.baseline
  have hcandidate := artifactMetadataSchema_of hdigest hr.candidate
  have hidentity : ∀ j, contentIdentitySchema (snapshotComparisonIdentity sha256 j).toDict = true :=
    fun j => contentIdentitySchema_of hdigest rfl rfl ⟨_, rfl⟩
  have hchanges : JsonSchema.array objectChangeSchema
      (.arr (r.objectChanges.map (Json.normalize ∘ ObjectChange.toDict))) = true := by
    refine JsonSchema.array_iff.mpr ⟨_, rfl, ?_⟩
    intro j hj
    obtain ⟨o, ho, rfl⟩ := List.mem_map.mp hj
    rw [Function.comp_apply, normalize_objectChange]
    exact objectChangeSchema_toDict (hr.changes o ho)
  have hstatus := status_eq hr
  have halignment := rootAlignmentSchema_of hr
  have hsummary := summarySchema_normalize r.summary
  rw [comparisonSchemaAccepts, JsonSchema.object_perm (Json.sortedMembers_perm _)]
  simp [comparisonProperties, ComparisonResult.members, ComparisonResult.dictWithoutIdentity,
    JsonSchema.object, JsonSchema.texts, JsonSchema.integerConst, Json.lookup, normalize_metadata,
    normalize_alignment, normalize_contentIdentity, hbaseline, hcandidate, hidentity, hchanges, hstatus,
    halignment, hsummary]

/-- Members without one of them, in key order, tell the same document as before. -/
lemma withoutIdentity_normalize (sha256 : String → String) (r : ComparisonResult) :
    (Json.obj ((Json.sortedMembers (r.members sha256)).filter (fun m => m.1 ≠ "content_identity"))).normalize =
      (Json.obj r.dictWithoutIdentity).normalize := by
  have hmembers : r.members sha256 = r.dictWithoutIdentity ++
      [("content_identity", (snapshotComparisonIdentity sha256 (.obj r.dictWithoutIdentity)).toDict)] := rfl
  have hnodup := members_nodup sha256 r
  rw [hmembers] at hnodup ⊢
  exact Json.normalize_without hnodup

lemma contentIdentityOf_toDict (c : ContentIdentity) :
    contentIdentityOf isPrintable (membersOf c.toDict) = c := rfl

/-- Whatever is compared is loaded back. -/
theorem loadComparisonArtifact_ok (hdigest : HexDigest sha256) (hr : ProperResult sha256 r)
    (hvalidator : ∀ d, iterErrors d = [] ↔ comparisonSchemaAccepts d = true) :
    loadComparisonArtifact sha256 isPrintable iterErrors (r.toDict sha256).normalize =
      .ok (Json.sortedMembers (r.members sha256)) := by
  have hget := fun key => Json.get_sortedMembers (r.members sha256) key
  have hnormal : (r.toDict sha256).normalize = .obj (Json.sortedMembers (r.members sha256)) :=
    Json.normalize_obj_eq _
  have hschema : Json.get (Json.sortedMembers (r.members sha256)) "comparison_schema" =
      .str comparisonSchema := (hget _).trans rfl
  have hversion : Json.get (Json.sortedMembers (r.members sha256)) "comparison_version" =
      .str comparisonVersion := (hget _).trans rfl
  have herrors : iterErrors (.obj (Json.sortedMembers (r.members sha256))) = [] :=
    (hvalidator _).mpr (comparisonSchemaAccepts_of hdigest hr)
  have hidentity : Json.get (Json.sortedMembers (r.members sha256)) "content_identity" =
      .obj (membersOf (snapshotComparisonIdentity sha256 (.obj r.dictWithoutIdentity)).toDict) :=
    (hget _).trans (normalize_contentIdentity _)
  have hsame : snapshotComparisonIdentity sha256 _ = snapshotComparisonIdentity sha256 (.obj r.dictWithoutIdentity) :=
    sha256Identity_congr (withoutIdentity_normalize sha256 r)
  have hsemantics := validateComparisonResultSemantics_ok hr (presents_written sha256 r)
  rw [hnormal, loadComparisonArtifact]
  simp only [hschema, hversion, herrors, hidentity, contentIdentityOf_toDict, hsemantics, ok_bind, ne_eq,
    not_true_eq_false, if_false]
  rw [if_neg]
  · rfl
  · exact fun hne => hne hsame.symm

variable {a b : GovernanceSnapshot} {ack : RootAlignmentAck}

/-- What a comparison builds passes the loader's checks, and what it writes is loaded back equal. -/
theorem comparison_reloads (hdigest : HexDigest sha256)
    (hvalidator : ∀ d, iterErrors d = [] ↔ comparisonSchemaAccepts d = true)
    (h : buildComparisonResult sha256 isPrintable a b ack = .ok r) :
    validateComparisonResultSemantics (r.members sha256) = .ok () ∧
      ∃ payload, loadComparisonArtifact sha256 isPrintable iterErrors (r.toDict sha256).normalize =
        .ok payload ∧ sameDocument (.obj payload) (r.toDict sha256) = true := by
  have hr := properResult_of_ok h
  refine ⟨validateComparisonResultSemantics_ok hr (presents_built sha256 r), _,
    loadComparisonArtifact_ok hdigest hr hvalidator, ?_⟩
  rw [sameDocument, ← Json.normalize_obj_eq, Json.normalize_idem]
  exact decide_eq_true rfl

end Document

/-- A digest of the right form. -/
def constantDigest : String → String := fun _ => String.ofList (List.replicate 64 'a')

lemma constantDigest_hex : HexDigest constantDigest := by
  intro hashed
  have hdigits : (constantDigest hashed).toList = List.replicate 64 'a' := String.toList_ofList
  rw [hdigits]
  refine ⟨List.length_replicate, ?_⟩
  intro c hc
  rw [List.eq_of_mem_replicate hc]
  decide

def validatorOf (accepts : Json → Bool) (d : Json) : List JsonSchema.Failure :=
  if accepts d then [] else [⟨"type", []⟩]

lemma validatorOf_iff (accepts : Json → Bool) (d : Json) : validatorOf accepts d = [] ↔ accepts d = true := by
  rw [validatorOf]
  split_ifs with h <;> simp [h]

theorem shops_comparison_reloads : ∃ r,
    buildComparisonResult (fun _ => String.ofList (List.replicate 64 'a')) (fun _ => true)
      (shopSnapshot customerShop) (shopSnapshot anonymousShop) ⟨false, false⟩ = .ok r ∧
    ∃ payload, loadComparisonArtifact (fun _ => String.ofList (List.replicate 64 'a')) (fun _ => true)
      (fun d => if comparisonSchemaAccepts d then [] else [⟨"type", []⟩])
        (r.toDict (fun _ => String.ofList (List.replicate 64 'a'))).normalize = .ok payload := by
  have hok : (buildComparisonResult (fun _ => String.ofList (List.replicate 64 'a')) (fun _ => true)
      (shopSnapshot customerShop) (shopSnapshot anonymousShop) ⟨false, false⟩).toOption.isSome = true := by
    decide +kernel
  obtain ⟨r, hr⟩ := exists_ok hok
  have hdigest : HexDigest (fun _ => String.ofList (List.replicate 64 'a')) := constantDigest_hex
  have hvalidator : ∀ d, (if comparisonSchemaAccepts d then [] else [(⟨"type", []⟩ : JsonSchema.Failure)]) = [] ↔
      comparisonSchemaAccepts d = true := validatorOf_iff comparisonSchemaAccepts
  obtain ⟨-, payload, hpayload, -⟩ := comparison_reloads hdigest hvalidator hr
  exact ⟨r, hr, payload, hpayload⟩

end CollibraGovernance.Comparison
