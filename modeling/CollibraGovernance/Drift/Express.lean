import CollibraGovernance.Comparison.Accepted
import CollibraGovernance.Comparison.RoundTrip
import CollibraGovernance.Drift.ClassifySpec

/-! The policy language can express every difference. -/
namespace CollibraGovernance.Drift
open Library Identity Comparison

/-- The members by which a rule selects a difference. -/
def matchMembers (d : Difference) : List (String × Json) :=
  [("change", .str d.change.text), ("object", d.objectIdentity.toDict)] ++
    (d.observed.map (fun c => ("property", Json.str c.property))).toList

/-- Both observed sides of a property. -/
def expectedMembers (c : PropertyChange) : List (String × Json) :=
  [("baseline", c.baseline.toDict), ("candidate", c.candidate.toDict)]

/-- The rule about exactly one difference. -/
def ruleDocument (ruleId : String) (d : Difference) : Json :=
  .obj ([("id", .str ruleId), ("match", .obj (matchMembers d))] ++
    (d.observed.map (fun c => ("expected", Json.obj (expectedMembers c)))).toList)

/-- One rule for each difference, under the id that comes with it. -/
def policyDocument (named : List (String × Difference)) : Json :=
  .obj [("drift_schema", .str driftPolicySchema), ("drift_version", .str driftPolicyVersion),
    ("rules", .arr (named.map (fun n => ruleDocument n.1 n.2)))]

/-- The rule that its document stands for. -/
def ruleFor (ruleId : String) (d : Difference) : NormalizedDriftRule :=
  ⟨strip ruleId, d.change, d.objectIdentity, d.observed.map PropertyChange.property,
    d.observed.map (fun c => ⟨some c.baseline, some c.candidate⟩)⟩

/-- A difference that the loader lets through. -/
structure AcceptedDifference (d : Difference) : Prop where
  observed : d.observed = none ↔ d.change ≠ .changed
  root : d.objectIdentity.kind = .dataSource ∨ d.objectIdentity.kind = .database → d.change = .changed
  property : ∀ c ∈ d.observed, ProperProperty d.objectIdentity c

section Differences
variable {changes : List ObjectChange}

lemma mem_differencesOf {o : ObjectChange} {d : Difference} : d ∈ differencesOf o ↔
    d.change = o.change ∧ d.objectIdentity = o.objectIdentity ∧ d.parentIdentity = o.parentIdentity ∧
      ((o.change = .changed ∧ ∃ c ∈ o.propertyChanges, d.observed = some c) ∨
        (o.change ≠ .changed ∧ d.observed = none)) := by
  rw [differencesOf]
  cases hchange : o.change with
  | changed =>
    simp only [List.mem_map]
    constructor
    · rintro ⟨c, hc, rfl⟩
      exact ⟨rfl, rfl, rfl, Or.inl ⟨trivial, c, hc, rfl⟩⟩
    · rintro ⟨hkind, hidentity, hparent, ⟨-, c, hc, hobserved⟩ | ⟨hne, -⟩⟩
      · obtain ⟨change, i, parent, observed⟩ := d
        cases hkind; cases hidentity; cases hparent; cases hobserved
        exact ⟨c, hc, rfl⟩
      · exact absurd rfl hne
  | _ =>
    simp only [List.mem_singleton]
    constructor
    · rintro rfl
      exact ⟨rfl, rfl, rfl, Or.inr ⟨by decide, rfl⟩⟩
    · rintro ⟨hkind, hidentity, hparent, ⟨hne, -⟩ | ⟨-, hobserved⟩⟩
      · cases hne
      · obtain ⟨change, i, parent, observed⟩ := d
        cases hkind; cases hidentity; cases hparent; cases hobserved
        rfl

lemma acceptedDifference_of (h : ∀ o ∈ changes, AcceptedChange o) {d : Difference}
    (hd : d ∈ differences changes) : AcceptedDifference d := by
  obtain ⟨o, ho, hd⟩ := List.mem_flatMap.mp hd
  obtain ⟨hkind, hidentity, -, hobserved⟩ := mem_differencesOf.mp hd
  have haccepted := h o ho
  rcases hobserved with ⟨hchange, c, hc, hobserved⟩ | ⟨hchange, hobserved⟩
  · refine ⟨?_, ?_, ?_⟩
    · simp [hobserved, hkind, hchange]
    · exact fun _ => hkind.trans hchange
    · intro c' hc'
      rw [hobserved] at hc'
      cases hc'
      exact hidentity ▸ haccepted.properties c hc
  · refine ⟨?_, ?_, ?_⟩
    · simp [hobserved, hkind, hchange]
    · intro hroot
      exact hkind.trans (haccepted.root (hidentity ▸ hroot))
    · intro c hc
      rw [hobserved] at hc
      cases hc

/-- No two differences have one selector. -/
lemma selectorKeys_nodup (h : ∀ o ∈ changes, AcceptedChange o)
    (hnodup : (changes.map ObjectChange.objectIdentity).Nodup) :
    ((differences changes).map Difference.selectorKey).Nodup := by
  rw [differences, List.map_flatMap, List.nodup_flatMap]
  refine ⟨?_, ?_⟩
  · intro o ho
    rw [differencesOf]
    cases hchange : o.change with
    | changed =>
      have hproperties := (h o ho).nodup
      rw [List.map_map]
      refine List.Nodup.of_map (fun k : SelectorKey => k.2.2) ?_
      have hmap : (o.propertyChanges.map (Difference.selectorKey ∘ fun c =>
          ⟨.changed, o.objectIdentity, o.parentIdentity, some c⟩)).map (fun k : SelectorKey => k.2.2) =
            (o.propertyChanges.map PropertyChange.property).map some := by
        simp [Difference.selectorKey, Function.comp_def]
      rw [hmap]
      exact hproperties.map (Option.some_injective _)
    | _ => exact List.nodup_singleton _
  · rw [List.Nodup, List.pairwise_map] at hnodup
    refine hnodup.imp ?_
    intro o o' hne k hk hk'
    obtain ⟨d, hd, rfl⟩ := List.mem_map.mp hk
    obtain ⟨d', hd', hkey⟩ := List.mem_map.mp hk'
    obtain ⟨-, hidentity, -⟩ := mem_differencesOf.mp hd
    obtain ⟨-, hidentity', -⟩ := mem_differencesOf.mp hd'
    have hbytes : d'.objectIdentity.canonicalBytes = d.objectIdentity.canonicalBytes :=
      congrArg (fun k : SelectorKey => k.2.1) hkey
    exact hne (hidentity ▸ hidentity' ▸ (ComparisonObjectIdentity.canonicalBytes_inj hbytes).symm)

end Differences

section Rules
variable {d : Difference}

lemma rejectExtraKeys_ok {raw : List (String × Json)} {allowed : List String} (path : String)
    (h : ∀ m ∈ raw, m.1 ∈ allowed) : rejectExtraKeys raw path allowed = .ok () := by
  have hnone : (raw.map Prod.fst).filter (fun key => !allowed.contains key) = [] := by
    refine List.filter_eq_nil_iff.mpr ?_
    intro key hkey
    obtain ⟨m, hm, rfl⟩ := List.mem_map.mp hkey
    simpa using h m hm
  rw [rejectExtraKeys, hnone]
  rfl

lemma require_bind {α : Type} {holds : Bool} (h : holds = true) (path message : String)
    (f : Unit → Checked α) : (require holds path message >>= f) = f () := by
  rw [require_eq_ok.mpr h]
  rfl

lemma normalizeObject_toDict (i : ComparisonObjectIdentity) (path : String) :
    normalizeObject i.toDict path = .ok i := by
  rw [ComparisonObjectIdentity.toDict, normalizeObject, rejectExtraKeys_ok path (by simp), ok_bind]
  simp [Json.lookup, pathTexts_segments, i.create_self]
  rfl

lemma normalizeComparableValue_toDict (v : ComparablePropertyValue) (path : String) :
    normalizeComparableValue v.toDict path = .ok v := by
  cases v with
  | missing =>
    rw [ComparablePropertyValue.toDict, normalizeComparableValue, rejectExtraKeys_ok path (by simp), ok_bind]
    rfl
  | present v =>
    rw [ComparablePropertyValue.toDict, normalizeComparableValue, rejectExtraKeys_ok path (by simp), ok_bind]
    simp [Json.get, Json.lookup, ComparablePropertyValue.of]
    rfl

lemma normalizeProperty_of (h : AcceptedDifference d) (path : String) :
    normalizeProperty (matchMembers d) d.change d.objectIdentity.kind path =
      .ok (d.observed.map PropertyChange.property) := by
  rw [normalizeProperty, matchMembers]
  cases hobserved : d.observed with
  | none =>
    have hchange : decide (d.change ≠ .changed) = true := decide_eq_true (h.observed.mp hobserved)
    have hlookup : Json.lookup ([("change", .str d.change.text), ("object", d.objectIdentity.toDict)] ++
        (Option.map (fun c : PropertyChange => ("property", Json.str c.property)) none).toList) "property" =
          none := by
      simp [Json.lookup]
    rw [hlookup]
    dsimp only
    rw [require_bind hchange]
    rfl
  | some c =>
    have hproper := h.property c (by rw [hobserved]; rfl)
    have hchange : decide (d.change = .changed) = true := by
      by_contra hne
      have hnone := h.observed.mpr (fun heq => hne (decide_eq_true heq))
      rw [hobserved] at hnone
      cases hnone
    obtain ⟨segments, hne, htext⟩ := hproper.pointer
    have hparse : parsePointer c.property = .ok segments := htext ▸ parsePointer_pointerText hne
    have htext' : decide (pointerText segments = c.property) = true := decide_eq_true htext
    have hlookup : Json.lookup ([("change", .str d.change.text), ("object", d.objectIdentity.toDict)] ++
        (Option.map (fun c : PropertyChange => ("property", Json.str c.property)) (some c)).toList) "property" =
          some (.str c.property) := by
      simp [Json.lookup]
    rw [hlookup]
    dsimp only
    rw [require_bind hchange, hparse]
    dsimp only
    rw [require_bind htext', require_bind hproper.compatible]
    rfl

lemma normalizeExpected_of (h : AcceptedDifference d) (path : String) :
    normalizeExpected ((d.observed.map (fun c => Json.obj (expectedMembers c))).getD .null) d.change
      d.objectIdentity (d.observed.map PropertyChange.property) path =
        .ok (d.observed.map (fun c => ⟨some c.baseline, some c.candidate⟩)) := by
  cases hobserved : d.observed with
  | none => rfl
  | some c =>
    have hproper := h.property c (by rw [hobserved]; rfl)
    have hchange : d.change = .changed := by
      by_contra hne
      have hnone := h.observed.mpr hne
      rw [hobserved] at hnone
      cases hnone
    have hsides : ∀ side v, Json.lookup (expectedMembers c) side = some v.toDict →
        normalizeSide (expectedMembers c) side path = .ok (some v) := by
      intro side v hv
      rw [normalizeSide, hv]
      dsimp only
      rw [normalizeComparableValue_toDict]
      rfl
    have hbaseline := hsides "baseline" c.baseline (by simp [expectedMembers, Json.lookup])
    have hcandidate := hsides "candidate" c.candidate (by simp [expectedMembers, Json.lookup])
    have hdifferent : (!((some c.baseline).isSome && decide (some c.baseline = some c.candidate))) = true := by
      simpa using hproper.different
    have hcompatible : ∀ side v, comparableChangeValueCompatible d.objectIdentity c.property v.toDict = true →
        requireCompatible d.objectIdentity c.property side path (some v) = .ok () := by
      intro side v hv
      rw [requireCompatible, require_eq_ok]
      simpa using hv
    rw [hchange, Option.map_some, Option.getD_some, Option.map_some, normalizeExpected]
    rw [rejectExtraKeys_ok path (by simp [expectedMembers]), ok_bind, require_bind (by rfl), hbaseline, ok_bind,
      hcandidate, ok_bind, hcompatible "baseline" _ hproper.baseline, ok_bind,
      hcompatible "candidate" _ hproper.candidate, ok_bind, require_bind hdifferent]
    rfl

lemma get_ruleDocument (ruleId : String) (d : Difference) :
    Json.get (membersOf (ruleDocument ruleId d)) "id" = .str ruleId ∧
      Json.get (membersOf (ruleDocument ruleId d)) "match" = .obj (matchMembers d) ∧
      Json.get (membersOf (ruleDocument ruleId d)) "expected" =
        (d.observed.map (fun c => Json.obj (expectedMembers c))).getD .null := by
  rw [ruleDocument, membersOf]
  cases d.observed <;> simp [Json.get, Json.lookup]

lemma get_matchMembers (d : Difference) : Json.get (matchMembers d) "change" = .str d.change.text ∧
    Json.get (matchMembers d) "object" = d.objectIdentity.toDict := by
  rw [matchMembers]
  cases d.observed <;> simp [Json.get, Json.lookup]

lemma changeKindOf_text (change : ChangeKind) : changeKindOf (.str change.text) = some change := by
  cases change <;> decide

/-- The rule about a difference is read as such. -/
theorem normalizeRule_of (h : AcceptedDifference d) {ruleId : String} (hid : strip ruleId ≠ "") (path : String) :
    normalizeRule (ruleDocument ruleId d) path = .ok (ruleFor ruleId d) := by
  have hmembers : ∀ m ∈ membersOf (ruleDocument ruleId d), m.1 ∈ ["id", "match", "expected"] := by
    rw [ruleDocument, membersOf]
    cases d.observed <;> simp
  have hmatch : ∀ m ∈ matchMembers d, m.1 ∈ ["change", "object", "property"] := by
    rw [matchMembers]
    cases d.observed <;> simp
  have hid' : decide (strip ruleId ≠ "") = true := decide_eq_true hid
  have hroot : (!(decide (d.change ≠ .changed) && (decide (d.objectIdentity.kind = .dataSource) ||
      decide (d.objectIdentity.kind = .database)))) = true := by
    have := h.root
    by_cases hchange : d.change = .changed
    · simp [hchange]
    · simp only [hchange, imp_false, not_or] at this
      simp [this.1, this.2]
  obtain ⟨hgetId, hgetMatch, hgetExpected⟩ := get_ruleDocument ruleId d
  obtain ⟨hgetChange, hgetObject⟩ := get_matchMembers d
  have hdocument : ruleDocument ruleId d = .obj (membersOf (ruleDocument ruleId d)) := rfl
  rw [hdocument, normalizeRule, rejectExtraKeys_ok path hmembers, ok_bind, hgetId]
  dsimp only
  rw [require_bind hid', hgetMatch]
  dsimp only
  rw [rejectExtraKeys_ok _ hmatch, ok_bind, hgetChange, changeKindOf_text]
  dsimp only
  rw [hgetObject, normalizeObject_toDict, ok_bind, require_bind hroot, normalizeProperty_of h, ok_bind,
    hgetExpected, normalizeExpected_of h, ok_bind]
  rfl

end Rules

section Schema
variable {d : Difference}

lemma tildesEscaped_cons {c : Char} (h : c ≠ '~') (rest : List Char) :
    tildesEscaped (c :: rest) = tildesEscaped rest := by
  rw [tildesEscaped]
  · rintro heq
    exact absurd heq h
  · rintro _ _ heq
    exact absurd heq h

lemma tildesEscaped_escapeSegment (segment rest : List Char) :
    tildesEscaped (escapeSegment segment ++ rest) = tildesEscaped rest := by
  induction segment with
  | nil => rfl
  | cons c segment ih =>
    rw [escapeSegment_cons, List.append_assoc]
    split_ifs with htilde hslash
    · exact ih
    · exact ih
    · rw [List.singleton_append, tildesEscaped_cons htilde, ih]

lemma tildesEscaped_pointerText (segments : List String) : tildesEscaped (pointerText segments).toList = true := by
  have hraws : ∀ raws : List (List Char),
      tildesEscaped (['/'].intercalate (raws.map escapeSegment)) = true := by
    intro raws
    induction raws with
    | nil => rfl
    | cons raw rest ih =>
      cases rest with
      | nil =>
        have hone := tildesEscaped_escapeSegment raw []
        rw [List.append_nil] at hone
        rw [List.map_singleton, List.intercalate_singleton, hone]
        rfl
      | cons next rest =>
        rw [List.map_cons, List.map_cons, List.intercalate_cons_cons, ← List.map_cons, List.append_assoc,
          tildesEscaped_escapeSegment, List.singleton_append, tildesEscaped_cons (by decide)]
        exact ih
  rw [pointerText, String.toList_append, String.toList_intercalate, List.map_map]
  have hsegments := hraws (segments.map String.toList)
  rw [List.map_map] at hsegments
  have hslash : ("/" : String).toList = ['/'] := rfl
  rw [hslash, List.singleton_append, tildesEscaped_cons (by decide)]
  simpa [Function.comp_def] using hsegments

lemma two_le_of_compatible {kind : GovernedObjectKind} {pointer : String}
    (h : comparisonChangePropertyCompatibleWithKind kind pointer = true) : 2 ≤ pointer.toList.length := by
  have hpath : propertyPathCompatibleWithKind kind pointer = true := by
    rw [comparisonChangePropertyCompatibleWithKind] at h
    split_ifs at h
    exact h
  rw [propertyPathCompatibleWithKind] at hpath
  split_ifs at hpath with htechnical
  · have hlength := (List.isPrefixOf_iff_prefix.mp htechnical).length_le
    exact le_trans (by decide) hlength
  · have hfixed : ∀ kind, ∀ pointer ∈ fixedPaths kind, 2 ≤ pointer.toList.length := by
      intro kind
      cases kind <;> decide
    exact hfixed kind pointer (by simpa using hpath)

lemma propertyPointerPattern_of {i : ComparisonObjectIdentity} {c : PropertyChange} (h : ProperProperty i c) :
    propertyPointerPattern c.property = true := by
  obtain ⟨segments, -, htext⟩ := h.pointer
  have htildes := tildesEscaped_pointerText segments
  have hslash : c.property.toList.head? = some '/' := by
    rw [← htext, pointerText, String.toList_append]
    rfl
  rw [htext] at htildes
  simp [propertyPointerPattern, two_le_of_compatible h.compatible, hslash, htildes]

lemma nonRootIdentitySchema_toDict {i : ComparisonObjectIdentity} (hsource : i.kind ≠ .dataSource)
    (hdatabase : i.kind ≠ .database) : nonRootIdentitySchema i.toDict = true := by
  rw [nonRootIdentitySchema, JsonSchema.oneOf, List.countP_map]
  simp only [Function.comp_def, identitySchema_toDict]
  generalize i.kind = kind at hsource hdatabase
  cases kind <;> simp_all

/-- The schema knows the rule about a difference. -/
lemma ruleSchema_of (h : AcceptedDifference d) {ruleId : String} (hid : strip ruleId ≠ "") :
    ruleSchema (ruleDocument ruleId d) = true := by
  have hblank : isBlank ruleId = false := by
    rw [← Bool.not_eq_true, ← strip_eq_empty_iff]
    exact hid
  have hruleId : ruleIdSchema (.str ruleId) = true := by
    simp [ruleIdSchema, JsonSchema.matching, hblank]
  rw [ruleSchema, JsonSchema.oneOf]
  cases hobserved : d.observed with
  | none =>
    have hchange := h.observed.mp hobserved
    have hroot : d.objectIdentity.kind ≠ .dataSource ∧ d.objectIdentity.kind ≠ .database :=
      ⟨fun hk => hchange (h.root (Or.inl hk)), fun hk => hchange (h.root (Or.inr hk))⟩
    have hobject := nonRootIdentitySchema_toDict hroot.1 hroot.2
    have htexts : d.change.text = "added" ∨ d.change.text = "removed" := by
      revert hchange
      cases d.change <;> decide
    have hnot : d.change.text ≠ "changed" := by
      revert hchange
      cases d.change <;> decide
    simp [ruleDocument, matchMembers, hobserved, JsonSchema.object, hruleId, matchAddedRemovedSchema,
      matchChangedSchema, JsonSchema.texts, Json.lookup, hobject, htexts, hnot]
  | some c =>
    have hproper := h.property c (by rw [hobserved]; rfl)
    have hpattern := propertyPointerPattern_of hproper
    have hchange : d.change.text = "changed" := by
      have hchanged : d.change = .changed := by
        by_contra hne
        rw [h.observed.mpr hne] at hobserved
        cases hobserved
      rw [hchanged]
      rfl
    have hexpected : expectedSchema (.obj (expectedMembers c)) = true := by
      simp [expectedSchema, expectedMembers, JsonSchema.object, comparablePropertyValueSchema_toDict, membersOf]
    simp [ruleDocument, matchMembers, hobserved, JsonSchema.object, hruleId, matchAddedRemovedSchema,
      matchChangedSchema, JsonSchema.texts, Json.lookup, hchange, hpattern, JsonSchema.matching,
      comparisonObjectIdentitySchema_toDict, hexpected]

end Schema

section Policy
variable {named : List (String × Difference)} {policyErrors : Json → List JsonSchema.Failure}

/-- The policy that its document stands for. -/
def policyFor (named : List (String × Difference)) : NormalizedDriftPolicy :=
  ⟨named.map (fun n => ruleFor n.1 n.2)⟩

/-- The rule about a difference approves it. -/
lemma ruleFor_approves (ruleId : String) (d : Difference) : (ruleFor ruleId d).Approves d := by
  refine ⟨⟨rfl, rfl, rfl⟩, ?_⟩
  intro e he
  obtain ⟨c, hc, rfl⟩ := Option.mem_map.mp he
  refine ⟨c, hc, ?_, ?_⟩
  · intro v hv
    exact (Option.some.inj hv).symm
  · intro v hv
    exact (Option.some.inj hv).symm

/-- Rules about differences of their own do not contradict each other. -/
lemma policyFor_unambiguous (hkeys : (named.map (fun n => n.2.selectorKey)).Nodup) :
    validateSelectorAmbiguity (policyFor named) = .ok () := by
  rw [validateSelectorAmbiguity_eq_ok]
  intro r hr r' hr' hkey
  obtain ⟨n, hn, rfl⟩ := List.mem_map.mp hr
  obtain ⟨n', hn', rfl⟩ := List.mem_map.mp hr'
  rw [List.inj_on_of_nodup_map hkeys hn hn' hkey]

variable (haccepted : ∀ n ∈ named, AcceptedDifference n.2) (hnamed : ∀ n ∈ named, strip n.1 ≠ "")
include haccepted hnamed

lemma policySchemaAccepts_of : policySchemaAccepts (policyDocument named) = true := by
  have hrules : JsonSchema.array ruleSchema (.arr (named.map (fun n => ruleDocument n.1 n.2))) = true := by
    refine JsonSchema.array_iff.mpr ⟨_, rfl, ?_⟩
    intro j hj
    obtain ⟨n, hn, rfl⟩ := List.mem_map.mp hj
    exact ruleSchema_of (haccepted n hn) (hnamed n hn)
  simp [policySchemaAccepts, policyDocument, JsonSchema.object, JsonSchema.texts, Json.lookup, hrules]

/-- A policy with one rule for each of some differences is accepted. -/
theorem parseAndNormalizePolicy_of (hids : (named.map (fun n => strip n.1)).Nodup)
    (hkeys : (named.map (fun n => n.2.selectorKey)).Nodup)
    (hvalidator : ∀ d, policyErrors d = [] ↔ policySchemaAccepts d = true) :
    parseAndNormalizePolicy policyErrors (policyDocument named) = .ok (policyFor named) := by
  have hschema : validatePolicySchema policyErrors (policyDocument named) = .ok () := by
    rw [validatePolicySchema, (hvalidator _).mpr (policySchemaAccepts_of haccepted hnamed)]
    rfl
  have hread : List.Forall₂ (fun raw rule => ∀ path, normalizeRule raw path = .ok rule)
      (named.map (fun n => ruleDocument n.1 n.2)) (policyFor named).rules := by
    rw [policyFor, List.forall₂_map_left_iff, List.forall₂_map_right_iff, List.forall₂_same]
    exact fun n hn path => normalizeRule_of (haccepted n hn) (hnamed n hn) path
  have hids' : (([] ++ (policyFor named).rules).map NormalizedDriftRule.id).Nodup := by
    rw [List.nil_append, policyFor, List.map_map]
    exact hids
  have hrules := normalizeRules_complete 0 hread hids'
  rw [List.nil_append] at hrules
  rw [policyDocument] at hschema ⊢
  rw [parseAndNormalizePolicy, hschema, ok_bind, rejectExtraKeys_ok "/" (by simp), ok_bind]
  simp only [Json.get, Json.lookup]
  have hunambiguous : validateSelectorAmbiguity ⟨(policyFor named).rules⟩ = .ok () :=
    policyFor_unambiguous hkeys
  simp [hrules, hunambiguous, raiseIfAny, diagnose]
  rfl

end Policy

section Comparison
variable {sha256 : String → String} {isPrintable : Char → Bool}
  {iterErrors policyErrors : Json → List JsonSchema.Failure}

/-- What the loader returns has passed its checks. -/
lemma semantics_of_load {document : Json} {payload : List (String × Json)}
    (h : loadComparisonArtifact sha256 isPrintable iterErrors document = .ok payload) :
    validateComparisonResultSemantics payload = .ok () := by
  rw [loadComparisonArtifact.eq_def] at h
  split at h
  case h_2 => cases h
  split_ifs at h
  split at h
  case h_2 => cases h
  dsimp only at h
  split_ifs at h
  obtain ⟨⟨⟩, hsemantics, h⟩ := bind_eq_ok.mp h
  cases h
  exact hsemantics

/-- Under the policy with one rule for each difference every difference is expected. -/
theorem policyFor_expects {changes : List ObjectChange} {named : List (String × Difference)}
    (hp : (policyFor named).Normalized) (hnamed : named.map Prod.snd = differences changes) :
    ∃ classified, classifyDrift changes (policyFor named) = .ok classified ∧
      (classified.map ClassifiedChange.difference).Perm (differences changes) ∧
        ∀ c ∈ classified, c.classification = .expectedDifference := by
  refine ⟨_, classifyDrift_eq hp changes, ?_, ?_⟩
  · refine ((sortBy_perm _ _).map ClassifiedChange.difference).trans (.of_eq ?_)
    rw [List.map_map]
    exact List.map_id _
  · intro c hc
    rw [mem_sortBy] at hc
    obtain ⟨d, hd, rfl⟩ := List.mem_map.mp hc
    obtain ⟨n, hn, rfl⟩ := List.mem_map.mp (hnamed ▸ hd)
    rw [classify_expected hp (mem_differences hd)]
    exact ⟨_, List.mem_map_of_mem hn, ruleFor_approves n.1 n.2⟩

/-- Every difference of every loaded comparison can be approved, all of them by one policy. -/
theorem policy_expresses_every_difference {document : Json} {payload : List (String × Json)}
    (h : loadComparisonArtifact sha256 isPrintable iterErrors document = .ok payload)
    (hvalidator : ∀ d, policyErrors d = [] ↔ policySchemaAccepts d = true) :
    ∃ changes, readObjectChanges payload = some changes ∧
      ∀ named : List (String × Difference), named.map Prod.snd = differences changes →
        (∀ n ∈ named, strip n.1 ≠ "") → (named.map (fun n => strip n.1)).Nodup →
          ∃ policy, parseAndNormalizePolicy policyErrors (policyDocument named) = .ok policy ∧
            ∃ classified, classifyDrift changes policy = .ok classified ∧
              (classified.map ClassifiedChange.difference).Perm (differences changes) ∧
                ∀ c ∈ classified, c.classification = .expectedDifference := by
  obtain ⟨changes, status, hread, haccepted, hnodup, -⟩ := readObjectChanges_of_ok (semantics_of_load h)
  refine ⟨changes, hread, ?_⟩
  intro named hnamed hblank hids
  have hdifferences : ∀ n ∈ named, AcceptedDifference n.2 :=
    fun n hn => acceptedDifference_of haccepted (hnamed ▸ List.mem_map_of_mem hn)
  have hkeys : (named.map (fun n => n.2.selectorKey)).Nodup := by
    have hall := selectorKeys_nodup haccepted hnodup
    rwa [← hnamed, List.map_map] at hall
  have hparse := parseAndNormalizePolicy_of hdifferences hblank hids hkeys hvalidator
  exact ⟨_, hparse, policyFor_expects (normalized_of_parse hparse) hnamed⟩

lemma public_ne : "public" ≠ "" := by decide
lemma customers_ne : "customers" ≠ "" := by decide
lemma orders_ne : "orders" ≠ "" := by decide

def publicSchema : Segment := ⟨"public", public_ne⟩
def customersTable : Segment := ⟨"customers", customers_ne⟩
def ordersTable : Segment := ⟨"orders", orders_ne⟩

/-- A table of the public schema that the candidate no longer has. -/
def tableRemoved (name : Segment) : ObjectChange :=
  ⟨.removed, .table publicSchema name, some (.schema publicSchema), []⟩

def shopMetadata : ArtifactMetadata :=
  ⟨⟨algorithmName, hashingContractVersion, String.ofList (List.replicate 64 'a')⟩, "shop", "postgresql", "1",
    "warehouse", "postgresql"⟩

/-- Two tables are gone. -/
def tablesRemoved : ComparisonResult where
  baseline := shopMetadata
  candidate := shopMetadata
  objectChanges := [tableRemoved customersTable, tableRemoved ordersTable]
  rootAlignment := ⟨none, none⟩
  status := "different"
  summary := ⟨0, 2, 0, 3, 0⟩

def tableRule (ruleId : String) (name : Segment) : String × Difference :=
  (ruleId, ⟨.removed, (tableRemoved name).objectIdentity, (tableRemoved name).parentIdentity, none⟩)

lemma tablesRemoved_loads : loadComparisonArtifact constantDigest (fun _ => true)
    (validatorOf comparisonSchemaAccepts) (tablesRemoved.toDict constantDigest) =
      .ok (tablesRemoved.members constantDigest) := by
  decide +kernel

lemma tablesRemoved_read : readObjectChanges (tablesRemoved.members constantDigest) =
    some tablesRemoved.objectChanges := by
  decide +kernel

theorem tables_removed_approved : ∃ policy,
    parseAndNormalizePolicy (validatorOf policySchemaAccepts) (policyDocument
      [tableRule "customers" customersTable, tableRule "orders" ordersTable]) = .ok policy ∧
    ∃ classified, classifyDrift tablesRemoved.objectChanges policy = .ok classified ∧
      ∀ c ∈ classified, c.classification = .expectedDifference := by
  obtain ⟨changes, hread, hall⟩ := policy_expresses_every_difference tablesRemoved_loads
    (validatorOf_iff policySchemaAccepts)
  cases Option.some.inj (tablesRemoved_read.symm.trans hread)
  obtain ⟨policy, hpolicy, classified, hclassified, -, hexpected⟩ := hall
    [tableRule "customers" customersTable, tableRule "orders" ordersTable]
    (by decide) (by decide) (by decide)
  exact ⟨policy, hpolicy, classified, hclassified, hexpected⟩

/-- Ids that differ in the white space around them only are one id to the parser. -/
theorem spaced_rule_ids_refused :
    ∃ changes, readObjectChanges (tablesRemoved.members constantDigest) = some changes ∧
      loadComparisonArtifact constantDigest (fun _ => true) (validatorOf comparisonSchemaAccepts)
        (tablesRemoved.toDict constantDigest) = .ok (tablesRemoved.members constantDigest) ∧
      ∃ named : List (String × Difference), named.map Prod.snd = differences changes ∧
        (named.map Prod.fst).Nodup ∧ ∀ policy,
          parseAndNormalizePolicy (validatorOf policySchemaAccepts) (policyDocument named) ≠ .ok policy := by
  refine ⟨_, tablesRemoved_read, tablesRemoved_loads,
    [tableRule "retired" customersTable, tableRule "retired " ordersTable],
    by decide, by decide, ?_⟩
  intro policy hpolicy
  have herror : (parseAndNormalizePolicy (validatorOf policySchemaAccepts) (policyDocument
      [tableRule "retired" customersTable,
        tableRule "retired " ordersTable])).toOption.isSome = false := by
    decide +kernel
  rw [hpolicy] at herror
  cases herror

end Comparison
end CollibraGovernance.Drift
