import CollibraGovernance.Comparison.Load
import CollibraGovernance.Comparison.ProperResult

/-! What a comparison writes its loader accepts. -/
namespace CollibraGovernance.Comparison
open Library Domain Identity Snapshots

/-- One property change on its own. -/
structure ProperProperty (i : ComparisonObjectIdentity) (c : PropertyChange) : Prop where
  pointer : ∃ segments, segments ≠ [] ∧ pointerText segments = c.property
  compatible : comparisonChangePropertyCompatibleWithKind i.kind c.property = true
  baseline : comparableChangeValueCompatible i c.property c.baseline.toDict = true
  candidate : comparableChangeValueCompatible i c.property c.candidate.toDict = true
  different : c.baseline ≠ c.candidate

lemma ProperChange.property {o : ObjectChange} (h : ProperChange o) {c : PropertyChange}
    (hc : c ∈ o.propertyChanges) : ProperProperty o.objectIdentity c :=
  ⟨h.pointers c hc, h.compatible c hc, (h.values c hc).1, (h.values c hc).2, h.different c hc⟩

/-- A change as the loader keeps it. -/
def parsedOf (o : ObjectChange) : ParsedChange :=
  ⟨o.change, o.objectIdentity, o.propertyChanges.map PropertyChange.toDict⟩

section Changes
variable {i : ComparisonObjectIdentity} {o : ObjectChange}

lemma materiallyDifferent_of {v w : ComparablePropertyValue} (h : v ≠ w) :
    propertyValuesMateriallyDifferent (membersOf v.toDict) (membersOf w.toDict) = true := by
  cases v with
  | missing =>
    cases w with
    | missing => exact absurd rfl h
    | present w => rfl
  | present v =>
    cases w with
    | missing => rfl
    | present w =>
      have hne : v.val.canonicalJson ≠ w.val.canonicalJson :=
        fun heq => h (congrArg _ (canonicalValueFingerprint_inj heq))
      simp [propertyValuesMateriallyDifferent, membersOf, ComparablePropertyValue.toDict, Json.get,
        Json.lookup, Json.truthy, hne]

lemma validateCanonicalPropertyPointer_ok {c : PropertyChange} (h : ProperProperty i c) (path : String) :
    validateCanonicalPropertyPointer c.property path = .ok () := by
  obtain ⟨segments, hne, htext⟩ := h.pointer
  rw [validateCanonicalPropertyPointer, ← htext, parsePointer_pointerText hne]
  exact demand_eq_ok.mpr (decide_eq_true rfl)

lemma validateSides_ok {c : PropertyChange} (h : ProperProperty i c) (path : String) :
    validateSides i c.property path c.baseline.toDict c.candidate.toDict = .ok () := by
  have hdifferent := materiallyDifferent_of h.different
  have hobj : ∀ v : ComparablePropertyValue, v.toDict = .obj (membersOf v.toDict) := by
    intro v
    cases v <;> rfl
  have hbaseline := h.baseline
  have hcandidate := h.candidate
  rw [hobj c.baseline] at hbaseline ⊢
  rw [hobj c.candidate] at hcandidate ⊢
  rw [validateSides, demand_bind hbaseline, demand_bind hcandidate]
  exact demand_eq_ok.mpr hdifferent

/-- Property changes in order, each of another property than the ones before. -/
lemma validatePropertyChanges_ok {changes : List PropertyChange} (hproper : ∀ c ∈ changes, ProperProperty i c)
    (hsorted : SortedBy id (changes.map PropertyChange.property))
    (hnodup : (changes.map PropertyChange.property).Nodup) (basePath : String) (index : Nat)
    (seen : List String) (hnew : ∀ c ∈ changes, c.property ∉ seen)
    (hseen : ∀ c ∈ changes, ∀ previous ∈ seen.head?, previous ≤ c.property) :
    validatePropertyChanges i basePath index seen (changes.map PropertyChange.toDict) = .ok () := by
  induction changes generalizing index seen with
  | nil => rfl
  | cons c rest ih =>
    obtain ⟨hfirst, hsorted⟩ := List.pairwise_cons.mp hsorted
    obtain ⟨hother, hnodup⟩ := List.nodup_cons.mp hnodup
    have hc := hproper c (List.mem_cons_self ..)
    have hunseen : (!seen.contains c.property) = true := by
      simpa using hnew c (List.mem_cons_self ..)
    have hordered : (seen.head?.all (fun previous => previous = "" || !(c.property < previous))) = true := by
      rw [Option.all_eq_true]
      intro previous hprevious
      have hle := hseen c (List.mem_cons_self ..) previous hprevious
      simp [not_lt.mpr hle]
    have hrest := ih (fun x hx => hproper x (List.mem_cons_of_mem _ hx)) hsorted hnodup (index + 1)
      (c.property :: seen)
      (by
        intro x hx hmem
        rcases List.mem_cons.mp hmem with heq | hmem
        · exact hother (heq ▸ List.mem_map_of_mem hx)
        · exact hnew x (List.mem_cons_of_mem _ hx) hmem)
      (by
        intro x hx previous hprevious
        cases hprevious
        exact hfirst _ (List.mem_map_of_mem hx))
    have hget : Json.get (membersOf c.toDict) "property" = .str c.property ∧
        Json.get (membersOf c.toDict) "baseline" = c.baseline.toDict ∧
          Json.get (membersOf c.toDict) "candidate" = c.candidate.toDict := by
      simp [membersOf, PropertyChange.toDict, Json.get, Json.lookup]
    have hobj : c.toDict = .obj (membersOf c.toDict) := rfl
    rw [List.map_cons, hobj, validatePropertyChanges]
    simp only [hget, validateCanonicalPropertyPointer_ok hc, demand_bind hunseen, demand_bind hordered,
      demand_bind hc.compatible, validateSides_ok hc, hrest, ok_bind]

lemma parentMatches_expected (i : ComparisonObjectIdentity) :
    parentMatches i ((i.expectedParent.map ComparisonObjectIdentity.toDict).getD .null) = true := by
  rw [parentMatches]
  cases i.expectedParent with
  | none => rfl
  | some parent => simp [parseIdentityDict_toDict]

lemma changeKindOf_text (change : ChangeKind) : changeKindOf (.str change.text) = some change := by
  cases change <;> rfl

/-- A proper change of an object that no change before is about. -/
theorem validateObjectChange_ok (h : ProperChange o) (index : Nat) {seen : List ComparisonObjectIdentity}
    (hnew : o.objectIdentity ∉ seen) : validateObjectChange index seen o.toDict = .ok (parsedOf o) := by
  have hobj : o.toDict = .obj (membersOf o.toDict) := rfl
  have hget : Json.get (membersOf o.toDict) "object_identity" = o.objectIdentity.toDict ∧
      Json.get (membersOf o.toDict) "parent_identity" =
        (o.objectIdentity.expectedParent.map ComparisonObjectIdentity.toDict).getD .null ∧
      Json.get (membersOf o.toDict) "property_changes" =
        .arr (o.propertyChanges.map PropertyChange.toDict) ∧
      Json.get (membersOf o.toDict) "change" = .str o.change.text := by
    simp [membersOf, ObjectChange.toDict, Json.get, Json.lookup, h.parent]
  have hunseen : (!(seen.map ComparisonObjectIdentity.canonicalBytes).contains
      o.objectIdentity.canonicalBytes) = true := by
    simpa [List.mem_map, ComparisonObjectIdentity.canonicalBytes_inj.eq_iff] using hnew
  have hparse : ∀ path, parseIdentity o.objectIdentity.toDict path = .ok o.objectIdentity := by
    intro path
    rw [parseIdentity, parseIdentityDict_toDict]
  rw [hobj, validateObjectChange]
  simp only [hget, hparse, ok_bind, demand_bind hunseen, demand_bind (parentMatches_expected _),
    changeKindOf_text]
  cases hchange : o.change with
  | changed =>
    have hproperties := validatePropertyChanges_ok (fun c hc => h.property hc) h.sorted h.nodup
      ("/object_changes/" ++ toString index) 0 [] (fun _ _ => List.not_mem_nil) (by intro _ _ _ hp; cases hp)
    have hcoherent : (!(decide (o.objectIdentity.kind = .foreignKey) &&
        !foreignKeyReferenceSidesCoherent (o.propertyChanges.map PropertyChange.toDict))) = true := by
      by_cases hkind : o.objectIdentity.kind = .foreignKey
      · simp [hkind, h.coherent hkind]
      · simp [hkind]
    obtain ⟨first, rest, hchanges⟩ := List.exists_cons_of_ne_nil (h.nonempty hchange)
    rw [parsedOf, hchange]
    rw [hchanges, List.map_cons] at hproperties hcoherent ⊢
    simp only [hproperties, ok_bind, demand_bind hcoherent]
    rfl
  | _ =>
    have hempty := h.empty (by rw [hchange]; decide)
    rw [parsedOf, hchange, hempty]
    rfl

/-- The changes of a result are read one after the other. -/
theorem validateObjectChanges_ok {before changes : List ObjectChange} (h : ∀ o ∈ changes, ProperChange o)
    (hnodup : ((before ++ changes).map ObjectChange.objectIdentity).Nodup) :
    validateObjectChanges (before.map parsedOf) (changes.map ObjectChange.toDict) =
      .ok ((before ++ changes).map parsedOf) := by
  induction changes generalizing before with
  | nil => simp [validateObjectChanges]
  | cons o rest ih =>
    have hnew : o.objectIdentity ∉ (before.map parsedOf).map ParsedChange.identity := by
      rw [List.map_append, List.map_cons] at hnodup
      have hnot := (List.nodup_append.mp hnodup).2.2
      rw [List.map_map]
      intro hmem
      exact hnot _ hmem _ (List.mem_cons_self ..) rfl
    have hone := validateObjectChange_ok (h o (List.mem_cons_self ..)) (before.map parsedOf).length hnew
    have hnodup' : (((before ++ [o]) ++ rest).map ObjectChange.objectIdentity).Nodup := by
      rwa [List.append_assoc]
    have hrest := ih (fun x hx => h x (List.mem_cons_of_mem _ hx)) hnodup'
    rw [List.map_cons, validateObjectChanges, hone, ok_bind]
    rw [List.map_append, List.append_assoc] at hrest
    exact hrest

end Changes

section Lists
variable {changes : List ObjectChange}

lemma parsedKey_parsedOf (o : ObjectChange) : parsedKey (parsedOf o) = changeKey o := rfl

lemma canonicallyOrdered_of (h : SortedBy changeKey changes) :
    canonicallyOrdered (changes.map parsedOf) = true := by
  induction changes with
  | nil => rfl
  | cons o rest ih =>
    obtain ⟨hfirst, hrest⟩ := List.pairwise_cons.mp h
    cases rest with
    | nil => rfl
    | cons o' rest =>
      have hle : ¬ changeKey o' < changeKey o := not_lt.mpr (hfirst o' (List.mem_cons_self ..))
      simp only [List.map_cons, canonicallyOrdered, parsedKey_parsedOf, hle, decide_false, Bool.not_false,
        Bool.true_and]
      exact ih hrest

lemma countOf_parsedOf (change : ChangeKind) :
    countOf (changes.map parsedOf) change = changes.countP (fun o => o.change = change) := by
  rw [countOf, List.countP_map]
  rfl

lemma propertyChangesCount_parsedOf : propertyChangesCount (changes.map parsedOf) =
    ((changes.filter (fun o => o.change = .changed)).flatMap ObjectChange.propertyChanges).length := by
  have hchanges : ((changes.map parsedOf).filter (fun c => c.change = .changed)).flatMap
      ParsedChange.propertyChanges = ((changes.filter (fun o => o.change = .changed)).flatMap
        ObjectChange.propertyChanges).map PropertyChange.toDict := by
    rw [List.filter_map, List.flatMap_map, List.map_flatMap]
    rfl
  rw [propertyChangesCount, hchanges, List.length_map]

lemma validateRootObjectChanges_ok (h : ∀ o ∈ changes,
    o.objectIdentity = .dataSource ∨ o.objectIdentity = .database → o.change = .changed) :
    validateRootObjectChanges (changes.map parsedOf) = .ok () := by
  rw [validateRootObjectChanges, demand_eq_ok, List.all_map, List.all_eq_true]
  intro o ho
  have hroot := h o ho
  cases hi : o.objectIdentity <;>
    simp_all [parsedOf, ComparisonObjectIdentity.kind, ComparisonObjectIdentity.path]

lemma validateHierarchyConsistency_ok (h : ∀ o ∈ changes, ∀ o' ∈ changes,
    o'.objectIdentity ∈ o.objectIdentity.ancestors → o'.change ≠ .changed → o.change = o'.change) :
    validateHierarchyConsistency (changes.map parsedOf) = .ok () := by
  rw [validateHierarchyConsistency, demand_eq_ok, List.all_map, List.all_eq_true]
  intro o ho
  refine List.all_eq_true.mpr ?_
  intro ancestor hancestor
  cases hget : (changeByIdentity (changes.map parsedOf)).get? ancestor.canonicalBytes with
  | none => rfl
  | some change =>
    obtain ⟨c, hc, hkey⟩ := Dict.exists_of_mem_index (Dict.get?_eq_some.mp hget)
    obtain ⟨o', ho', rfl⟩ := List.mem_map.mp hc
    obtain ⟨hidentity, hchange⟩ := hkey
    have hsame : ancestor = o'.objectIdentity := ComparisonObjectIdentity.canonicalBytes_inj hidentity.symm
    have hchange' : change = o'.change := hchange.symm
    have hconsistent := h o ho o' ho' (hsame ▸ hancestor)
    rw [hchange']
    cases hkind : o'.change with
    | changed => rfl
    | _ => exact decide_eq_true ((hconsistent (by rw [hkind]; decide)).trans hkind)

end Lists

section Names
variable {changes : List ObjectChange} {root : ComparisonObjectIdentity} {x y : String}

/-- The name change that the loader finds for a root is one of that root. -/
lemma findNamePropertyChange_eq_some (hpath : ∀ i : ComparisonObjectIdentity, i.kind = root.kind → i = root)
    {c : Json} (h : findNamePropertyChange (changes.map parsedOf) root.kind = some c) :
    ∃ o ∈ changes, o.objectIdentity = root ∧ ∃ p ∈ o.propertyChanges, p.property = "/name" ∧ p.toDict = c := by
  obtain ⟨parsed, hmem, hfound⟩ := List.exists_of_findSome?_eq_some h
  obtain ⟨o, ho, rfl⟩ := List.mem_map.mp hmem
  split_ifs at hfound with hnot
  simp only [not_or, ne_eq, not_not] at hnot
  obtain ⟨p, hp, htoDict, hproperty⟩ := changeOf_toDict hfound
  exact ⟨o, ho, hpath _ hnot.1, p, hp, hproperty, htoDict⟩

lemma findNamePropertyChange_eq_none (hempty : root.path = [])
    (h : findNamePropertyChange (changes.map parsedOf) root.kind = none) :
    ∀ o ∈ changes, o.objectIdentity = root → o.change = .changed →
      ∀ p ∈ o.propertyChanges, p.property ≠ "/name" := by
  intro o ho hroot hchange p hp hname
  have hnone := List.findSome?_eq_none_iff.mp h (parsedOf o) (List.mem_map_of_mem ho)
  rw [if_neg (by simp [parsedOf, hroot, hchange, hempty]), changeOf] at hnone
  have hfind := List.find?_eq_none.mp hnone p.toDict (List.mem_map_of_mem hp)
  simp [membersOf, PropertyChange.toDict, Json.get, Json.lookup, hname] at hfind

/-- The name of a root is told as it is. -/
lemma validateRootName_ok (hpath : ∀ i : ComparisonObjectIdentity, i.kind = root.kind → i = root)
    (hempty : root.path = []) (hchanged : ∀ o ∈ changes, o.objectIdentity = root → o.change = .changed)
    (h : RootNamed changes root x y) :
    validateRootName (changes.map parsedOf) root.kind (.str x) (.str y) = .ok () := by
  have hnames : decide (Json.str x = .str y) = decide (x = y) := by simp
  rw [validateRootName, hnames]
  cases hfind : findNamePropertyChange (changes.map parsedOf) root.kind with
  | none =>
    have hnone := findNamePropertyChange_eq_none hempty hfind
    have hsame : x = y := by
      by_contra hne
      obtain ⟨o, ho, hroot, hmem⟩ := (h (text x) (text y)).mpr ⟨rfl, rfl, hne⟩
      exact hnone o ho hroot (hchanged o ho hroot) _ hmem rfl
    rw [decide_eq_true hsame]
  | some c =>
    obtain ⟨o, ho, hroot, p, hp, hname, rfl⟩ := findNamePropertyChange_eq_some hpath hfind
    obtain ⟨hbaseline, hcandidate, hne⟩ := (h p.baseline p.candidate).mp ⟨o, ho, hroot, hname ▸ hp⟩
    rw [decide_eq_false hne]
    refine demand_eq_ok.mpr ?_
    simp [membersOf, PropertyChange.toDict, Json.get, Json.lookup, hbaseline, hcandidate, text,
      ComparablePropertyValue.of, ComparablePropertyValue.toDict, canonicalizeJsonValue, sameDocument]

end Names

/-- A document that tells a result, its members in any order. -/
structure Presents (payload : List (String × Json)) (r : ComparisonResult) : Prop where
  direction : Json.get payload "direction" = .str direction
  writes : Json.get payload "writes_performed" = .int 0
  baseline : Json.get payload "baseline" = r.baseline.toDict
  candidate : Json.get payload "candidate" = r.candidate.toDict
  alignment : Json.get payload "root_alignment" = r.rootAlignment.toDict
  changes : Json.get payload "object_changes" = .arr (r.objectChanges.map ObjectChange.toDict)
  status : Json.get payload "status" = .str r.status
  summary : ∃ members, Json.get payload "summary" = .obj members ∧
    Json.get members "added" = .int r.summary.added ∧ Json.get members "removed" = .int r.summary.removed ∧
    Json.get members "changed" = .int r.summary.changed ∧
    Json.get members "unchanged" = .int r.summary.unchanged ∧
    Json.get members "property_changes" = .int r.summary.propertyChanges

section Semantics
variable {sha256 : String → String} {r : ComparisonResult} {payload : List (String × Json)}

lemma get_metadata (a : ArtifactMetadata) : a.toDict = .obj (membersOf a.toDict) ∧
    Json.get (membersOf a.toDict) "source_name" = .str a.sourceName ∧
    Json.get (membersOf a.toDict) "database_name" = .str a.databaseName ∧
    Json.get (membersOf a.toDict) "system_type" = .str a.systemType ∧
    Json.get (membersOf a.toDict) "scanner" = .str a.scanner ∧
    Json.get (membersOf a.toDict) "scanner_contract_version" = .str a.scannerContractVersion := by
  simp [membersOf, ArtifactMetadata.toDict, Json.get, Json.lookup]

lemma validateProducerMetadata_ok (h : ProperResult sha256 r) :
    validateProducerMetadata r.baseline.toDict r.candidate.toDict = .ok () := by
  obtain ⟨hb, -, -, hbsystem, hbscanner, hbversion⟩ := get_metadata r.baseline
  obtain ⟨hc, -, -, hcsystem, hcscanner, hcversion⟩ := get_metadata r.candidate
  rw [hb, hc, validateProducerMetadata]
  have hbaseline := h.baseline.version
  have hcandidate := h.candidate.version
  simp [hbsystem, hbscanner, hbversion, hcsystem, hcscanner, hcversion, h.systemType, h.scanner, hbaseline,
    hcandidate, demand, ok_bind]

lemma validateAlignmentEntry_ok (root x y : String) : validateAlignmentEntry root (.str x) (.str y)
    (((alignmentPair x y).map AlignmentPair.toDict).getD .null) = .ok () := by
  rw [validateAlignmentEntry, alignmentPair]
  by_cases h : x = y
  · simp [h]
  · simp [h, sameDocument, AlignmentPair.toDict]

lemma validateRootAlignment_ok (h : ProperResult sha256 r) : validateRootAlignment (membersOf r.baseline.toDict)
    (membersOf r.candidate.toDict) r.rootAlignment.toDict = .ok () := by
  obtain ⟨-, hbsource, hbdatabase, -⟩ := get_metadata r.baseline
  obtain ⟨-, hcsource, hcdatabase, -⟩ := get_metadata r.candidate
  rw [h.alignment, RootAlignmentResult.toDict, validateRootAlignment, hbsource, hbdatabase, hcsource,
    hcdatabase]
  simp only [Json.get, Json.lookup, List.find?, String.reduceEq, decide_true, decide_false, Option.map_some,
    Option.getD_some]
  rw [validateAlignmentEntry_ok, ok_bind, validateAlignmentEntry_ok]

lemma objectChanges_eq_nil (h : ProperResult sha256 r) : r.objectChanges = [] ↔
    r.summary.added = 0 ∧ r.summary.removed = 0 ∧ r.summary.changed = 0 := by
  rw [h.added, h.removed, h.changed]
  constructor
  · intro hnil
    rw [hnil]
    exact ⟨rfl, rfl, rfl⟩
  · rintro ⟨hadded, hremoved, hchanged⟩
    refine List.eq_nil_iff_forall_not_mem.mpr ?_
    intro o ho
    have hnone : ∀ change, o.change = change →
        r.objectChanges.countP (fun o => o.change = change) ≠ 0 := by
      intro change hchange hzero
      exact List.countP_eq_zero.mp hzero o ho (decide_eq_true hchange)
    cases hchange : o.change with
    | added => exact hnone _ hchange hadded
    | removed => exact hnone _ hchange hremoved
    | changed => exact hnone _ hchange hchanged

lemma validateStatus_ok (h : ProperResult sha256 r) :
    validateStatus (r.objectChanges.map parsedOf) (.str r.status) = .ok () := by
  have hcount : countOf (r.objectChanges.map parsedOf) .added +
      countOf (r.objectChanges.map parsedOf) .removed + countOf (r.objectChanges.map parsedOf) .changed =
        r.summary.added + r.summary.removed + r.summary.changed := by
    rw [countOf_parsedOf, countOf_parsedOf, countOf_parsedOf, h.added, h.removed, h.changed]
  by_cases hzero : r.summary.added = 0 ∧ r.summary.removed = 0 ∧ r.summary.changed = 0
  · rw [h.status, statusOf_eq_identical.mpr hzero, (objectChanges_eq_nil h).mpr hzero]
    rfl
  · have hstatus : r.status = "different" := by
      rw [h.status, statusOf, if_neg hzero]
    rw [hstatus]
    refine demand_eq_ok.mpr (decide_eq_true ?_)
    rw [hcount]
    omega

/-- A result that keeps its promises passes the semantic validation. -/
theorem validateComparisonResultSemantics_ok (h : ProperResult sha256 r) (hp : Presents payload r) :
    validateComparisonResultSemantics payload = .ok () := by
  obtain ⟨summary, hsummary, hadded, hremoved, hchanged, hunchanged, hproperties⟩ := hp.summary
  have hchanges : validateObjectChanges [] (r.objectChanges.map ObjectChange.toDict) =
      .ok (r.objectChanges.map parsedOf) := @validateObjectChanges_ok [] _ h.changes h.nodup
  have hroots := validateRootObjectChanges_ok h.roots
  have hsource : validateRootName (r.objectChanges.map parsedOf) .dataSource (.str r.baseline.sourceName)
      (.str r.candidate.sourceName) = .ok () :=
    validateRootName_ok (by intro i hi; cases i <;> first | rfl | cases hi) rfl
      (fun o ho hroot => h.roots o ho (Or.inl hroot)) h.sourceNamed
  have hdatabase : validateRootName (r.objectChanges.map parsedOf) .database (.str r.baseline.databaseName)
      (.str r.candidate.databaseName) = .ok () :=
    validateRootName_ok (by intro i hi; cases i <;> first | rfl | cases hi) rfl
      (fun o ho hroot => h.roots o ho (Or.inr hroot)) h.databaseNamed
  have hhierarchy := validateHierarchyConsistency_ok h.hierarchy
  have hordered := canonicallyOrdered_of h.sorted
  obtain ⟨-, hbsource, hbdatabase, -⟩ := get_metadata r.baseline
  obtain ⟨-, hcsource, hcdatabase, -⟩ := get_metadata r.candidate
  have hnatural : nonNegativeInt (.int r.summary.unchanged) = true := by simp [nonNegativeInt]
  have hcounts : validateSummary (r.objectChanges.map parsedOf) summary = .ok () := by
    rw [validateSummary]
    simp [hadded, hremoved, hchanged, hproperties, countOf_parsedOf, propertyChangesCount_parsedOf, ← h.added,
      ← h.removed, ← h.changed, ← h.propertyChanges, demand, ok_bind]
  rw [validateComparisonResultSemantics]
  simp only [hp.direction, hp.writes, hp.baseline, hp.candidate, hp.alignment, hp.changes, hp.status, hsummary,
    hunchanged, hnatural, Json.number_int, decide_true, demand_bind, validateProducerMetadata_ok h,
    validateRootAlignment_ok h, ok_bind, hbsource, hbdatabase, hcsource, hcdatabase]
  simp only [hchanges, ok_bind, hroots, hsource, hdatabase, hhierarchy, demand_bind hordered, hcounts,
    validateStatus_ok h]

end Semantics
end CollibraGovernance.Comparison
