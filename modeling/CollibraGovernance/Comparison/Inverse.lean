import CollibraGovernance.Comparison.CompareSpec
import CollibraGovernance.Comparison.Result

/-! Comparing the other way round gives the inverse result. -/
namespace CollibraGovernance.Comparison
open Library Domain Identity Snapshots

def ChangeKind.inverse : ChangeKind → ChangeKind
  | added => removed
  | removed => added
  | changed => changed

def ObjectChange.inverse (c : ObjectChange) : ObjectChange :=
  ⟨c.change.inverse, c.objectIdentity, c.parentIdentity, c.propertyChanges.map PropertyChange.swap⟩

def ComparisonSummary.inverse (s : ComparisonSummary) : ComparisonSummary :=
  ⟨s.removed, s.added, s.changed, s.unchanged, s.propertyChanges⟩

def ComparisonDiff.inverse (d : ComparisonDiff) : ComparisonDiff :=
  ⟨sortBy changeKey (d.objectChanges.map ObjectChange.inverse), d.summary.inverse⟩

def RootAlignmentResult.inverse (r : RootAlignmentResult) : RootAlignmentResult :=
  ⟨r.source.map AlignmentPair.swap, r.database.map AlignmentPair.swap⟩

/-- The result with its two sides exchanged. -/
def ComparisonResult.inverse (r : ComparisonResult) : ComparisonResult :=
  ⟨r.candidate, r.baseline, sortBy changeKey (r.objectChanges.map ObjectChange.inverse),
    r.rootAlignment.inverse, r.status, r.summary.inverse⟩

section Changes
variable {baseline candidate : ObjectMap}

lemma mem_identitiesOnlyIn {here there : ObjectMap} {i : ComparisonObjectIdentity} :
    i ∈ identitiesOnlyIn here there ↔ i ∈ here.keys ∧ i ∉ there.keys := by
  simp [identitiesOnlyIn]

lemma mem_identitiesInBoth {here there : ObjectMap} {i : ComparisonObjectIdentity} :
    i ∈ identitiesInBoth here there ↔ i ∈ here.keys ∧ i ∈ there.keys := by
  simp [identitiesInBoth]

lemma identitiesOnlyIn_nodup (here there : ObjectMap) : (identitiesOnlyIn here there).Nodup :=
  (sortBy_perm _ _).nodup_iff.mpr (here.keys_nodup.filter _)

lemma identitiesInBoth_nodup (here there : ObjectMap) : (identitiesInBoth here there).Nodup :=
  (sortBy_perm _ _).nodup_iff.mpr (here.keys_nodup.filter _)

/-- The changes of objects on one side only, as they are found. -/
def lackingChanges (change : ChangeKind) (here there : ObjectMap) : List ObjectChange :=
  (identitiesOnlyIn here there).filterMap (lackingChange change here)

def matchedChanges (baseline candidate : ObjectMap) : List ObjectChange :=
  (identitiesInBoth baseline candidate).filterMap (matchedChange baseline candidate)

def changedObjects (baseline candidate : ObjectMap) : List ObjectChange :=
  (matchedChanges baseline candidate).filter (fun c => c.propertyChanges ≠ [])

def unsortedChanges (baseline candidate : ObjectMap) : List ObjectChange :=
  lackingChanges .added candidate baseline ++ lackingChanges .removed baseline candidate ++
    changedObjects baseline candidate

theorem objectChanges_eq : (compareProjected baseline candidate).objectChanges =
    sortBy changeKey (unsortedChanges baseline candidate) := rfl

lemma mem_lackingChanges {change : ChangeKind} {here there : ObjectMap} {c : ObjectChange} :
    c ∈ lackingChanges change here there ↔ c.objectIdentity ∉ there.keys ∧
      ∃ o, here.get? c.objectIdentity = some o ∧ c = ⟨change, c.objectIdentity, o.parentIdentity, []⟩ := by
  simp only [lackingChanges, List.mem_filterMap, mem_identitiesOnlyIn, lackingChange, Option.map_eq_some_iff]
  constructor
  · rintro ⟨i, ⟨-, hthere⟩, o, ho, rfl⟩
    exact ⟨hthere, o, ho, rfl⟩
  · rintro ⟨hthere, o, ho, hc⟩
    exact ⟨c.objectIdentity, ⟨Dict.mem_keys_iff.mpr ⟨o, ho⟩, hthere⟩, o, ho, hc.symm⟩

lemma mem_matchedChanges {c : ObjectChange} : c ∈ matchedChanges baseline candidate ↔
    ∃ left right, baseline.get? c.objectIdentity = some left ∧ candidate.get? c.objectIdentity = some right ∧
      c = ⟨.changed, c.objectIdentity, left.parentIdentity,
        diffProperties left.properties right.properties⟩ := by
  simp only [matchedChanges, List.mem_filterMap, mem_identitiesInBoth, matchedChange, Option.bind_eq_some_iff,
    Option.map_eq_some_iff]
  constructor
  · rintro ⟨i, -, left, hleft, right, hright, rfl⟩
    exact ⟨left, right, hleft, hright, rfl⟩
  · rintro ⟨left, right, hleft, hright, hc⟩
    exact ⟨c.objectIdentity, ⟨Dict.mem_keys_iff.mpr ⟨left, hleft⟩, Dict.mem_keys_iff.mpr ⟨right, hright⟩⟩,
      left, hleft, right, hright, hc.symm⟩

lemma identities_lackingChanges (change : ChangeKind) (here there : ObjectMap) :
    (lackingChanges change here there).map ObjectChange.objectIdentity = identitiesOnlyIn here there := by
  rw [lackingChanges, List.map_filterMap, ← List.filterMap_some (l := identitiesOnlyIn here there)]
  rw [List.filterMap_filterMap]
  refine List.filterMap_congr ?_
  intro i hi
  obtain ⟨o, ho⟩ := Dict.mem_keys_iff.mp (mem_identitiesOnlyIn.mp hi).1
  simp [lackingChange, ho]

lemma identities_matchedChanges (baseline candidate : ObjectMap) :
    (matchedChanges baseline candidate).map ObjectChange.objectIdentity =
      identitiesInBoth baseline candidate := by
  rw [matchedChanges, List.map_filterMap, ← List.filterMap_some (l := identitiesInBoth baseline candidate)]
  rw [List.filterMap_filterMap]
  refine List.filterMap_congr ?_
  intro i hi
  obtain ⟨hleft, hright⟩ := mem_identitiesInBoth.mp hi
  obtain ⟨left, hleft⟩ := Dict.mem_keys_iff.mp hleft
  obtain ⟨right, hright⟩ := Dict.mem_keys_iff.mp hright
  simp [matchedChange, hleft, hright]

/-- Each object changes at most once. -/
theorem unsortedChanges_nodup (baseline candidate : ObjectMap) :
    ((unsortedChanges baseline candidate).map ObjectChange.objectIdentity).Nodup := by
  have hchanged : ((changedObjects baseline candidate).map ObjectChange.objectIdentity).Sublist
      (identitiesInBoth baseline candidate) := by
    rw [← identities_matchedChanges]
    exact List.filter_sublist.map _
  rw [unsortedChanges, List.map_append, List.map_append, identities_lackingChanges,
    identities_lackingChanges]
  refine List.Nodup.append (List.Nodup.append (identitiesOnlyIn_nodup _ _) (identitiesOnlyIn_nodup _ _) ?_)
    ((identitiesInBoth_nodup _ _).sublist hchanged) ?_
  · intro i hadded hremoved
    exact (mem_identitiesOnlyIn.mp hadded).2 (mem_identitiesOnlyIn.mp hremoved).1
  · intro i hi hboth
    obtain ⟨hleft, hright⟩ := mem_identitiesInBoth.mp (hchanged.subset hboth)
    rcases List.mem_append.mp hi with hi | hi
    · exact (mem_identitiesOnlyIn.mp hi).2 hleft
    · exact (mem_identitiesOnlyIn.mp hi).2 hright

lemma changeKey_inj {c c' : ObjectChange} (h : changeKey c = changeKey c') :
    c.change = c'.change ∧ c.objectIdentity = c'.objectIdentity := by
  have hkey := Prod.mk.inj (toLex.injective h)
  exact ⟨ChangeKind.rank_inj hkey.1, ComparisonObjectIdentity.canonicalBytes_inj hkey.2⟩

end Changes

section Swap
variable {left right : Dict String ComparablePropertyValue}

lemma propertyValuesEqual_comm (a b : ComparablePropertyValue) :
    propertyValuesEqual a b = propertyValuesEqual b a := by
  rw [Bool.eq_iff_iff, propertyValuesEqual_iff, propertyValuesEqual_iff, eq_comm]

theorem diffProperties_swap : diffProperties right left =
    (diffProperties left right).map PropertyChange.swap := by
  have hkeys : (unionKeys right left).Perm (unionKeys left right) := by
    rw [List.perm_ext_iff_of_nodup (unionKeys_nodup _ _) (unionKeys_nodup _ _)]
    intro p
    rw [mem_unionKeys, mem_unionKeys, or_comm]
  have hsorted : sortBy id (unionKeys right left) = sortBy id (unionKeys left right) :=
    sortBy_congr_perm hkeys (fun _ _ _ _ h => h)
  rw [diffProperties, diffProperties, hsorted, List.map_filterMap]
  refine List.filterMap_congr ?_
  intro p _
  rw [propertyValuesEqual_comm]
  split_ifs <;> rfl

end Swap

section Sides
variable {baseline candidate : ObjectMap}

lemma lackingChanges_inverse (here there : ObjectMap) (change : ChangeKind) :
    (lackingChanges change here there).map ObjectChange.inverse = lackingChanges change.inverse here there := by
  rw [lackingChanges, lackingChanges, List.map_filterMap]
  refine List.filterMap_congr ?_
  intro i _
  rw [lackingChange, lackingChange, Option.map_map]
  rfl

variable (hparent : ∀ i left right, baseline.get? i = some left → candidate.get? i = some right →
  left.parentIdentity = right.parentIdentity)
include hparent

lemma matchedChanges_inverse : matchedChanges candidate baseline =
    (matchedChanges baseline candidate).map ObjectChange.inverse := by
  have hboth : (candidate.keys.filter (fun i => i ∈ baseline.keys)).Perm
      (baseline.keys.filter (fun i => i ∈ candidate.keys)) := by
    rw [List.perm_ext_iff_of_nodup (candidate.keys_nodup.filter _) (baseline.keys_nodup.filter _)]
    intro i
    simp only [List.mem_filter, decide_eq_true_eq, and_comm]
  have hsorted : identitiesInBoth candidate baseline = identitiesInBoth baseline candidate :=
    sortBy_congr_perm hboth (fun _ _ _ _ h => ComparisonObjectIdentity.canonicalBytes_inj h)
  rw [matchedChanges, matchedChanges, hsorted, List.map_filterMap]
  refine List.filterMap_congr ?_
  intro i _
  rw [matchedChange, matchedChange]
  cases hright : candidate.get? i with
  | none => cases baseline.get? i <;> rfl
  | some right =>
    cases hleft : baseline.get? i with
    | none => rfl
    | some left =>
      simp only [Option.bind_some, Option.map_some, hparent i left right hleft hright]
      rw [diffProperties_swap]
      rfl

lemma changedObjects_inverse : changedObjects candidate baseline =
    (changedObjects baseline candidate).map ObjectChange.inverse := by
  rw [changedObjects, matchedChanges_inverse hparent, changedObjects, List.filter_map]
  refine congrArg _ (List.filter_congr ?_)
  intro c _
  simp [ObjectChange.inverse]

lemma unsortedChanges_inverse : (unsortedChanges candidate baseline).Perm
    ((unsortedChanges baseline candidate).map ObjectChange.inverse) := by
  rw [unsortedChanges, unsortedChanges, List.map_append, List.map_append, lackingChanges_inverse,
    lackingChanges_inverse, changedObjects_inverse hparent]
  exact (List.perm_append_comm).append_right _

/-- The other direction has the inverse changes and the mirrored summary. -/
theorem compareProjected_swap : compareProjected candidate baseline =
    (compareProjected baseline candidate).inverse := by
  have hchanges : sortBy changeKey (unsortedChanges candidate baseline) =
      sortBy changeKey ((sortBy changeKey (unsortedChanges baseline candidate)).map ObjectChange.inverse) := by
    refine sortBy_congr_perm ((unsortedChanges_inverse hparent).trans
      ((sortBy_perm _ _).map ObjectChange.inverse).symm) ?_
    intro c hc c' hc' hkey
    exact List.inj_on_of_nodup_map (unsortedChanges_nodup candidate baseline) hc hc' (changeKey_inj hkey).2
  have hchanged := congrArg List.length (changedObjects_inverse hparent)
  rw [List.length_map] at hchanged
  have hunchanged : ((matchedChanges candidate baseline).filter (fun c => c.propertyChanges = [])).length =
      ((matchedChanges baseline candidate).filter (fun c => c.propertyChanges = [])).length := by
    rw [matchedChanges_inverse hparent, List.filter_map, List.length_map]
    refine congrArg List.length (List.filter_congr ?_)
    intro c _
    simp [ObjectChange.inverse]
  have hproperties : ((changedObjects candidate baseline).flatMap ObjectChange.propertyChanges).length =
      ((changedObjects baseline candidate).flatMap ObjectChange.propertyChanges).length := by
    have hswapped : ((changedObjects candidate baseline).flatMap ObjectChange.propertyChanges) =
        ((changedObjects baseline candidate).flatMap ObjectChange.propertyChanges).map PropertyChange.swap := by
      rw [changedObjects_inverse hparent, List.flatMap_map, List.map_flatMap]
      rfl
    rw [hswapped, List.length_map]
  have hsummary : (compareProjected candidate baseline).summary =
      (compareProjected baseline candidate).summary.inverse := by
    change (⟨_, _, (changedObjects candidate baseline).length, ((matchedChanges candidate baseline).filter
      (fun c => c.propertyChanges = [])).length, ((changedObjects candidate baseline).flatMap
        ObjectChange.propertyChanges).length⟩ : ComparisonSummary) = _
    rw [hchanged, hunchanged, hproperties]
    rfl
  exact congrArg₂ ComparisonDiff.mk hchanges hsummary

end Sides

section Results
variable {sha256 : String → String} {isPrintable : Char → Bool} {a b : GovernanceSnapshot}
  {ack : RootAlignmentAck} {r : ComparisonResult}

theorem validatePairwiseScanner_eq_ok : validatePairwiseScanner isPrintable a b = .ok () ↔
    a.systemType = b.systemType ∧ a.scanner = b.scanner := by
  simp [validatePairwiseScanner, raiseIfAny_eq_ok, diagnose_eq_nil]

theorem resolveRootAlignment_eq_ok {alignment : RootAlignmentResult} :
    resolveRootAlignment a b ack = .ok alignment ↔
      (a.sourceName = b.sourceName ∨ ack.alignSourceRoots = true) ∧
      (a.databaseName = b.databaseName ∨ ack.alignDatabaseRoots = true) ∧
      alignment = ⟨alignmentPair a.sourceName b.sourceName, alignmentPair a.databaseName b.databaseName⟩ := by
  rw [resolveRootAlignment, bind_eq_ok]
  constructor
  · rintro ⟨⟨⟩, herrors, h⟩
    simp only [raiseIfAny_eq_ok, List.append_eq_nil_iff, diagnose_eq_nil, decide_eq_true_eq] at herrors
    exact ⟨herrors.1, herrors.2, (pure_eq_ok.mp h).symm⟩
  · rintro ⟨hsource, hdatabase, rfl⟩
    refine ⟨(), ?_, rfl⟩
    simp only [raiseIfAny_eq_ok, List.append_eq_nil_iff, diagnose_eq_nil, decide_eq_true_eq]
    exact ⟨hsource, hdatabase⟩

/-- What a comparison result is made of. -/
structure Compared (sha256 : String → String) (isPrintable : Char → Bool) (a b : GovernanceSnapshot)
    (ack : RootAlignmentAck) (p q : ProjectedSnapshot) (r : ComparisonResult) : Prop where
  baseline : projectSnapshot isPrintable "baseline" a = .ok p
  candidate : projectSnapshot isPrintable "candidate" b = .ok q
  systemType : a.systemType = b.systemType
  scanner : a.scanner = b.scanner
  alignment : resolveRootAlignment a b ack = .ok r.rootAlignment
  consistent : summaryConsistent (compareProjected p.objects q.objects).summary = true
  result : r = ⟨artifactMetadata sha256 a, artifactMetadata sha256 b,
    (compareProjected p.objects q.objects).objectChanges, r.rootAlignment,
    statusOf (compareProjected p.objects q.objects).summary, (compareProjected p.objects q.objects).summary⟩

theorem buildComparisonResult_eq_ok : buildComparisonResult sha256 isPrintable a b ack = .ok r ↔
    ∃ p q, Compared sha256 isPrintable a b ack p q r := by
  constructor
  · intro h
    obtain ⟨p, hp, h⟩ := bind_eq_ok.mp h
    obtain ⟨q, hq, h⟩ := bind_eq_ok.mp h
    obtain ⟨⟨⟩, hscanner, h⟩ := bind_eq_ok.mp h
    obtain ⟨alignment, halignment, h⟩ := bind_eq_ok.mp h
    obtain ⟨hsystem, hscanner⟩ := validatePairwiseScanner_eq_ok.mp hscanner
    dsimp only at h
    split_ifs at h with hconsistent
    cases h
    exact ⟨p, q, hp, hq, hsystem, hscanner, halignment, hconsistent, rfl⟩
  · rintro ⟨p, q, h⟩
    have hresult := h.result
    refine bind_eq_ok.mpr ⟨p, h.baseline, bind_eq_ok.mpr ⟨q, h.candidate, bind_eq_ok.mpr ⟨(),
      validatePairwiseScanner_eq_ok.mpr ⟨h.systemType, h.scanner⟩, bind_eq_ok.mpr ⟨_, h.alignment, ?_⟩⟩⟩⟩
    dsimp only
    rw [if_pos h.consistent]
    exact congrArg Except.ok hresult.symm

/-- The two sides of an alignment may be exchanged. -/
lemma alignmentPair_swap (x y : String) : alignmentPair y x = (alignmentPair x y).map AlignmentPair.swap := by
  by_cases h : x = y
  · simp [alignmentPair, h]
  · simp [alignmentPair, h, Ne.symm h, AlignmentPair.swap]

/-- The side only shows in the texts of errors. -/
lemma projectSnapshot_side {side : String} (side' : String) {s : GovernanceSnapshot} {p : ProjectedSnapshot}
    (h : projectSnapshot isPrintable side s = .ok p) :
    ∃ p', projectSnapshot isPrintable side' s = .ok p' ∧ SameObjects p'.objects p.objects := by
  obtain ⟨source, d, hacceptable, hprojects, hsnapshot⟩ := projects_of_ok h
  obtain ⟨p', hp'⟩ := exists_projectSnapshot isPrintable side' hacceptable
  refine ⟨p', hp', (represents_of_ok hp').sameObjects (represents_of_ok h) (.of_eq ?_)⟩
  obtain ⟨source', d', hacceptable', hprojects', hsnapshot'⟩ := projects_of_ok hp'
  have hsource : source' = source := by
    have hsources := hacceptable'.dataSources
    rw [hacceptable.dataSources] at hsources
    exact (List.cons.inj hsources).1.symm
  subst hsource
  have hdatabase : d' = d := by
    have hdatabases := hacceptable'.databases
    rw [hacceptable.databases] at hdatabases
    exact (List.cons.inj hdatabases).1.symm
  subst hdatabase
  have hraw : p'.rawToIdentity = p.rawToIdentity :=
    Dict.ext (hprojects'.pass.raw_entries.trans hprojects.pass.raw_entries.symm)
  rw [relabelled, relabelled, hraw, hsnapshot, hsnapshot']

lemma parents_agree {left right : String} {p q : ProjectedSnapshot}
    (hp : projectSnapshot isPrintable left a = .ok p) (hq : projectSnapshot isPrintable right b = .ok q) :
    ∀ i l r, p.objects.get? i = some l → q.objects.get? i = some r → l.parentIdentity = r.parentIdentity := by
  have hparent : ∀ {side : String} {s : GovernanceSnapshot} {p : ProjectedSnapshot},
      projectSnapshot isPrintable side s = .ok p → ∀ i o, p.objects.get? i = some o →
        o.parentIdentity = i.expectedParent := by
    intro side s p hp i o ho
    have hrepresents := represents_of_ok hp
    obtain ⟨e, he, rfl⟩ := hrepresents.mem_keys.mp (Dict.mem_keys_iff.mpr ⟨o, ho⟩)
    obtain ⟨o', ho', -, hparent, -⟩ := hrepresents.shows e he
    rw [ho] at ho'
    cases ho'
    exact hparent
  intro i l r hl hr
  rw [hparent hp i l hl, hparent hq i r hr]

lemma statusOf_inverse (summary : ComparisonSummary) : statusOf summary.inverse = statusOf summary := by
  simp only [statusOf, ComparisonSummary.inverse, and_left_comm]

/-- When one direction succeeds, so does the other, with the inverse result. -/
theorem buildComparisonResult_inverse (h : buildComparisonResult sha256 isPrintable a b ack = .ok r) :
    buildComparisonResult sha256 isPrintable b a ack = .ok r.inverse := by
  obtain ⟨p, q, hcompared⟩ := buildComparisonResult_eq_ok.mp h
  obtain ⟨q', hq', hsameq⟩ := projectSnapshot_side "baseline" hcompared.candidate
  obtain ⟨p', hp', hsamep⟩ := projectSnapshot_side "candidate" hcompared.baseline
  have hdiff : compareProjected q'.objects p'.objects = (compareProjected p.objects q.objects).inverse := by
    rw [compareProjected_congr hsameq hsamep]
    exact compareProjected_swap (parents_agree hcompared.baseline hcompared.candidate)
  obtain ⟨hsource, hdatabase, halignment⟩ := resolveRootAlignment_eq_ok.mp hcompared.alignment
  rw [buildComparisonResult_eq_ok]
  refine ⟨q', p', hq', hp', hcompared.systemType.symm, hcompared.scanner.symm, ?_, ?_, ?_⟩
  · refine resolveRootAlignment_eq_ok.mpr ⟨hsource.imp_left Eq.symm, hdatabase.imp_left Eq.symm, ?_⟩
    rw [ComparisonResult.inverse, halignment, RootAlignmentResult.inverse, ← alignmentPair_swap,
      ← alignmentPair_swap]
  · rw [hdiff]
    exact hcompared.consistent
  · rw [hdiff]
    have hresult := hcompared.result
    rw [hresult]
    simp only [ComparisonResult.inverse, ComparisonDiff.inverse, statusOf_inverse]

/-- Only changed objects have property changes, and they list each property once. -/
lemma unsortedChanges_properties {baseline candidate : ObjectMap} {c : ObjectChange}
    (hc : c ∈ unsortedChanges baseline candidate) :
    (c.change ≠ .changed → c.propertyChanges = []) ∧ (c.propertyChanges.map PropertyChange.property).Nodup := by
  rcases List.mem_append.mp hc with hc | hc
  · have hlacking : c.propertyChanges = [] := by
      rcases List.mem_append.mp hc with hc | hc
      · obtain ⟨-, o, -, heq⟩ := mem_lackingChanges.mp hc
        rw [heq]
      · obtain ⟨-, o, -, heq⟩ := mem_lackingChanges.mp hc
        rw [heq]
    rw [hlacking]
    exact ⟨fun _ => rfl, List.nodup_nil⟩
  · obtain ⟨left, right, -, -, heq⟩ := mem_matchedChanges.mp (List.mem_filter.mp hc).1
    rw [heq]
    exact ⟨fun hne => absurd rfl hne, diffProperties_nodup⟩

lemma swap_swap (p : AlignmentPair) : p.swap.swap = p := rfl

/-- The change of the other direction is found, and mirrors this one. -/
lemma changeInverted_inverse {changes : List ObjectChange}
    (hnodup : (changes.map ObjectChange.objectIdentity).Nodup) {c : ObjectChange} (hc : c ∈ changes)
    (hempty : c.change ≠ .changed → c.propertyChanges = [])
    (hproperties : (c.propertyChanges.map PropertyChange.property).Nodup) :
    changeInverted (changesByKey (sortBy changeKey (changes.map ObjectChange.inverse))) c = true := by
  have hfound : (changesByKey (sortBy changeKey (changes.map ObjectChange.inverse))).get?
      (c.change.inverse, c.objectIdentity) = some c.inverse := by
    have hkeys : ((sortBy changeKey (changes.map ObjectChange.inverse)).map
        (fun c => (c.change, c.objectIdentity))).Nodup := by
      refine List.Nodup.of_map Prod.snd ?_
      rw [List.map_map, ((sortBy_perm _ _).map _).nodup_iff, List.map_map]
      exact hnodup
    have hmem : c.inverse ∈ sortBy changeKey (changes.map ObjectChange.inverse) :=
      mem_sortBy.mpr (List.mem_map_of_mem hc)
    exact Dict.get?_index_of_nodup hkeys hmem
  rw [changeInverted]
  cases hchange : c.change with
  | added =>
    rw [hchange, ChangeKind.inverse] at hfound
    simp [hfound, ObjectChange.inverse, hempty (by rw [hchange]; decide)]
  | removed =>
    rw [hchange, ChangeKind.inverse] at hfound
    simp [hfound, ObjectChange.inverse, hempty (by rw [hchange]; decide)]
  | changed =>
    rw [hchange, ChangeKind.inverse] at hfound
    have hswapped : ((c.propertyChanges.map PropertyChange.swap).map PropertyChange.property).Nodup := by
      rw [List.map_map]
      exact hproperties
    have hkeys : (Dict.index PropertyChange.property id (c.propertyChanges.map PropertyChange.swap)).keys =
        (Dict.index PropertyChange.property id c.propertyChanges).keys := by
      rw [Dict.keys, Dict.keys, Dict.entries_index_of_nodup hswapped, Dict.entries_index_of_nodup hproperties]
      simp [PropertyChange.swap, Function.comp_def]
    have hentries : ∀ e ∈ (Dict.index PropertyChange.property id c.propertyChanges).entries,
        (Dict.index PropertyChange.property id (c.propertyChanges.map PropertyChange.swap)).get? e.1 =
          some e.2.swap := by
      intro e he
      obtain ⟨p, hp, hproperty, hvalue⟩ := Dict.exists_of_mem_index he
      rw [← hproperty, ← hvalue]
      have hmem : p.swap ∈ c.propertyChanges.map PropertyChange.swap := List.mem_map_of_mem hp
      exact Dict.get?_index_of_nodup hswapped hmem
    simp only [hfound, Option.any_some, ObjectChange.inverse, List.length_map, hkeys, decide_true,
      Bool.true_and, Bool.and_eq_true, List.all_eq_true]
    refine ⟨⟨?_, ?_⟩, ?_⟩
    · exact fun p hp => List.contains_iff_mem.mpr hp
    · exact fun p hp => List.contains_iff_mem.mpr hp
    · intro e he
      rw [hentries e he]
      simp [PropertyChange.swap]

/-- The law that `assert_inverse` checks. -/
theorem assertInverse_inverse (h : buildComparisonResult sha256 isPrintable a b ack = .ok r) :
    assertInverse r r.inverse = true := by
  obtain ⟨p, q, hcompared⟩ := buildComparisonResult_eq_ok.mp h
  have hchanges : r.objectChanges = sortBy changeKey (unsortedChanges p.objects q.objects) := by
    rw [hcompared.result]
    rfl
  have hnodup : (r.objectChanges.map ObjectChange.objectIdentity).Nodup := by
    rw [hchanges, ((sortBy_perm _ _).map _).nodup_iff]
    exact unsortedChanges_nodup _ _
  have hinverted : ∀ e ∈ (changesByKey r.objectChanges).entries,
      changeInverted (changesByKey r.inverse.objectChanges) e.2 = true := by
    intro e he
    obtain ⟨c, hc, -, hvalue⟩ := Dict.exists_of_mem_index he
    have hmem : c ∈ unsortedChanges p.objects q.objects := by
      rwa [hchanges, mem_sortBy] at hc
    obtain ⟨hempty, hproperties⟩ := unsortedChanges_properties hmem
    rw [← hvalue]
    exact changeInverted_inverse hnodup hc hempty hproperties
  simp only [assertInverse, Bool.and_eq_true, List.all_eq_true]
  refine ⟨?_, hinverted⟩
  simp [ComparisonResult.inverse, ComparisonSummary.inverse, RootAlignmentResult.inverse, Function.comp_def,
    swap_swap]

/-- Comparison is invertible. -/
theorem comparison_invertible (h : buildComparisonResult sha256 isPrintable a b ack = .ok r) :
    buildComparisonResult sha256 isPrintable b a ack = .ok r.inverse ∧ r.inverse.status = r.status ∧
      r.inverse.summary = r.summary.inverse ∧ assertInverse r r.inverse = true :=
  ⟨buildComparisonResult_inverse h, rfl, rfl, assertInverse_inverse h⟩

theorem shops_compared_inversely : ∃ r,
    buildComparisonResult (fun s => s) (fun _ => true) (shopSnapshot customerShop) (shopSnapshot anonymousShop)
      ⟨false, false⟩ = .ok r ∧ buildComparisonResult (fun s => s) (fun _ => true) (shopSnapshot anonymousShop)
        (shopSnapshot customerShop) ⟨false, false⟩ = .ok r.inverse := by
  have hok : (buildComparisonResult (fun s => s) (fun _ => true) (shopSnapshot customerShop)
      (shopSnapshot anonymousShop) ⟨false, false⟩).toOption.isSome = true := by decide +kernel
  obtain ⟨r, hr⟩ := exists_ok hok
  exact ⟨r, hr, (comparison_invertible hr).1⟩

end Results
end CollibraGovernance.Comparison
