import CollibraGovernance.Drift.Classify
import CollibraGovernance.Drift.PolicySpec

/-! Classification is exact: each difference once, expected exactly when a rule approves it. -/
namespace CollibraGovernance.Drift
open Library Identity Comparison

/-- One difference of a comparison: an object on one side only, or a property of an object. -/
structure Difference where
  change : ChangeKind
  objectIdentity : ComparisonObjectIdentity
  parentIdentity : Option ComparisonObjectIdentity
  observed : Option PropertyChange
  deriving DecidableEq

def differencesOf (o : ObjectChange) : List Difference :=
  match o.change with
  | .changed => o.propertyChanges.map (fun c => ⟨.changed, o.objectIdentity, o.parentIdentity, some c⟩)
  | change => [⟨change, o.objectIdentity, o.parentIdentity, none⟩]

def differences (changes : List ObjectChange) : List Difference := changes.flatMap differencesOf

def ClassifiedChange.difference (c : ClassifiedChange) : Difference :=
  ⟨c.change, c.objectIdentity, c.parentIdentity, c.observed⟩

def Difference.selectorKey (d : Difference) : SelectorKey :=
  (d.change, d.objectIdentity.canonicalBytes, d.observed.map PropertyChange.property)

namespace NormalizedDriftRule

/-- The rule is about exactly this difference. -/
def Selects (r : NormalizedDriftRule) (d : Difference) : Prop :=
  r.change = d.change ∧ r.objectIdentity = d.objectIdentity ∧
    r.property = d.observed.map PropertyChange.property

/-- The told sides are the observed ones. -/
def SatisfiedBy (e : Expected) (c : PropertyChange) : Prop :=
  (∀ v ∈ e.baseline, v = c.baseline) ∧ ∀ v ∈ e.candidate, v = c.candidate

/-- The rule selects the difference, and is presence-only or satisfied by the observed sides. -/
def Approves (r : NormalizedDriftRule) (d : Difference) : Prop :=
  r.Selects d ∧ ∀ e ∈ r.expected, ∃ c ∈ d.observed, SatisfiedBy e c

end NormalizedDriftRule

section Rules
variable {p : NormalizedDriftPolicy} {r : NormalizedDriftRule} {d : Difference}

lemma selects_iff : r.Selects d ↔ r.selectorKey = d.selectorKey := by
  simp [NormalizedDriftRule.Selects, NormalizedDriftRule.selectorKey, Difference.selectorKey,
    ComparisonObjectIdentity.canonicalBytes_inj.eq_iff]

/-- The rules about a difference. -/
def rulesAbout (p : NormalizedDriftPolicy) (d : Difference) : List NormalizedDriftRule :=
  p.rules.filter (fun r => r.selectorKey = d.selectorKey)

lemma mem_rulesAbout : r ∈ rulesAbout p d ↔ r ∈ p.rules ∧ r.Selects d := by
  rw [rulesAbout, List.mem_filter, decide_eq_true_eq, selects_iff]

lemma rulesFor_eq (p : NormalizedDriftPolicy) (d : Difference) :
    rulesFor (buildPolicyIndex p) d.selectorKey = rulesAbout p d :=
  members_groupBy NormalizedDriftRule.selectorKey p.rules d.selectorKey

lemma expectationsSatisfied_iff {expected : Option Expected} {c : PropertyChange} :
    expectationsSatisfied expected c.baseline c.candidate = true ↔
      ∀ e ∈ expected, NormalizedDriftRule.SatisfiedBy e c := by
  cases expected with
  | none => simp [expectationsSatisfied]
  | some e =>
    obtain ⟨baseline, candidate⟩ := e
    have hside : ∀ v w, (!propertyValuesEqual v w) = true ↔ v ≠ w := by
      intro v w
      rw [Bool.not_eq_true', ← Bool.not_eq_true, propertyValuesEqual_iff]
    cases baseline <;> cases candidate <;>
      simp [expectationsSatisfied, NormalizedDriftRule.SatisfiedBy, hside, propertyValuesEqual_iff]

end Rules

/-- What classification says of a difference. -/
def classify (p : NormalizedDriftPolicy) (d : Difference) : ClassifiedChange :=
  let rules := rulesAbout p d
  let approved := rules.any (fun r => d.observed.all (fun c =>
    expectationsSatisfied r.expected c.baseline c.candidate))
  { change := d.change
    classification := if approved then .expectedDifference else .unexpectedDrift
    matchedRuleIds := sortedIds rules
    objectIdentity := d.objectIdentity
    parentIdentity := d.parentIdentity
    reason := if rules = [] then .unmatchedDifference
      else if approved then .matchedPolicyRule else .expectationMismatch
    observed := d.observed }

section Policy
variable {p p' : NormalizedDriftPolicy} {d : Difference}

@[simp] lemma difference_classify : (classify p d).difference = d := rfl

/-- A difference is expected exactly when a rule of the policy approves it. -/
theorem classify_expected (hp : p.Normalized) (hd : d.observed = none → d.change ≠ .changed) :
    (classify p d).classification = .expectedDifference ↔ ∃ r ∈ p.rules, r.Approves d := by
  have happroved : (rulesAbout p d).any (fun r => d.observed.all (fun c =>
      expectationsSatisfied r.expected c.baseline c.candidate)) = true ↔ ∃ r ∈ p.rules, r.Approves d := by
    simp only [List.any_eq_true, mem_rulesAbout, and_assoc]
    refine exists_congr (fun r => and_congr_right (fun hr => and_congr_right (fun hselects => ?_)))
    cases hobserved : d.observed with
    | none =>
      have hchange : r.change ≠ .changed := hselects.1 ▸ hd hobserved
      simp [(hp.shaped r hr hchange).2]
    | some c => simp [expectationsSatisfied_iff]
  rw [← happroved, classify]
  split_ifs with h <;> simp [h]

variable (hp : p.Normalized)
include hp

/-- Rules about one difference expect the same. -/
lemma expected_eq {r r' : NormalizedDriftRule} (hr : r ∈ rulesAbout p d) (hr' : r' ∈ rulesAbout p d) :
    r.expected = r'.expected := by
  obtain ⟨hr, hselects⟩ := mem_rulesAbout.mp hr
  obtain ⟨hr', hselects'⟩ := mem_rulesAbout.mp hr'
  exact expectationProjection_inj.mp (hp.unambiguous r hr r' hr'
    ((selects_iff.mp hselects).trans (selects_iff.mp hselects').symm))

lemma expectationProjectionForRules_eq {r : NormalizedDriftRule} (hr : r ∈ rulesAbout p d) :
    expectationProjectionForRules (rulesAbout p d) = .ok r.expectationProjection := by
  have hsame : ∀ y ∈ (rulesAbout p d).map NormalizedDriftRule.expectationProjection,
      y = r.expectationProjection := by
    intro y hy
    obtain ⟨r', hr', rfl⟩ := List.mem_map.mp hy
    exact expectationProjection_inj.mpr (expected_eq hp hr' hr)
  rw [expectationProjectionForRules, distinct_eq_singleton (List.mem_map_of_mem hr) hsame]

lemma approved_eq {r : NormalizedDriftRule} (hr : r ∈ rulesAbout p d) :
    (rulesAbout p d).any (fun r => d.observed.all (fun c =>
      expectationsSatisfied r.expected c.baseline c.candidate)) =
        d.observed.all (fun c => expectationsSatisfied r.expected c.baseline c.candidate) := by
  rw [Bool.eq_iff_iff, List.any_eq_true]
  constructor
  · rintro ⟨r', hr', h⟩
    rwa [expected_eq hp hr hr']
  · exact fun h => ⟨r, hr, h⟩

/-- An object of one side is classified once. -/
lemma classifyObjectChange_eq {o : ObjectChange} (hchange : o.change ≠ .changed) :
    classifyObjectChange (buildPolicyIndex p) o =
      .ok (classify p ⟨o.change, o.objectIdentity, o.parentIdentity, none⟩) := by
  set d : Difference := ⟨o.change, o.objectIdentity, o.parentIdentity, none⟩ with hd
  have hrules : rulesFor (buildPolicyIndex p) (o.change, o.objectIdentity.canonicalBytes, none) =
      rulesAbout p d := rulesFor_eq p d
  rw [classifyObjectChange, hrules, classify]
  cases hcases : rulesAbout p d with
  | nil => rfl
  | cons r rest =>
    have hr : r ∈ rulesAbout p d := hcases ▸ List.mem_cons_self ..
    have hpresence : r.expectationProjection = presenceOnly := by
      obtain ⟨hr, hselects⟩ := mem_rulesAbout.mp hr
      have hkind : r.change ≠ .changed := hselects.1 ▸ hchange
      exact expectationProjection_eq_presenceOnly.mpr (hp.shaped r hr hkind).2
    have hprojection := expectationProjectionForRules_eq hp hr
    rw [hcases] at hprojection
    rw [if_neg (List.cons_ne_nil _ _), hprojection, ok_bind, if_pos hpresence]
    rfl

/-- A property of an object of both sides is classified once. -/
lemma classifyPropertyChange_eq (o : ObjectChange) (c : PropertyChange) :
    classifyPropertyChange (buildPolicyIndex p) o c =
      .ok (classify p ⟨.changed, o.objectIdentity, o.parentIdentity, some c⟩) := by
  set d : Difference := ⟨.changed, o.objectIdentity, o.parentIdentity, some c⟩ with hd
  have hrules : rulesFor (buildPolicyIndex p) (.changed, o.objectIdentity.canonicalBytes, some c.property) =
      rulesAbout p d := rulesFor_eq p d
  rw [classifyPropertyChange, hrules, classify]
  cases hcases : rulesAbout p d with
  | nil => rfl
  | cons r rest =>
    have hr : r ∈ rulesAbout p d := hcases ▸ List.mem_cons_self ..
    have hprojection := expectationProjectionForRules_eq hp hr
    have happroved := approved_eq hp hr
    rw [hcases] at hprojection happroved
    have hpresence : r.expectationProjection = presenceOnly →
        expectationsSatisfied r.expected c.baseline c.candidate = true := by
      intro h
      rw [expectationProjection_eq_presenceOnly.mp h]
      rfl
    dsimp only
    rw [hprojection, ok_bind, happroved]
    by_cases hsatisfied : expectationsSatisfied r.expected c.baseline c.candidate = true
    · simp [hd, hsatisfied]
      rfl
    · have hnot : ¬ (r.expectationProjection = presenceOnly ∨
          expectationsSatisfied r.expected c.baseline c.candidate = true) :=
        fun h => h.elim (fun h => hsatisfied (hpresence h)) hsatisfied
      rw [if_neg hnot]
      simp [hd, hsatisfied]
      rfl

lemma classifyChange_eq (o : ObjectChange) :
    classifyChange (buildPolicyIndex p) o = .ok ((differencesOf o).map (classify p)) := by
  rw [classifyChange, differencesOf]
  cases hchange : o.change with
  | changed =>
    rw [List.map_map]
    exact mapM_eq_map (fun c _ => classifyPropertyChange_eq hp o c)
  | _ =>
    have hone := classifyObjectChange_eq (o := o) hp (by rw [hchange]; decide)
    rw [hchange] at hone
    dsimp only
    rw [hone]
    rfl

/-- Classification lists each difference once. -/
theorem classifyDrift_eq (changes : List ObjectChange) : classifyDrift changes p =
    .ok (sortBy classifiedSortKey ((differences changes).map (classify p))) := by
  have hall : changes.mapM (classifyChange (buildPolicyIndex p)) =
      .ok (changes.map (fun o => (differencesOf o).map (classify p))) :=
    mapM_eq_map (fun o _ => classifyChange_eq hp o)
  rw [classifyDrift, hall, ok_bind, differences, List.map_flatMap]
  rfl

end Policy

section Permutation
variable {p p' : NormalizedDriftPolicy} {d : Difference}

/-- Permuting the rules keeps a policy normalized. -/
lemma NormalizedDriftPolicy.Normalized.perm (hp : p.Normalized) (h : p.rules.Perm p'.rules) : p'.Normalized where
  ids := (h.map _).nodup_iff.mp hp.ids
  shaped := fun r hr => hp.shaped r (h.mem_iff.mpr hr)
  unambiguous := fun r hr r' hr' => hp.unambiguous r (h.mem_iff.mpr hr) r' (h.mem_iff.mpr hr')

lemma classify_perm (h : p.rules.Perm p'.rules) (d : Difference) : classify p d = classify p' d := by
  have hrules : (rulesAbout p d).Perm (rulesAbout p' d) := h.filter _
  have hids : sortedIds (rulesAbout p d) = sortedIds (rulesAbout p' d) :=
    sortBy_congr_perm (hrules.map _) (fun _ _ _ _ hab => hab)
  have hany : ∀ f : NormalizedDriftRule → Bool, (rulesAbout p d).any f = (rulesAbout p' d).any f := by
    intro f
    rw [Bool.eq_iff_iff, List.any_eq_true, List.any_eq_true]
    exact exists_congr (fun r => and_congr_left' hrules.mem_iff)
  have hnil : rulesAbout p d = [] ↔ rulesAbout p' d = [] := by
    rw [← List.length_eq_zero_iff, ← List.length_eq_zero_iff, hrules.length_eq]
  simp only [classify, hids, hany, hnil]

lemma identitySortKey_id {r r' : NormalizedDriftRule} (h : r.identitySortKey = r'.identitySortKey) :
    r.id = r'.id := by
  have hrank := (Prod.mk.inj (toLex.injective h)).2
  have hobject := (Prod.mk.inj (toLex.injective hrank)).2
  have hproperty := (Prod.mk.inj (toLex.injective hobject)).2
  exact (Prod.mk.inj (toLex.injective hproperty)).2

/-- The identity of a policy does not depend on the order of its rules. -/
theorem toIdentityDict_perm (hp : p.Normalized) (h : p.rules.Perm p'.rules) :
    p.toIdentityDict = p'.toIdentityDict := by
  have hsorted : sortBy NormalizedDriftRule.identitySortKey p.rules =
      sortBy NormalizedDriftRule.identitySortKey p'.rules :=
    sortBy_congr_perm h (fun a ha b hb hab =>
      List.inj_on_of_nodup_map hp.ids ha hb (identitySortKey_id hab))
  rw [NormalizedDriftPolicy.toIdentityDict, NormalizedDriftPolicy.toIdentityDict, hsorted]

end Permutation

section Result
variable {sha256 : String → String} {p : NormalizedDriftPolicy} {comparison : ObservedComparison}

lemma mem_differences {changes : List ObjectChange} {d : Difference} (hd : d ∈ differences changes) :
    d.observed = none → d.change ≠ .changed := by
  obtain ⟨o, -, hd⟩ := List.mem_flatMap.mp hd
  intro hobserved
  rw [differencesOf] at hd
  cases hchange : o.change with
  | changed =>
    rw [hchange] at hd
    obtain ⟨c, -, rfl⟩ := List.mem_map.mp hd
    cases hobserved
  | _ =>
    rw [hchange] at hd
    rw [List.mem_singleton.mp hd]
    simp

/-- Every classified difference is expected or unexpected. -/
lemma countP_classification (classified : List ClassifiedChange) :
    classified.countP (fun c => c.classification = .expectedDifference) +
      classified.countP (fun c => c.classification = .unexpectedDrift) = classified.length := by
  rw [List.length_eq_countP_add_countP (fun c : ClassifiedChange => c.classification = .expectedDifference)]
  congr 1
  refine List.countP_congr ?_
  intro c _
  cases c.classification <;> decide

lemma deriveStatus_eq_unexpected {classified : List ClassifiedChange} :
    deriveStatus classified = .unexpectedDrift ↔ ∃ c ∈ classified, c.classification = .unexpectedDrift := by
  rw [deriveStatus]
  split_ifs with hnil hany
  · simp [hnil]
  · simpa using hany
  · simpa using hany

lemma deriveStatus_eq_none {classified : List ClassifiedChange} :
    deriveStatus classified = .noDifference ↔ classified = [] := by
  rw [deriveStatus]
  split_ifs with hnil hany <;> simp [hnil]

/-- The status fits the counts, so the built-in check passes. -/
lemma assertStatusInvariants_ok (classified : List ClassifiedChange) :
    assertStatusInvariants (deriveStatus classified) classified (buildSummary classified) = .ok () := by
  have hcount := countP_classification classified
  have hpositive : deriveStatus classified = .unexpectedDrift ↔
      classified.countP (fun c => c.classification = .unexpectedDrift) ≠ 0 := by
    rw [deriveStatus_eq_unexpected, Ne, List.countP_eq_zero]
    simp
  rw [assertStatusInvariants, if_neg (by simp [buildSummary, hcount]), if_neg, if_neg]
  · rintro ⟨hstatus, hzero⟩
    exact hpositive.mp hstatus hzero
  · rintro ⟨hstatus, hnil | hunexpected⟩
    · rw [deriveStatus_eq_none.mpr hnil] at hstatus
      cases hstatus
    · rw [hpositive.mpr hunexpected] at hstatus
      cases hstatus

/-- What is built from a comparison and a policy. -/
theorem buildDriftResult_eq (hp : p.Normalized) :
    ∃ classified, classifyDrift comparison.objectChanges p = .ok classified ∧
      buildDriftResult sha256 comparison (some p) = .ok ⟨classified, comparison.contentIdentity,
        some (driftPolicyIdentity sha256 p.toIdentityDict), deriveStatus classified,
          buildSummary classified⟩ := by
  refine ⟨_, classifyDrift_eq hp comparison.objectChanges, ?_⟩
  rw [buildDriftResult]
  by_cases hidentical : comparison.status = "identical"
  · have hnone := comparison.agrees.mp hidentical
    simp only [hidentical, if_true, hnone]
    rfl
  · simp only [hidentical, if_false, Option.map_some, classifyDrift_eq hp, ok_bind,
      assertStatusInvariants_ok]
    rfl

/-- Drift classification is exact, and blind to the order of the rules. -/
theorem drift_classification_exact (hp : p.Normalized) :
    ∃ result, buildDriftResult sha256 comparison (some p) = .ok result ∧
      classifyDrift comparison.objectChanges p = .ok result.classifiedChanges ∧
      (result.classifiedChanges.map ClassifiedChange.difference).Perm
        (differences comparison.objectChanges) ∧
      (∀ c ∈ result.classifiedChanges, c.classification = .expectedDifference ↔
        ∃ r ∈ p.rules, r.Approves c.difference) ∧
      (result.status = .noDifference ↔ result.classifiedChanges = []) ∧
      (result.status = .unexpectedDrift ↔
        ∃ c ∈ result.classifiedChanges, c.classification = .unexpectedDrift) ∧
      result.summary.expectedDifferences =
        result.classifiedChanges.countP (fun c => c.classification = .expectedDifference) ∧
      result.summary.unexpectedDrift =
        result.classifiedChanges.countP (fun c => c.classification = .unexpectedDrift) ∧
      result.summary.propertyDrift = result.classifiedChanges.countP
        (fun c => c.classification = .unexpectedDrift ∧ c.change = .changed) ∧
      result.summary.affectedObjects =
        (distinct (result.classifiedChanges.map ClassifiedChange.objectIdentity)).length ∧
      ∀ p' : NormalizedDriftPolicy, p.rules.Perm p'.rules →
        buildDriftResult sha256 comparison (some p') = .ok result := by
  obtain ⟨classified, hclassified, hresult⟩ := @buildDriftResult_eq sha256 p comparison hp
  have hsorted := Except.ok.inj (hclassified.symm.trans (classifyDrift_eq hp comparison.objectChanges))
  refine ⟨_, hresult, hclassified, ?_, ?_, deriveStatus_eq_none, deriveStatus_eq_unexpected, rfl, rfl, rfl,
    ?_, ?_⟩
  · rw [hsorted]
    refine ((sortBy_perm _ _).map ClassifiedChange.difference).trans (.of_eq ?_)
    rw [List.map_map]
    exact List.map_id _
  · intro c hc
    rw [hsorted, mem_sortBy] at hc
    obtain ⟨d, hd, rfl⟩ := List.mem_map.mp hc
    exact classify_expected hp (mem_differences hd)
  · rw [← length_distinct_map ComparisonObjectIdentity.canonicalBytes_inj, List.map_map]
    rfl
  · intro p' hperm
    obtain ⟨classified', hclassified', hresult'⟩ :=
      @buildDriftResult_eq sha256 p' comparison (hp.perm hperm)
    have hsorted' := Except.ok.inj (hclassified'.symm.trans
      (classifyDrift_eq (hp.perm hperm) comparison.objectChanges))
    have hsame : classified' = classified := by
      rw [hsorted, hsorted']
      exact congrArg _ (List.map_congr_left (fun d _ => (classify_perm hperm d).symm))
    rw [hresult', hsame, toIdentityDict_perm hp hperm]

/-- The orders are gone. -/
def ordersRemoved : ObjectChange :=
  ⟨.removed, .table ⟨"public", by decide⟩ ⟨"orders", by decide⟩, some (.schema ⟨"public", by decide⟩), []⟩

/-- The customers lose their description and get another owner. -/
def customersChanged : ObjectChange :=
  ⟨.changed, .table ⟨"public", by decide⟩ ⟨"customers", by decide⟩, some (.schema ⟨"public", by decide⟩),
    [⟨"/attributes/ownership", .present (canonicalizeJsonValue (.str "ann")),
        .present (canonicalizeJsonValue (.str "bob"))⟩,
      ⟨"/description", .present (canonicalizeJsonValue (.str "buyers")), .missing⟩]⟩

def shopComparison : ObservedComparison where
  contentIdentity := ⟨algorithmName, hashingContractVersion, ""⟩
  objectChanges := [ordersRemoved, customersChanged]
  status := "different"
  agrees := iff_of_false (by decide) (List.cons_ne_nil _ _)

/-- The orders may go, and the description of the customers, who are expected to keep their owner. -/
def shopPolicy : NormalizedDriftPolicy :=
  ⟨[⟨"description-dropped", .changed, customersChanged.objectIdentity, some "/description", some ⟨none, some .missing⟩⟩,
    ⟨"orders-retired", .removed, ordersRemoved.objectIdentity, none, none⟩,
    ⟨"owner-kept", .changed, customersChanged.objectIdentity, some "/attributes/ownership",
      some ⟨none, some (.present (canonicalizeJsonValue (.str "ann")))⟩⟩]⟩

lemma shopPolicy_normalized : shopPolicy.Normalized where
  ids := by decide
  shaped := by
    unfold NormalizedDriftRule.Shaped
    decide
  unambiguous := by decide +kernel

theorem shop_classified : ∃ result,
    buildDriftResult (fun s => s) shopComparison (some shopPolicy) = .ok result ∧
      result.classifiedChanges.map (fun c => (c.property, c.matchedRuleIds, c.classification)) =
        [("/attributes/ownership", ["owner-kept"], .unexpectedDrift),
          ("/description", ["description-dropped"], .expectedDifference),
          ("", ["orders-retired"], .expectedDifference)] ∧
      ∀ c ∈ result.classifiedChanges, c.classification = .expectedDifference ↔
        ∃ r ∈ shopPolicy.rules, r.Approves c.difference := by
  obtain ⟨result, hresult, -, -, hexpected, -⟩ :=
    @drift_classification_exact (fun s => s) shopPolicy shopComparison shopPolicy_normalized
  have hclassified : (buildDriftResult (fun s => s) shopComparison (some shopPolicy)).toOption.map (fun result =>
      result.classifiedChanges.map fun c => (c.property, c.matchedRuleIds, c.classification)) =
      some [("/attributes/ownership", ["owner-kept"], .unexpectedDrift),
        ("/description", ["description-dropped"], .expectedDifference),
        ("", ["orders-retired"], .expectedDifference)] := by
    decide +kernel
  rw [hresult] at hclassified
  exact ⟨result, hresult, Option.some.inj hclassified, hexpected⟩

end Result
end CollibraGovernance.Drift
