import CollibraGovernance.Drift.ClassifySpec

/-! A drift policy with more rules explains at least as much. -/
namespace CollibraGovernance.Drift
open Library Identity Comparison

section Monotone
variable {p p' : NormalizedDriftPolicy} {d : Difference}

/-- A difference that a policy expects is expected under any policy with its rules. -/
theorem classify_mono (hp : p.Normalized) (hp' : p'.Normalized) (hrules : ∀ r ∈ p.rules, r ∈ p'.rules)
    (hd : d.observed = none → d.change ≠ .changed)
    (h : (classify p d).classification = .expectedDifference) :
    (classify p' d).classification = .expectedDifference := by
  obtain ⟨r, hr, happroves⟩ := (classify_expected hp hd).mp h
  exact (classify_expected hp' hd).mpr ⟨r, hrules r hr, happroves⟩

lemma unexpected_iff {c : ClassifiedChange} :
    c.classification = .unexpectedDrift ↔ c.classification ≠ .expectedDifference := by
  cases c.classification <;> simp

/-- Fewer differences are unexpected under a policy with more rules. -/
theorem countP_unexpected_mono (hp : p.Normalized) (hp' : p'.Normalized)
    (hrules : ∀ r ∈ p.rules, r ∈ p'.rules) {ds : List Difference}
    (hds : ∀ d ∈ ds, d.observed = none → d.change ≠ .changed) :
    (ds.map (classify p')).countP (fun c => c.classification = .unexpectedDrift) ≤
      (ds.map (classify p)).countP (fun c => c.classification = .unexpectedDrift) := by
  rw [List.countP_map, List.countP_map]
  refine List.countP_mono_left ?_
  intro d hd hunexpected
  have hunexpected := unexpected_iff.mp (of_decide_eq_true hunexpected)
  exact decide_eq_true (unexpected_iff.mpr fun h =>
    hunexpected (classify_mono hp hp' hrules (hds d hd) h))

end Monotone

/-- What a policy with more rules makes of a comparison: each difference that was expected still is, and no
more differences are unexpected. -/
theorem added_rules_explain_more {sha256 : String → String} {iterErrors : Json → List JsonSchema.Failure}
    {document document' : Json} {p p' : NormalizedDriftPolicy}
    (hp : parseAndNormalizePolicy iterErrors document = .ok p)
    (hp' : parseAndNormalizePolicy iterErrors document' = .ok p')
    (hrules : ∀ r ∈ p.rules, r ∈ p'.rules) (comparison : ObservedComparison) :
    ∃ result result', buildDriftResult sha256 comparison (some p) = .ok result ∧
      buildDriftResult sha256 comparison (some p') = .ok result' ∧
      (result.classifiedChanges.map ClassifiedChange.difference).Perm
        (result'.classifiedChanges.map ClassifiedChange.difference) ∧
      (∀ c ∈ result.classifiedChanges, c.classification = .expectedDifference →
        ∀ c' ∈ result'.classifiedChanges, c'.difference = c.difference →
          c'.classification = .expectedDifference) ∧
      result'.summary.unexpectedDrift ≤ result.summary.unexpectedDrift := by
  have hp := normalized_of_parse hp
  have hp' := normalized_of_parse hp'
  obtain ⟨classified, hclassified, hresult⟩ := @buildDriftResult_eq sha256 p comparison hp
  obtain ⟨classified', hclassified', hresult'⟩ := @buildDriftResult_eq sha256 p' comparison hp'
  obtain rfl := Except.ok.inj ((classifyDrift_eq hp comparison.objectChanges).symm.trans hclassified)
  obtain rfl := Except.ok.inj ((classifyDrift_eq hp' comparison.objectChanges).symm.trans hclassified')
  have hdifferences : ∀ q : NormalizedDriftPolicy,
      ((sortBy classifiedSortKey ((differences comparison.objectChanges).map (classify q))).map
        ClassifiedChange.difference).Perm (differences comparison.objectChanges) := by
    intro q
    refine ((sortBy_perm _ _).map ClassifiedChange.difference).trans (.of_eq ?_)
    rw [List.map_map]
    exact List.map_id _
  refine ⟨_, _, hresult, hresult', (hdifferences p).trans (hdifferences p').symm, ?_, ?_⟩
  · intro c hc hexpected c' hc' hsame
    obtain ⟨d, hd, rfl⟩ := List.mem_map.mp (mem_sortBy.mp hc)
    obtain ⟨d', -, rfl⟩ := List.mem_map.mp (mem_sortBy.mp hc')
    obtain rfl : d' = d := hsame
    exact classify_mono hp hp' hrules (mem_differences hd) hexpected
  · have hds : ∀ d ∈ differences comparison.objectChanges, d.observed = none → d.change ≠ .changed :=
      fun d hd => mem_differences hd
    have hcount := countP_unexpected_mono hp hp' hrules hds
    simp only [buildSummary, (sortBy_perm _ _).countP_eq]
    exact hcount

def ordersComparison : ObservedComparison where
  contentIdentity := ⟨algorithmName, hashingContractVersion, ""⟩
  objectChanges := [ordersRemoved]
  status := "different"
  agrees := iff_of_false (by decide) (List.cons_ne_nil _ _)

/-- A policy under which the orders may go. -/
def ordersPolicy : NormalizedDriftPolicy :=
  ⟨[⟨"orders-retired", .removed, ordersRemoved.objectIdentity, none, none⟩]⟩

/-- A policy document with the given rules. -/
def policyOf (rules : List Json) : Json := .obj [("drift_schema", .str driftPolicySchema),
  ("drift_version", .str driftPolicyVersion), ("rules", .arr rules)]

def ordersRetired : Json := .obj [("id", .str "orders-retired"),
  ("match", .obj [("change", .str "removed"), ("object", ordersRemoved.objectIdentity.toDict)])]

lemma policyOf_none : parseAndNormalizePolicy (fun _ => []) (policyOf []) = .ok ⟨[]⟩ := by decide +kernel

lemma policyOf_orders : parseAndNormalizePolicy (fun _ => []) (policyOf [ordersRetired]) =
    .ok ordersPolicy := by decide +kernel

/-- The orders that no rule explained are explained by the added one. -/
theorem orders_explained : ∃ result result',
    buildDriftResult (fun s => s) ordersComparison (some ⟨[]⟩) = .ok result ∧
      buildDriftResult (fun s => s) ordersComparison (some ordersPolicy) = .ok result' ∧
      result'.summary.unexpectedDrift ≤ result.summary.unexpectedDrift := by
  obtain ⟨result, result', hresult, hresult', -, -, hcount⟩ :=
    @added_rules_explain_more (fun s => s) _ _ _ _ _ policyOf_none policyOf_orders (by simp) ordersComparison
  exact ⟨result, result', hresult, hresult', hcount⟩

end CollibraGovernance.Drift
