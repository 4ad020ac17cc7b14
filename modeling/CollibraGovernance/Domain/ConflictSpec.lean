import CollibraGovernance.Domain.Conflicts

/-! What decides a conflict: the records the winning rule names, and nothing else. -/
namespace CollibraGovernance.Domain
open Library Identity

section Ranks
variable {matching : List NormalizedAuthorityRule}

lemma maxRank_spec (h : matching ≠ []) :
    (∃ r ∈ matching, r.key.selector.specificityRank = maxRank matching) ∧
      ∀ r ∈ matching, r.key.selector.specificityRank ≤ maxRank matching := by
  have hsome := List.isSome_max?_of_ne_nil
    (l := matching.map (fun r => r.key.selector.specificityRank)) (by simpa using h)
  obtain ⟨rank, hrank⟩ := Option.isSome_iff_exists.mp hsome
  obtain ⟨hmem, hmax⟩ := List.max?_eq_some_iff.mp hrank
  rw [maxRank, hrank, Option.getD_some]
  exact ⟨List.mem_map.mp hmem, fun r hr => hmax _ (List.mem_map.mpr ⟨r, hr, rfl⟩)⟩

/-- The winners are the matching rules that no matching rule outranks. -/
theorem mem_winningRules {r : NormalizedAuthorityRule} : r ∈ winningRules matching ↔
    r ∈ matching ∧ ∀ r' ∈ matching,
      r'.key.selector.specificityRank ≤ r.key.selector.specificityRank := by
  rw [winningRules, List.mem_filter, decide_eq_true_eq]
  apply and_congr_right
  intro hr
  obtain ⟨⟨top, htop, hattained⟩, hle⟩ := maxRank_spec (List.ne_nil_of_mem hr)
  constructor
  · intro hrank r' hr'
    rw [hrank]
    exact hle r' hr'
  · intro hmax
    rw [← hattained]
    exact Nat.le_antisymm (hattained ▸ hle r hr) (hmax top htop)

end Ranks

/-- A rule key matching the property that no other matching one outranks. -/
def MostSpecific (authority : NormalizedAuthorityPolicySet) (i : GraphNodeIdentity)
    (p : PropertyPath) (k : AuthorityRuleKey) : Prop :=
  k ∈ authority.rules.map NormalizedAuthorityRule.key ∧ k.selector.matchesProperty i p = true ∧
    ∀ k' ∈ authority.rules.map NormalizedAuthorityRule.key, k'.selector.matchesProperty i p = true →
      k'.selector.specificityRank ≤ k.selector.specificityRank

/-- The most specific rule key, where there is just one. -/
def Winning (authority : NormalizedAuthorityPolicySet) (i : GraphNodeIdentity) (p : PropertyPath)
    (k : AuthorityRuleKey) : Prop :=
  MostSpecific authority i p k ∧ ∀ k', MostSpecific authority i p k' → k' = k

section Winning
variable {authority : NormalizedAuthorityPolicySet} {i : GraphNodeIdentity} {p : PropertyPath}

lemma mostSpecific_iff {k : AuthorityRuleKey} : MostSpecific authority i p k ↔
    ∃ r ∈ winningRules (authority.matchingRules i p), r.key = k := by
  simp only [MostSpecific, mem_winningRules, NormalizedAuthorityPolicySet.matchingRules,
    List.mem_filter, List.mem_map]
  constructor
  · rintro ⟨⟨r, hr, rfl⟩, hmatch, hmax⟩
    exact ⟨r, ⟨⟨hr, hmatch⟩, fun r' hr' => hmax _ ⟨r', hr'.1, rfl⟩ hr'.2⟩, rfl⟩
  · rintro ⟨r, ⟨⟨hr, hmatch⟩, hmax⟩, rfl⟩
    refine ⟨⟨r, hr, rfl⟩, hmatch, ?_⟩
    rintro k' ⟨r', hr', rfl⟩ hmatch'
    exact hmax r' ⟨hr', hmatch'⟩

lemma winningRules_cons (first : NormalizedAuthorityRule) (rest : List NormalizedAuthorityRule) :
    ∃ winner others, winningRules (first :: rest) = winner :: others := by
  obtain ⟨⟨r, hr, hrank⟩, -⟩ := maxRank_spec (List.cons_ne_nil first rest)
  have hmem : r ∈ winningRules (first :: rest) :=
    List.mem_filter.mpr ⟨hr, decide_eq_true hrank⟩
  exact List.exists_cons_of_ne_nil (List.ne_nil_of_mem hmem)

/-- Winners of one key: what the analysis tests before it picks the first. -/
lemma winning_iff {first : NormalizedAuthorityRule} {rest : List NormalizedAuthorityRule}
    (h : authority.matchingRules i p = first :: rest) {k : AuthorityRuleKey} :
    Winning authority i p k ↔
      ¬ (distinct ((winningRules (first :: rest)).map NormalizedAuthorityRule.key)).length > 1 ∧
        ((winningRules (first :: rest)).head?.getD first).key = k := by
  obtain ⟨winner, others, hwin⟩ := winningRules_cons first rest
  have hspecific : ∀ k', MostSpecific authority i p k' ↔
      k' ∈ distinct ((winner :: others).map NormalizedAuthorityRule.key) := by
    intro k'
    rw [mostSpecific_iff, h, hwin, mem_distinct, List.mem_map]
  have hnodup := distinct_nodup ((winner :: others).map NormalizedAuthorityRule.key)
  have hwinner : winner.key ∈ distinct ((winner :: others).map NormalizedAuthorityRule.key) := by
    simp
  rw [hwin, List.head?_cons, Option.getD_some, Winning]
  simp only [hspecific]
  constructor
  · rintro ⟨hk, hall⟩
    refine ⟨?_, hall _ hwinner⟩
    intro hlength
    have hone : distinct ((winner :: others).map NormalizedAuthorityRule.key) = [k] := by
      rw [← List.perm_singleton, List.perm_ext_iff_of_nodup hnodup (List.nodup_singleton k)]
      intro k'
      rw [List.mem_singleton]
      exact ⟨hall k', fun h => h ▸ hk⟩
    rw [hone] at hlength
    simp at hlength
  · rintro ⟨hlength, rfl⟩
    refine ⟨hwinner, ?_⟩
    intro k' hk'
    obtain ⟨x, hx⟩ := List.length_eq_one_iff.mp
      (Nat.le_antisymm (Nat.not_lt.mp hlength) (List.length_pos_of_mem hwinner))
    rw [hx, List.mem_singleton] at hwinner hk'
    rw [hwinner, hk']

end Winning

section Verdict
variable {authority : NormalizedAuthorityPolicySet} {i : GraphNodeIdentity} {p : PropertyPath}
  {valueGroups : List PropertyObservation} {k : AuthorityRuleKey} {o : PropertyObservation}

/-- A conflict is resolved to the value of the only group the winning rule names. -/
lemma verdict_resolved (h : (verdict authority i p valueGroups).state = .resolvedByAuthority) :
    ∃ k o, Winning authority i p k ∧ valueGroups.filter (fun o => o.authorizedBy k.authority) = [o] ∧
      verdict authority i p valueGroups =
        ⟨.resolvedByAuthority, .resolvedByAuthority, some o.value, some k⟩ := by
  unfold verdict at h ⊢
  split at h
  · split at h <;> cases h
  · split at h
    · cases h
    · rename_i first rest hmatching
      dsimp only at h ⊢
      split at h
      · cases h
      · rename_i hone
        split at h
        · cases h
        · rename_i o hauthorized
          refine ⟨_, o, (winning_iff hmatching).mpr ⟨hone, rfl⟩, hauthorized, ?_⟩
          rw [if_neg hone]
        · cases h

/-- Where the winning rule names just one group, its value is effective, also when it is the only
group. -/
lemma verdict_effective (hk : Winning authority i p k)
    (ho : valueGroups.filter (fun o => o.authorizedBy k.authority) = [o]) :
    (verdict authority i p valueGroups).effectiveValue = some o.value := by
  unfold verdict
  split
  · rename_i x
    have hmem : o ∈ [x].filter (fun o => o.authorizedBy k.authority) := by
      rw [ho]
      exact List.mem_singleton_self o
    rw [List.mem_singleton.mp (List.mem_of_mem_filter hmem)]
    split <;> rfl
  · split
    · rename_i hnone
      obtain ⟨r, hr, -⟩ := mostSpecific_iff.mp hk.1
      rw [hnone] at hr
      cases hr
    · rename_i first rest hmatching
      obtain ⟨hone, hwinner⟩ := (winning_iff hmatching).mp hk
      dsimp only
      rw [if_neg hone, hwinner, ho]

/-- An ambiguous verdict needs two most specific rules. -/
lemma verdict_ambiguous
    (h : (verdict authority i p valueGroups).state = .invalidOrAmbiguousAuthority) :
    ∃ k k', MostSpecific authority i p k ∧ MostSpecific authority i p k' ∧ k' ≠ k := by
  unfold verdict at h
  split at h
  · split at h <;> cases h
  · split at h
    · cases h
    · rename_i first rest hmatching
      dsimp only at h
      split at h
      · rename_i hmany
        obtain ⟨winner, others, hwin⟩ := winningRules_cons first rest
        have hspecific : MostSpecific authority i p winner.key := by
          rw [mostSpecific_iff, hmatching, hwin]
          exact ⟨winner, List.mem_cons_self .., rfl⟩
        by_contra hnone
        have hwinning : Winning authority i p winner.key :=
          ⟨hspecific, fun k' hk' => by_contra fun hne => hnone ⟨_, k', hspecific, hk', hne⟩⟩
        exact ((winning_iff hmatching).mp hwinning).1 hmany
      · split at h <;> cases h

end Verdict

section Report
variable {authority : NormalizedAuthorityPolicySet} {observations : PropertyObservationSet}
  {i : GraphNodeIdentity} {p : PropertyPath} {e : (String × String) × Library.Group PropertyObservation}

lemma propertyKey_eq_iff {o : PropertyObservation} :
    propertyKey o = (i.canonicalBytes, p.toPointer) ↔ o.objectIdentity = i ∧ o.propertyPath = p := by
  simp only [propertyKey, Prod.mk.injEq, GraphNodeIdentity.canonicalBytes_inj.eq_iff,
    PropertyPath.toPointer_inj.eq_iff]

/-- The group of a property holds the observations of that property. -/
lemma mem_group (he : e ∈ (groupBy propertyKey observations.observations).entries)
    {o : PropertyObservation} : o ∈ e.2.members ↔ o ∈ observations.observations ∧
      o.objectIdentity = e.2.base.objectIdentity ∧ o.propertyPath = e.2.base.propertyPath := by
  have hbase := e.2.base_mem
  rw [mem_entries_groupBy he, List.mem_filter, decide_eq_true_eq] at hbase ⊢
  rw [← hbase.2, ← propertyKey_eq_iff]
  rfl

lemma keys_nodup (observations : PropertyObservationSet) :
    (observations.observations.map PropertyObservation.groupingKey).Nodup := by
  rw [← observations.normalized]
  exact normalizeObservations_keys_nodup _

lemma valueGroups_nodup (he : e ∈ (groupBy propertyKey observations.observations).entries) :
    (sortBy PropertyObservation.valueFingerprint e.2.members).Nodup := by
  rw [(sortBy_perm _ _).nodup_iff, mem_entries_groupBy he]
  exact (keys_nodup observations).of_map.filter _

lemma mem_results {r : PropertyConflictResult} :
    r ∈ (analyzePropertyConflicts authority observations).results ↔
      ∃ e ∈ (groupBy propertyKey observations.observations).entries,
        analyzeGroup authority e.2 = r := by
  simp only [analyzePropertyConflicts, PropertyConflictReport.of, mem_sortBy, List.mem_map]

variable (authority) in
/-- The report's answer for an observed property is the one of its group. -/
lemma exists_group {o : PropertyObservation} (ho : o ∈ observations.observations) :
    ∃ e ∈ (groupBy propertyKey observations.observations).entries,
      e.2.base.objectIdentity = o.objectIdentity ∧ e.2.base.propertyPath = o.propertyPath ∧
      (analyzePropertyConflicts authority observations).effectiveValue o.objectIdentity
        o.propertyPath = (analyzeGroup authority e.2).effectiveValue := by
  have hbase : ∀ e ∈ (groupBy propertyKey observations.observations).entries,
      propertyKey e.2.base = e.1 := by
    intro e he
    have hmem := e.2.base_mem
    rw [mem_entries_groupBy he, List.mem_filter, decide_eq_true_eq] at hmem
    exact hmem.2
  have hkeys : propertyKey o ∈ (groupBy propertyKey observations.observations).keys :=
    mem_keys_groupBy.mpr ⟨o, ho, rfl⟩
  obtain ⟨e, he, hk⟩ := List.mem_map.mp hkeys
  obtain ⟨hi, hp⟩ := propertyKey_eq_iff.mp ((hbase e he).trans hk)
  refine ⟨e, he, hi, hp, ?_⟩
  have hresult : analyzeGroup authority e.2 ∈
      (analyzePropertyConflicts authority observations).results := mem_results.mpr ⟨e, he, rfl⟩
  unfold PropertyConflictReport.effectiveValue
  cases hfind : (analyzePropertyConflicts authority observations).results.find?
      (fun x => x.objectIdentity = o.objectIdentity ∧ x.propertyPath = o.propertyPath) with
  | none =>
    have hnot := List.find?_eq_none.mp hfind _ hresult
    exact absurd (decide_eq_true ⟨hi, hp⟩) hnot
  | some r =>
    obtain ⟨e', he', rfl⟩ := mem_results.mp (List.mem_of_find?_eq_some hfind)
    have hfound := List.find?_some hfind
    rw [decide_eq_true_eq] at hfound
    obtain ⟨hi', hp'⟩ := hfound
    have hkey : e'.1 = e.1 := by
      rw [← hbase e' he', hk]
      exact propertyKey_eq_iff.mpr ⟨hi', hp'⟩
    rw [List.inj_on_of_nodup_map (groupBy propertyKey observations.observations).nodup he' he hkey]
    rfl

/-- The groups the winning rule names hold the values the rule's records support. -/
lemma mem_authorized (he : e ∈ (groupBy propertyKey observations.observations).entries)
    {t : AuthorityTarget} {o : PropertyObservation} :
    o ∈ (sortBy PropertyObservation.valueFingerprint e.2.members).filter
        (fun o => o.authorizedBy t) ↔
      o ∈ observations.observations ∧ o.objectIdentity = e.2.base.objectIdentity ∧
        o.propertyPath = e.2.base.propertyPath ∧ ∃ r ∈ o.provenance, t.matchesRecord r = true := by
  rw [List.mem_filter, mem_sortBy, mem_group he, PropertyObservation.authorizedBy, List.any_eq_true,
    and_assoc, and_assoc]

/-- A value that the winning rule's records support, and the only one, is effective. -/
theorem effectiveValue_of_authorized {k : AuthorityRuleKey} {v : CanonicalValue}
    {r : ProvenanceRecord} (hk : Winning authority i p k) (hr : k.authority.matchesRecord r = true)
    (hv : Observed observations.observations i p v r)
    (hunique : ∀ v' r', k.authority.matchesRecord r' = true →
      Observed observations.observations i p v' r' → v' = v) :
    (analyzePropertyConflicts authority observations).effectiveValue i p = some v := by
  obtain ⟨o, ho, rfl, rfl, rfl, hor⟩ := hv
  obtain ⟨e, he, hi, hp, heffective⟩ := exists_group authority ho
  rw [heffective]
  have hone : (sortBy PropertyObservation.valueFingerprint e.2.members).filter
      (fun o => o.authorizedBy k.authority) = [o] := by
    rw [← List.perm_singleton, List.perm_ext_iff_of_nodup ((valueGroups_nodup he).filter _)
      (List.nodup_singleton o)]
    intro x
    rw [mem_authorized he, List.mem_singleton, hi, hp]
    constructor
    · rintro ⟨hx, hxi, hxp, r', hr', hmatch⟩
      have hxv := hunique x.value r' hmatch ⟨x, hx, hxi, hxp, rfl, hr'⟩
      exact List.inj_on_of_nodup_map (keys_nodup observations) hx ho
        (PropertyObservation.groupingKey_eq_iff.mpr ⟨hxi, hxp, hxv⟩)
    · rintro rfl
      exact ⟨ho, rfl, rfl, r, hor, hr⟩
  rw [← hi, ← hp] at hk
  exact verdict_effective hk hone

/-- A result lists the observations of its property. -/
lemma mem_valueGroups {x : PropertyConflictResult}
    (hx : x ∈ (analyzePropertyConflicts authority observations).results) {o : PropertyObservation} :
    o ∈ x.valueGroups ↔ o ∈ observations.observations ∧ o.objectIdentity = x.objectIdentity ∧
      o.propertyPath = x.propertyPath := by
  obtain ⟨e, he, rfl⟩ := mem_results.mp hx
  exact mem_sortBy.trans (mem_group he)

/-- Every resolved property has the value of the one group that the winning rule names. -/
theorem resolved_value {x : PropertyConflictResult}
    (hx : x ∈ (analyzePropertyConflicts authority observations).results)
    (hstate : x.state = .resolvedByAuthority) :
    ∃ k, Winning authority x.objectIdentity x.propertyPath k ∧ x.winningRuleKey = some k ∧
      ∃ o ∈ x.valueGroups, o.authorizedBy k.authority = true ∧
        (∀ o' ∈ x.valueGroups, o'.authorizedBy k.authority = true → o' = o) ∧
        x.effectiveValue = some o.value := by
  obtain ⟨e, -, rfl⟩ := mem_results.mp hx
  obtain ⟨k, o, hk, hone, hverdict⟩ := verdict_resolved hstate
  have hmem : o ∈ (sortBy PropertyObservation.valueFingerprint e.2.members).filter
      (fun o => o.authorizedBy k.authority) := by
    rw [hone]
    exact List.mem_singleton_self o
  rw [List.mem_filter] at hmem
  refine ⟨k, hk, congrArg Verdict.winningRuleKey hverdict, o, hmem.1, hmem.2, ?_,
    congrArg Verdict.effectiveValue hverdict⟩
  intro o' ho' hauthorized
  have hmem' : o' ∈ (sortBy PropertyObservation.valueFingerprint e.2.members).filter
      (fun o => o.authorizedBy k.authority) := List.mem_filter.mpr ⟨ho', hauthorized⟩
  rw [hone] at hmem'
  exact List.mem_singleton.mp hmem'

end Report

/-- The analysis depends on what is observed and declared, not on how it is listed; a resolved property
has the value of the one group supported by a record that the most specific rule names; and where such
records support one value, observations that they do not support never change the effective value. -/
theorem conflictResolution_authoritative :
    (∀ (parts : List (List PropertyObservation)) (observations : List PropertyObservation)
      (rules rules' : List NormalizedAuthorityRule),
      SameObservations parts.flatten observations → rules.Perm rules' →
      analyzePropertyConflicts (.of rules) (.merge (parts.map .fromObservations)) =
        analyzePropertyConflicts (.of rules') (.fromObservations observations)) ∧
    (∀ (authority : NormalizedAuthorityPolicySet) (observations : PropertyObservationSet),
      ∀ x ∈ (analyzePropertyConflicts authority observations).results, x.state = .resolvedByAuthority →
      ∃ k, Winning authority x.objectIdentity x.propertyPath k ∧ x.winningRuleKey = some k ∧
        (∀ o, o ∈ x.valueGroups ↔ o ∈ observations.observations ∧
          o.objectIdentity = x.objectIdentity ∧ o.propertyPath = x.propertyPath) ∧
        ∃ o ∈ x.valueGroups, o.authorizedBy k.authority = true ∧
          (∀ o' ∈ x.valueGroups, o'.authorizedBy k.authority = true → o' = o) ∧
          x.effectiveValue = some o.value) ∧
    ∀ (authority : NormalizedAuthorityPolicySet) (observations observations' : PropertyObservationSet)
      (i : GraphNodeIdentity) (p : PropertyPath) (k : AuthorityRuleKey) (v : CanonicalValue),
      Winning authority i p k →
      (∃ r, k.authority.matchesRecord r = true ∧ Observed observations.observations i p v r) →
      (∀ v' r, k.authority.matchesRecord r = true → Observed observations.observations i p v' r →
        v' = v) →
      (∀ v' r, k.authority.matchesRecord r = true →
        (Observed observations.observations i p v' r ↔ Observed observations'.observations i p v' r)) →
      (analyzePropertyConflicts authority observations).effectiveValue i p = some v ∧
        (analyzePropertyConflicts authority observations').effectiveValue i p = some v := by
  refine ⟨?_, ?_, ?_⟩
  · intro parts observations rules rules' hsame hperm
    have hrules : NormalizedAuthorityPolicySet.of rules = .of rules' := by
      apply NormalizedAuthorityPolicySet.of_congr
      intro k d
      simp only [Declares, hperm.mem_iff]
    rw [hrules, PropertyObservationSet.merge_map_fromObservations,
      PropertyObservationSet.fromObservations_congr hsame]
  · intro authority observations x hx hstate
    obtain ⟨k, hk, hkey, hvalue⟩ := resolved_value hx hstate
    exact ⟨k, hk, hkey, fun o => mem_valueGroups hx, hvalue⟩
  · intro authority observations observations' i p k v hk hex hunique hsame
    obtain ⟨r, hr, hv⟩ := hex
    refine ⟨effectiveValue_of_authorized hk hr hv hunique, ?_⟩
    apply effectiveValue_of_authorized hk hr ((hsame v r hr).mp hv)
    intro v' r' hr' hv'
    exact hunique v' r' hr' ((hsame v' r' hr').mpr hv')

end CollibraGovernance.Domain
