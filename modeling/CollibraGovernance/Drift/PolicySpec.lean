import CollibraGovernance.Drift.Policy

/-! What the parser promises about the policies it returns. -/
namespace CollibraGovernance.Drift
open Library Identity Comparison

/-- A rule about an added or removed object selects no property and expects no values. -/
def NormalizedDriftRule.Shaped (r : NormalizedDriftRule) : Prop :=
  r.change ≠ .changed → r.property = none ∧ r.expected = none

/-- Rules have their own ids, and those with one selector agree in what they expect. -/
structure NormalizedDriftPolicy.Normalized (p : NormalizedDriftPolicy) : Prop where
  ids : (p.rules.map NormalizedDriftRule.id).Nodup
  shaped : ∀ r ∈ p.rules, r.Shaped
  unambiguous : ∀ r ∈ p.rules, ∀ r' ∈ p.rules, r.selectorKey = r'.selectorKey →
    r.expectationProjection = r'.expectationProjection

section Rules
variable {r r' : NormalizedDriftRule}

lemma normalize_value (v : ComparablePropertyValue) : v.toDict.normalize = v.toDict := by
  cases v with
  | missing => rfl
  | present v =>
    have hkeys : SortedBy id ["has_value", "value"] := by decide
    exact Json.normalize_obj_self hkeys (by simp [v.canonical])

lemma value_toDict_inj {v w : ComparablePropertyValue} (h : v.toDict = w.toDict) : v = w := by
  cases v <;> cases w <;> simp [ComparablePropertyValue.toDict] at h ⊢
  exact CanonicalValue.ext h

lemma Expected.normalize_toDict (e : Expected) : e.toDict.normalize = e.toDict := by
  have hboth : SortedBy id ["baseline", "candidate"] := by decide
  have hone : ∀ side : String, SortedBy id [side] := fun side => List.pairwise_singleton _ _
  obtain ⟨baseline, candidate⟩ := e
  cases baseline with
  | none =>
    cases candidate with
    | none => rfl
    | some c => exact Json.normalize_obj_self (hone "candidate") (by simp [normalize_value])
  | some b =>
    cases candidate with
    | none => exact Json.normalize_obj_self (hone "baseline") (by simp [normalize_value])
    | some c => exact Json.normalize_obj_self hboth (by simp [normalize_value])

lemma Expected.toDict_inj {e e' : Expected} (h : e.toDict = e'.toDict) : e = e' := by
  obtain ⟨b, c⟩ := e
  obtain ⟨b', c'⟩ := e'
  cases b <;> cases c <;> cases b' <;> cases c' <;> simp [Expected.toDict] at h ⊢
  · exact value_toDict_inj h
  · exact value_toDict_inj h
  · exact ⟨value_toDict_inj h.1, value_toDict_inj h.2⟩

lemma canonicalJson_obj_ne_presenceOnly (members : List (String × Json)) :
    (Json.obj members).canonicalJson ≠ presenceOnly := by
  intro h
  have htext := congrArg String.toList h
  rw [Json.canonicalJson, String.toList_ofList, Json.normalize_obj_eq] at htext
  cases hmembers : Json.sortedMembers members with
  | nil =>
    rw [hmembers, Json.encode] at htext
    exact absurd htext (by decide)
  | cons m rest =>
    obtain ⟨key, j⟩ := m
    rw [hmembers, Json.encode] at htext
    exact absurd (List.cons.inj htext).1 (by decide)

/-- Rules agree in what they expect exactly when their expectations are the same. -/
theorem expectationProjection_inj :
    r.expectationProjection = r'.expectationProjection ↔ r.expected = r'.expected := by
  constructor
  · intro h
    rw [NormalizedDriftRule.expectationProjection, NormalizedDriftRule.expectationProjection] at h
    cases hr : r.expected with
    | none =>
      cases hr' : r'.expected with
      | none => rfl
      | some e' =>
        rw [hr, hr'] at h
        exact absurd h.symm (canonicalJson_obj_ne_presenceOnly _)
    | some e =>
      cases hr' : r'.expected with
      | none =>
        rw [hr, hr'] at h
        exact absurd h (canonicalJson_obj_ne_presenceOnly _)
      | some e' =>
        rw [hr, hr'] at h
        have hnormal := Json.canonicalJson_inj.mp h
        rw [e.normalize_toDict, e'.normalize_toDict] at hnormal
        rw [Expected.toDict_inj hnormal]
  · intro h
    rw [NormalizedDriftRule.expectationProjection, NormalizedDriftRule.expectationProjection, h]

lemma expectationProjection_eq_presenceOnly : r.expectationProjection = presenceOnly ↔ r.expected = none := by
  rw [NormalizedDriftRule.expectationProjection]
  cases r.expected with
  | none => simp
  | some e => exact iff_of_false (canonicalJson_obj_ne_presenceOnly _) (Option.some_ne_none _)

end Rules

section Parse

lemma normalizeExpected_none {raw : Json} {change : ChangeKind} {i : ComparisonObjectIdentity}
    {property : Option String} {path : String} {expected : Option Expected} (hchange : change ≠ .changed)
    (h : normalizeExpected raw change i property path = .ok expected) : expected = none := by
  cases raw with
  | null =>
    cases h
    rfl
  | _ => cases change <;> first | exact absurd rfl hchange | cases h

lemma normalizeProperty_none {matchRaw : List (String × Json)} {change : ChangeKind}
    {kind : GovernedObjectKind} {path : String} {property : Option String} (hchange : change ≠ .changed)
    (h : normalizeProperty matchRaw change kind path = .ok property) : property = none := by
  rw [normalizeProperty] at h
  cases hlookup : Json.lookup matchRaw "property" with
  | some raw =>
    rw [hlookup] at h
    obtain ⟨⟨⟩, hrequire, -⟩ := bind_eq_ok.mp h
    rw [require_eq_ok, decide_eq_true_eq] at hrequire
    exact absurd hrequire hchange
  | none =>
    rw [hlookup] at h
    obtain ⟨⟨⟩, -, h⟩ := bind_eq_ok.mp h
    cases h
    rfl

theorem normalizeRule_shaped {raw : Json} {path : String} {r : NormalizedDriftRule}
    (h : normalizeRule raw path = .ok r) : r.Shaped := by
  intro hchange
  rw [normalizeRule.eq_def] at h
  split at h
  case h_2 => cases h
  obtain ⟨⟨⟩, -, h⟩ := bind_eq_ok.mp h
  split at h
  case h_2 => cases h
  obtain ⟨⟨⟩, -, h⟩ := bind_eq_ok.mp h
  split at h
  case h_2 => cases h
  obtain ⟨⟨⟩, -, h⟩ := bind_eq_ok.mp h
  split at h
  case h_2 => cases h
  obtain ⟨i, -, h⟩ := bind_eq_ok.mp h
  obtain ⟨⟨⟩, -, h⟩ := bind_eq_ok.mp h
  obtain ⟨property, hproperty, h⟩ := bind_eq_ok.mp h
  obtain ⟨expected, hexpected, h⟩ := bind_eq_ok.mp h
  cases h
  exact ⟨normalizeProperty_none hchange hproperty, normalizeExpected_none hchange hexpected⟩

/-- The rules that are read keep their own ids. -/
lemma normalizeRules_sound {before : List NormalizedDriftRule} (index : Nat) (raws : List Json)
    (hids : (before.map NormalizedDriftRule.id).Nodup) (hshaped : ∀ r ∈ before, r.Shaped) :
    ((normalizeRules index before raws).1.map NormalizedDriftRule.id).Nodup ∧
      ∀ r ∈ (normalizeRules index before raws).1, r.Shaped := by
  induction raws generalizing index before with
  | nil => exact ⟨hids, hshaped⟩
  | cons raw rest ih =>
    rw [normalizeRules]
    cases hrule : normalizeRule raw ("/rules/" ++ toString index) with
    | error errors => exact ih (index + 1) hids hshaped
    | ok rule =>
      dsimp only
      split_ifs with hmem
      · exact ih (index + 1) hids hshaped
      · refine ih (index + 1) ?_ ?_
        · rw [List.map_append, List.map_singleton]
          exact List.nodup_append.mpr ⟨hids, List.nodup_singleton _, by
            rintro x hx y hy rfl
            exact hmem (List.mem_singleton.mp hy ▸ hx)⟩
        · intro r hr
          rcases List.mem_append.mp hr with hr | hr
          · exact hshaped r hr
          · exact List.mem_singleton.mp hr ▸ normalizeRule_shaped hrule

/-- Rules that can be read, each under an id of its own, are all read. -/
theorem normalizeRules_complete {before rules : List NormalizedDriftRule} (index : Nat) {raws : List Json}
    (h : List.Forall₂ (fun raw rule => ∀ path, normalizeRule raw path = .ok rule) raws rules)
    (hids : ((before ++ rules).map NormalizedDriftRule.id).Nodup) :
    normalizeRules index before raws = (before ++ rules, []) := by
  induction h generalizing index before with
  | nil => rw [normalizeRules, List.append_nil]
  | @cons raw rule raws rules hrule hrest ih =>
    have hnew : rule.id ∉ before.map NormalizedDriftRule.id := by
      rw [List.map_append, List.map_cons] at hids
      intro hmem
      exact (List.nodup_append.mp hids).2.2 _ hmem _ (List.mem_cons_self ..) rfl
    have hids' : (((before ++ [rule]) ++ rules).map NormalizedDriftRule.id).Nodup := by
      rwa [List.append_assoc]
    rw [normalizeRules, hrule]
    dsimp only
    rw [if_neg hnew, ih (index + 1) hids', List.append_assoc]
    rfl

theorem validateSelectorAmbiguity_eq_ok {p : NormalizedDriftPolicy} : validateSelectorAmbiguity p = .ok () ↔
    ∀ r ∈ p.rules, ∀ r' ∈ p.rules, r.selectorKey = r'.selectorKey →
      r.expectationProjection = r'.expectationProjection := by
  rw [validateSelectorAmbiguity, raiseIfAny_eq_ok, List.map_eq_nil_iff, List.filter_eq_nil_iff]
  have hgroup : ∀ e ∈ (groupBy NormalizedDriftRule.selectorKey p.rules).entries,
      e.2.members = p.rules.filter (fun r => r.selectorKey = e.1) := fun e he => mem_entries_groupBy he
  simp only [decide_eq_true_eq, not_lt, length_distinct_le_one]
  constructor
  · intro h r hr r' hr' hkey
    obtain ⟨e, he, hek⟩ := List.mem_map.mp
      (mem_keys_groupBy.mpr ⟨r, hr, rfl⟩ : r.selectorKey ∈ (groupBy NormalizedDriftRule.selectorKey p.rules).keys)
    have hmem : ∀ x ∈ p.rules, x.selectorKey = r.selectorKey → x ∈ e.2.members := by
      intro x hx hxk
      rw [hgroup e he, List.mem_filter]
      exact ⟨hx, decide_eq_true (hxk.trans hek.symm)⟩
    exact h e he _ (List.mem_map_of_mem (hmem r hr rfl)) _ (List.mem_map_of_mem (hmem r' hr' hkey.symm))
  · intro h e he a ha b hb
    rw [hgroup e he] at ha hb
    obtain ⟨r, hr, rfl⟩ := List.mem_map.mp ha
    obtain ⟨r', hr', rfl⟩ := List.mem_map.mp hb
    obtain ⟨hr, hkey⟩ := List.mem_filter.mp hr
    obtain ⟨hr', hkey'⟩ := List.mem_filter.mp hr'
    exact h r hr r' hr' ((of_decide_eq_true hkey).trans (of_decide_eq_true hkey').symm)

/-- Every policy that is parsed is normalized. -/
theorem normalized_of_parse {iterErrors : Json → List JsonSchema.Failure} {document : Json}
    {p : NormalizedDriftPolicy} (h : parseAndNormalizePolicy iterErrors document = .ok p) : p.Normalized := by
  rw [parseAndNormalizePolicy.eq_def] at h
  split at h
  case h_2 => cases h
  obtain ⟨⟨⟩, -, h⟩ := bind_eq_ok.mp h
  obtain ⟨⟨⟩, -, h⟩ := bind_eq_ok.mp h
  dsimp only at h
  split at h
  case h_2 => cases h
  rename_i rulesRaw _
  obtain ⟨⟨⟩, -, h⟩ := bind_eq_ok.mp h
  obtain ⟨⟨⟩, hambiguity, h⟩ := bind_eq_ok.mp h
  cases h
  obtain ⟨hids, hshaped⟩ := @normalizeRules_sound [] 0 rulesRaw List.nodup_nil (by intro r hr; cases hr)
  exact ⟨hids, hshaped, validateSelectorAmbiguity_eq_ok.mp hambiguity⟩

end Parse
end CollibraGovernance.Drift
