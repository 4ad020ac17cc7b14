import CollibraGovernance.History.Evolution
import CollibraGovernance.Observations.RoundTrip

/-! An evolution is a chain of transitions whose sides are what the two entries hold. -/
namespace CollibraGovernance.History
open Library Identity Domain Comparison Snapshots

/-- The dimensions of the context of a property. -/
inductive Dimension where
  | provenance | conflict | authorityDecision | effectiveValue

/-- Whether an entry of this context form carries the dimension. -/
def HistoryContext.HasDimension (context : HistoryContext) (d : Dimension) : Prop :=
  match context with
  | .absent => False
  | .provenance _ => d = .provenance
  | .full _ _ _ => True

/-- The projection of a dimension of a property of an object, in one entry. -/
def Dimension.projection (d : Dimension) (s : ResolvedEntryState) (i : GraphNodeIdentity) (p : PropertyPath) : Json :=
  match d with
  | provenance => provenanceProjection i p s.observations
  | conflict => conflictStateProjection (findConflictResult i p s.conflicts)
  | authorityDecision => authorityDecisionProjection (findConflictResult i p s.conflicts)
  | effectiveValue => effectiveValueProjection (findConflictResult i p s.conflicts)

def ContextPropertyChange.block (c : ContextPropertyChange) : Dimension → DimensionBlock
  | .provenance => c.provenance
  | .conflict => c.conflict
  | .authorityDecision => c.authorityDecision
  | .effectiveValue => c.effectiveValue

/-- The transition reports a change of a dimension of a property, from one projection to another. -/
def Transition.Reports (t : Transition) (d : Dimension) (p : PropertyPath) (before after : Json) : Prop :=
  ∃ c ∈ t.contextPropertyChanges, c.property = p.toPointer ∧ (c.block d).change = some (before, after)

/-- A transition starts where another one ends. -/
structure Continues (t t' : Transition) : Prop where
  index : t'.fromIndex = t.toIndex
  entryState : t'.fromEntryStateIdentity = t.toEntryStateIdentity
  snapshot : t'.fromSnapshotIdentity = t.toSnapshotIdentity

/-- The sides of a property change are those that lookups in the two projected snapshots give. -/
def LookedUp (baseline candidate : ResolvedEntryState) (i : ComparisonObjectIdentity) (c : PropertyChange) : Prop :=
  c.baseline = snapshotPropertyState baseline.projected i c.property ∧
    c.candidate = snapshotPropertyState candidate.projected i c.property

/-- A transition that leads from the entry at `n` to the next one, and tells what these hold. -/
structure Leads (sha256 : String → String) (query : EvolutionQuery) (n : Nat) (baseline candidate : ResolvedEntryState)
    (t : Transition) : Prop where
  fromIndex : t.fromIndex = n
  toIndex : t.toIndex = n + 1
  fromEntryState : t.fromEntryStateIdentity = baseline.entry.state.entryStateIdentity sha256
  toEntryState : t.toEntryStateIdentity = candidate.entry.state.entryStateIdentity sha256
  fromSnapshot : t.fromSnapshotIdentity = baseline.entry.state.snapshot
  toSnapshot : t.toSnapshotIdentity = candidate.entry.state.snapshot
  object : ∀ c, t.snapshot.objectChange = some c → query.object = some c.objectIdentity ∧
    ∀ p ∈ c.propertyChanges, LookedUp baseline candidate c.objectIdentity p
  property : ∀ p, t.snapshot.property = some p → query.property = some p.property ∧
    ∃ i, query.object = some i ∧ LookedUp baseline candidate i p
  dimensions : ∀ i, query.governanceObject = some i → ∀ d p before after,
    (query.property = none ∨ query.property = some p.toPointer) →
    (t.Reports d p before after ↔ baseline.entry.state.context.HasDimension d ∧
      candidate.entry.state.context.HasDimension d ∧ before = d.projection baseline i p ∧
      after = d.projection candidate i p ∧ before.normalize ≠ after.normalize)

section Sides
variable {baseline candidate : ResolvedEntryState} {comparison : ComparisonResult} {i : ComparisonObjectIdentity}

lemma snapshotPropertyState_of_get? {projected : ProjectedSnapshot} {o : ComparableObject}
    (h : projected.objects.get? i = some o) (property : String) :
    snapshotPropertyState projected i property = valueOf o.properties property := by
  rw [snapshotPropertyState, h]
  rfl

lemma snapshotPropertyState_of_notMem {projected : ProjectedSnapshot} (h : i ∉ projected.objects.keys)
    (property : String) : snapshotPropertyState projected i property = .missing := by
  rw [snapshotPropertyState, Dict.get?_eq_none.mpr h]

/-- The comparison of two states lists what their projected objects differ in. -/
def ComparesStates (baseline candidate : ResolvedEntryState) (comparison : ComparisonResult) : Prop :=
  comparison.objectChanges =
    (compareProjected baseline.projected.objects candidate.projected.objects).objectChanges

theorem comparesStates_of_ok {sha256 : String → String} {isPrintable : Char → Bool} {ack : RootAlignmentAck}
    (hbaseline : Resolves sha256 isPrintable baseline) (hcandidate : Resolves sha256 isPrintable candidate)
    (h : buildComparisonResult sha256 isPrintable baseline.snapshot candidate.snapshot ack = .ok comparison) :
    ComparesStates baseline candidate comparison := by
  obtain ⟨p, q, hcompared⟩ := buildComparisonResult_eq_ok.mp h
  have hp : p = baseline.projected := by
    have hsame := hcompared.baseline.symm.trans hbaseline.projected
    cases hsame
    rfl
  obtain ⟨q', hq', hsame⟩ := projectSnapshot_side "candidate" hcandidate.projected
  have hq : q = q' := by
    have hboth := hcompared.candidate.symm.trans hq'
    cases hboth
    rfl
  subst hq
  rw [ComparesStates, hcompared.result, hp]
  exact congrArg ComparisonDiff.objectChanges
    (compareProjected_congr (fun i => by
      cases baseline.projected.objects.get? i with
      | none => exact .none
      | some o => exact .some ⟨rfl, rfl, fun _ => rfl⟩) hsame)

/-- What a listed change says of the two sides. -/
lemma objectChange_cases {c : ObjectChange} (h : ComparesStates baseline candidate comparison)
    (hc : c ∈ comparison.objectChanges) :
    (c.change = .added ∧ c.propertyChanges = [] ∧ c.objectIdentity ∉ baseline.projected.objects.keys) ∨
    (c.change = .removed ∧ c.propertyChanges = [] ∧ c.objectIdentity ∉ candidate.projected.objects.keys) ∨
    (c.change = .changed ∧ ∀ p ∈ c.propertyChanges, LookedUp baseline candidate c.objectIdentity p) := by
  rw [h, objectChanges_eq, mem_sortBy, unsortedChanges, List.mem_append, List.mem_append] at hc
  rcases hc with (hc | hc) | hc
  · obtain ⟨hnot, o, -, heq⟩ := mem_lackingChanges.mp hc
    exact .inl ⟨by rw [heq], by rw [heq], hnot⟩
  · obtain ⟨hnot, o, -, heq⟩ := mem_lackingChanges.mp hc
    exact .inr (.inl ⟨by rw [heq], by rw [heq], hnot⟩)
  · obtain ⟨left, right, hleft, hright, heq⟩ := mem_matchedChanges.mp (List.mem_filter.mp hc).1
    refine .inr (.inr ⟨by rw [heq], ?_⟩)
    intro p hp
    rw [heq] at hp
    obtain ⟨hbaseline, hcandidate, -⟩ := mem_diffProperties.mp hp
    exact ⟨hbaseline.trans (snapshotPropertyState_of_get? hleft _).symm,
      hcandidate.trans (snapshotPropertyState_of_get? hright _).symm⟩

lemma findObjectChange_some {c : ObjectChange} (h : findObjectChange comparison i = some c) :
    c ∈ comparison.objectChanges ∧ c.objectIdentity = i :=
  ⟨List.mem_of_find?_eq_some h, by simpa using List.find?_some h⟩

/-- Wherever they are taken from, the sides are those that lookups give. -/
lemma propertySides_eq (h : ComparesStates baseline candidate comparison) (property : String) :
    propertySides baseline candidate (findObjectChange comparison i) i property =
      (snapshotPropertyState baseline.projected i property, snapshotPropertyState candidate.projected i property) := by
  cases hfound : findObjectChange comparison i with
  | none => rfl
  | some c =>
    obtain ⟨hc, rfl⟩ := findObjectChange_some hfound
    rcases objectChange_cases h hc with ⟨hkind, -, hnot⟩ | ⟨hkind, -, hnot⟩ | ⟨hkind, hlooked⟩
    · simp only [propertySides, hkind, snapshotPropertyState_of_notMem hnot]
    · simp only [propertySides, hkind, snapshotPropertyState_of_notMem hnot]
    · simp only [propertySides, hkind]
      cases hlisted : c.propertyChanges.find? (fun p => p.property = property) with
      | none => rfl
      | some p =>
        have hproperty : p.property = property := by simpa using List.find?_some hlisted
        obtain ⟨hbaseline, hcandidate⟩ := hlooked p (List.mem_of_find?_eq_some hlisted)
        rw [hproperty] at hbaseline hcandidate
        simp only [hbaseline, hcandidate]

lemma branch_object (h : ComparesStates baseline candidate comparison) {query : EvolutionQuery} {c : ObjectChange}
    (hc : (buildSnapshotBranch baseline candidate comparison query.object query.property).objectChange = some c) :
    query.object = some c.objectIdentity ∧
      ∀ p ∈ c.propertyChanges, LookedUp baseline candidate c.objectIdentity p := by
  cases hobject : query.object with
  | none =>
    rw [hobject] at hc
    cases hc
  | some i =>
    rw [hobject] at hc
    obtain ⟨hmem, hidentity⟩ := findObjectChange_some hc
    refine ⟨congrArg some hidentity.symm, ?_⟩
    intro p hp
    rcases objectChange_cases h hmem with ⟨-, hempty, -⟩ | ⟨-, hempty, -⟩ | ⟨-, hlooked⟩
    · rw [hempty] at hp
      cases hp
    · rw [hempty] at hp
      cases hp
    · exact hlooked p hp

lemma branch_property (h : ComparesStates baseline candidate comparison) {query : EvolutionQuery} {p : PropertyChange}
    (hp : (buildSnapshotBranch baseline candidate comparison query.object query.property).property = some p) :
    query.property = some p.property ∧ ∃ i, query.object = some i ∧ LookedUp baseline candidate i p := by
  cases hobject : query.object with
  | none =>
    rw [hobject] at hp
    cases hp
  | some i =>
    rw [hobject] at hp
    obtain ⟨property, hproperty, hp⟩ := Option.bind_eq_some_iff.mp hp
    split_ifs at hp
    · rw [propertySides_eq h] at hp
      cases hp
      exact ⟨hproperty, i, rfl, rfl, rfl⟩

end Sides

section Context
variable {baseline candidate : ResolvedEntryState} {i : GraphNodeIdentity}

lemma dimensionBlock_change {baselineAvailable candidateAvailable : Bool} {b c before after : Json} :
    (dimensionBlock baselineAvailable candidateAvailable (whenAvailable baselineAvailable b)
      (whenAvailable candidateAvailable c)).change = some (before, after) ↔
      baselineAvailable = true ∧ candidateAvailable = true ∧ before = b ∧ after = c ∧
        before.normalize ≠ after.normalize := by
  have hdiffer : canonicalValueFingerprint (canonicalizeJsonValue b) =
      canonicalValueFingerprint (canonicalizeJsonValue c) ↔ b.normalize = c.normalize := by
    rw [canonicalValueFingerprint_inj.eq_iff]
    exact ⟨congrArg CanonicalValue.val, fun h => CanonicalValue.ext h⟩
  cases baselineAvailable <;> cases candidateAvailable <;> simp [dimensionBlock, whenAvailable]
  rw [hdiffer]
  constructor
  · rintro ⟨hne, rfl, rfl⟩
    exact ⟨rfl, rfl, hne⟩
  · rintro ⟨rfl, rfl, hne⟩
    exact ⟨hne, rfl, rfl⟩

/-- The block of a dimension reports a change exactly when both entries carry it and it differs. -/
theorem contextPropertyChange_block (d : Dimension) (pointer : String) (p : PropertyPath) {before after : Json} :
    ((contextPropertyChange baseline candidate i pointer p).block d).change = some (before, after) ↔
      baseline.entry.state.context.HasDimension d ∧ candidate.entry.state.context.HasDimension d ∧
        before = d.projection baseline i p ∧ after = d.projection candidate i p ∧
          before.normalize ≠ after.normalize := by
  cases d with
  | provenance =>
    refine dimensionBlock_change.trans ?_
    cases hb : baseline.entry.state.context <;> cases hc : candidate.entry.state.context <;>
      simp [availabilitySide, hb, hc, HistoryContext.HasDimension, Dimension.projection]
  | conflict =>
    refine dimensionBlock_change.trans ?_
    cases hb : baseline.entry.state.context <;> cases hc : candidate.entry.state.context <;>
      simp [availabilitySide, hb, hc, HistoryContext.HasDimension, Dimension.projection]
  | authorityDecision =>
    refine dimensionBlock_change.trans ?_
    cases hb : baseline.entry.state.context <;> cases hc : candidate.entry.state.context <;>
      simp [availabilitySide, hb, hc, HistoryContext.HasDimension, Dimension.projection]
  | effectiveValue =>
    refine dimensionBlock_change.trans ?_
    cases hb : baseline.entry.state.context <;> cases hc : candidate.entry.state.context <;>
      simp [availabilitySide, hb, hc, HistoryContext.HasDimension, Dimension.projection]

lemma materiallyChanged_of_block {c : ContextPropertyChange} {d : Dimension} {sides : Json × Json}
    (h : (c.block d).change = some sides) : c.materiallyChanged = true := by
  rw [ContextPropertyChange.materiallyChanged, List.any_eq_true]
  refine ⟨c.block d, ?_, by rw [h]; rfl⟩
  cases d <;> simp [ContextPropertyChange.block]

/-- Of a property that an entry knows nothing of, there is nothing to project. -/
lemma projection_of_unknown {s : ResolvedEntryState} {p : PropertyPath}
    (h : p.toPointer ∉ pathsForGovernanceObject s i) :
    observationsFor i p s.observations = [] ∧ findConflictResult i p s.conflicts = none := by
  rw [pathsForGovernanceObject, List.mem_append, not_or] at h
  constructor
  · cases hset : s.observations with
    | none => rfl
    | some set =>
      rw [observationsFor, List.eq_nil_iff_forall_not_mem]
      intro o ho
      obtain ⟨ho, hmatches⟩ := List.mem_filter.mp (mem_sortBy.mp ho)
      obtain ⟨hi, hp⟩ := of_decide_eq_true hmatches
      rw [hset] at h
      exact h.1 (List.mem_map.mpr ⟨o, List.mem_filter.mpr ⟨ho, decide_eq_true hi⟩, by rw [hp]⟩)
  · cases hreport : s.conflicts with
    | none => rfl
    | some report =>
      rw [findConflictResult, Option.bind_some, List.find?_eq_none]
      intro r hr hmatches
      obtain ⟨hi, hp⟩ := of_decide_eq_true hmatches
      rw [hreport] at h
      exact h.2 (List.mem_map.mpr ⟨r, List.mem_filter.mpr ⟨hr, decide_eq_true hi⟩, by rw [hp]⟩)

lemma projections_agree_of_unknown {p : PropertyPath} (d : Dimension)
    (hb : p.toPointer ∉ pathsForGovernanceObject baseline i)
    (hc : p.toPointer ∉ pathsForGovernanceObject candidate i) :
    d.projection baseline i p = d.projection candidate i p := by
  obtain ⟨hbObserved, hbResult⟩ := projection_of_unknown hb
  obtain ⟨hcObserved, hcResult⟩ := projection_of_unknown hc
  cases d <;>
    simp only [Dimension.projection, provenanceProjection, hbObserved, hcObserved, hbResult, hcResult]

lemma pathsForGovernanceObject_pointer {s : ResolvedEntryState} {pointer : String}
    (h : pointer ∈ pathsForGovernanceObject s i) : ∃ p : PropertyPath, p.toPointer = pointer := by
  rw [pathsForGovernanceObject, List.mem_append] at h
  rcases h with h | h
  · cases hset : s.observations with
    | none => simp [hset] at h
    | some set =>
      rw [hset] at h
      obtain ⟨o, -, ho⟩ := List.mem_map.mp h
      exact ⟨o.propertyPath, ho⟩
  · cases hreport : s.conflicts with
    | none => simp [hreport] at h
    | some report =>
      rw [hreport] at h
      obtain ⟨r, -, hr⟩ := List.mem_map.mp h
      exact ⟨r.propertyPath, hr⟩

lemma mem_contextPointers {property : Option String} {pointer : String} :
    pointer ∈ contextPointers baseline candidate i property ↔ property = some pointer ∨
      (property = none ∧ (pointer ∈ pathsForGovernanceObject baseline i ∨
        pointer ∈ pathsForGovernanceObject candidate i)) := by
  cases property with
  | none => simp [contextPointers, mem_sortBy]
  | some q => simp [contextPointers, eq_comm]

/-- The entries of a list of context changes: one for each pointer that is looked at. -/
lemma mem_contextPropertyChanges {property : Option String} {changes : List ContextPropertyChange}
    (hcanonical : ∀ pointer, property = some pointer → ∃ p : PropertyPath, p.toPointer = pointer)
    (h : buildContextPropertyChanges baseline candidate (some i) property = .ok changes)
    {c : ContextPropertyChange} : c ∈ changes ↔
      ∃ p : PropertyPath, p.toPointer ∈ contextPointers baseline candidate i property ∧
        c = contextPropertyChange baseline candidate i p.toPointer p ∧
        (property.isSome || c.materiallyChanged) = true := by
  obtain ⟨entries, hentries, h⟩ := bind_eq_ok.mp h
  cases pure_eq_ok.mp h
  obtain ⟨hback, hforth⟩ := mapM_mem hentries
  rw [List.mem_filter]
  have hwritten : ∀ pointer ∈ contextPointers baseline candidate i property,
      ∃ p : PropertyPath, p.toPointer = pointer := by
    intro pointer hpointer
    rcases mem_contextPointers.mp hpointer with hq | ⟨-, hpath | hpath⟩
    · exact hcanonical pointer hq
    · exact pathsForGovernanceObject_pointer hpath
    · exact pathsForGovernanceObject_pointer hpath
  constructor
  · rintro ⟨hc, hkept⟩
    obtain ⟨pointer, hpointer, hmade⟩ := hback c hc
    obtain ⟨p, rfl⟩ := hwritten pointer hpointer
    obtain ⟨p', hp', hmade⟩ := bind_eq_ok.mp hmade
    rw [PropertyPath.parse_toPointer] at hp'
    cases hp'
    exact ⟨p, hpointer, (pure_eq_ok.mp hmade).symm, hkept⟩
  · rintro ⟨p, hpointer, rfl, hkept⟩
    obtain ⟨c, hc, hmade⟩ := hforth _ hpointer
    obtain ⟨p', hp', hmade⟩ := bind_eq_ok.mp hmade
    rw [PropertyPath.parse_toPointer] at hp'
    cases hp'
    obtain rfl := pure_eq_ok.mp hmade
    exact ⟨hc, hkept⟩

/-- A change is reported exactly where both entries carry the dimension and its projections differ. -/
theorem contextPropertyChanges_report {property : Option String} {changes : List ContextPropertyChange}
    (hcanonical : ∀ pointer, property = some pointer → ∃ p : PropertyPath, p.toPointer = pointer)
    (h : buildContextPropertyChanges baseline candidate (some i) property = .ok changes) (d : Dimension)
    (p : PropertyPath) (before after : Json) (hasked : property = none ∨ property = some p.toPointer) :
    (∃ c ∈ changes, c.property = p.toPointer ∧ (c.block d).change = some (before, after)) ↔
      baseline.entry.state.context.HasDimension d ∧ candidate.entry.state.context.HasDimension d ∧
        before = d.projection baseline i p ∧ after = d.projection candidate i p ∧
          before.normalize ≠ after.normalize := by
  constructor
  · rintro ⟨c, hc, hproperty, hchange⟩
    obtain ⟨p', -, rfl, -⟩ := (mem_contextPropertyChanges hcanonical h).mp hc
    cases PropertyPath.toPointer_inj hproperty
    exact (contextPropertyChange_block d _ p).mp hchange
  · rintro ⟨hb, hc, rfl, rfl, hne⟩
    have hchange := (contextPropertyChange_block (i := i) d p.toPointer p).mpr ⟨hb, hc, rfl, rfl, hne⟩
    refine ⟨_, (mem_contextPropertyChanges hcanonical h).mpr ⟨p, ?_, rfl, ?_⟩, rfl, hchange⟩
    · rw [mem_contextPointers]
      rcases hasked with hasked | hasked
      · refine .inr ⟨hasked, ?_⟩
        by_contra hunknown
        rw [not_or] at hunknown
        exact hne (congrArg Json.normalize (projections_agree_of_unknown d hunknown.1 hunknown.2))
      · exact .inl hasked
    · rw [materiallyChanged_of_block hchange, Bool.or_true]

end Context

section Chain
variable {sha256 : String → String} {isPrintable : Char → Bool} {artifacts : Artifacts}
  {history : GovernanceHistory} {resolved : ResolvedHistory} {query : EvolutionQuery}
  {validator : SchemaValidator} {evolution : HistoryEvolution}

/-- An accepted query names its property canonically. -/
lemma checkQuery_canonical (h : checkQuery resolved query = .ok ()) :
    ∀ pointer, query.property = some pointer → ∃ p : PropertyPath, p.toPointer = pointer := by
  intro pointer hproperty
  obtain ⟨-, -, h⟩ := bind_eq_ok.mp h
  obtain ⟨p, hp, -⟩ := bind_eq_ok.mp h
  rw [hproperty] at hp
  obtain ⟨p, -, hp⟩ := bind_eq_ok.mp hp
  obtain ⟨_, hcanonical, -⟩ := bind_eq_ok.mp hp
  unfold require at hcanonical
  split_ifs at hcanonical with heq
  · exact ⟨p, of_decide_eq_true heq⟩
  · cases hcanonical

lemma stateAt_eq_ok {n : Nat} {s : ResolvedEntryState} : stateAt resolved n = .ok s ↔ resolved.states[n]? = some s := by
  rw [stateAt]
  cases resolved.states[n]? <;> simp

/-- One transition, from what it is built of. -/
lemma buildTransition_leads {n : Nat} {baseline candidate : ResolvedEntryState} {comparison : ComparisonResult}
    {t : Transition} (hquery : checkQuery resolved query = .ok ())
    (hcompares : ComparesStates baseline candidate comparison)
    (h : buildTransition sha256 n (n + 1) baseline candidate comparison query = .ok t) :
    Leads sha256 query n baseline candidate t := by
  obtain ⟨changes, hchanges, h⟩ := bind_eq_ok.mp h
  cases pure_eq_ok.mp h
  refine ⟨rfl, rfl, rfl, rfl, rfl, rfl, fun c hc => branch_object hcompares hc,
    fun p hp => branch_property hcompares hp, ?_⟩
  intro i hi d p before after hasked
  rw [hi] at hchanges
  exact contextPropertyChanges_report (checkQuery_canonical hquery) hchanges d p before after hasked

/-- The evolution of a resolved history is a chain through all its entries, and each transition
tells what the two entries hold. -/
theorem evolution_continuous (hresolved : resolveHistoryArtifacts sha256 isPrintable artifacts history = .ok resolved)
    (hevolution : buildHistoryEvolution sha256 validator resolved query = .ok evolution) :
    evolution.transitions.length = history.entries.length - 1 ∧
      evolution.transitions.IsChain Continues ∧
      (∀ s ∈ resolved.states, Resolves sha256 isPrintable s) ∧
      resolved.states.map ResolvedEntryState.entry = history.entries ∧
      ∀ n t, evolution.transitions[n]? = some t → ∃ baseline candidate,
        resolved.states[n]? = some baseline ∧ resolved.states[n + 1]? = some candidate ∧
          Leads sha256 query n baseline candidate t := by
  have hfrom := resolveHistoryArtifacts_spec hresolved
  obtain ⟨⟨⟩, hquery, h⟩ := bind_eq_ok.mp hevolution
  obtain ⟨transitions, htransitions, h⟩ := bind_eq_ok.mp h
  obtain ⟨⟨⟩, -, h⟩ := bind_eq_ok.mp h
  cases pure_eq_ok.mp h
  obtain ⟨hlength, hbuilt⟩ := mapM_zipIdx_get htransitions
  have hleads : ∀ n t, transitions[n]? = some t → ∃ baseline candidate, resolved.states[n]? = some baseline ∧
      resolved.states[n + 1]? = some candidate ∧ Leads sha256 query n baseline candidate t := by
    intro n t ht
    have hlt : n < resolved.comparisons.length := hlength ▸ (List.getElem?_eq_some_iff.mp ht).1
    have hcomparison := List.getElem?_eq_getElem hlt
    have hmade := hbuilt n _ t hcomparison ht
    obtain ⟨baseline, hbaseline, hmade⟩ := bind_eq_ok.mp hmade
    obtain ⟨candidate, hcandidate, hmade⟩ := bind_eq_ok.mp hmade
    rw [stateAt_eq_ok] at hbaseline hcandidate
    have hcompares := comparesStates_of_ok (hfrom.resolves _ (List.mem_of_getElem? hbaseline))
      (hfrom.resolves _ (List.mem_of_getElem? hcandidate))
      (hfrom.compared n _ _ _ hbaseline hcandidate hcomparison)
    exact ⟨baseline, candidate, hbaseline, hcandidate, buildTransition_leads hquery hcompares hmade⟩
  refine ⟨?_, ?_, hfrom.resolves, hfrom.entries, hleads⟩
  · have hstates := congrArg List.length hfrom.entries
    rw [List.length_map] at hstates
    exact hlength.trans (hfrom.length_comparisons.trans (by rw [hstates]))
  · rw [List.isChain_iff_getElem]
    intro n hn
    obtain ⟨_, middle, -, hmiddle, hto⟩ := hleads n _ (List.getElem?_eq_getElem (Nat.lt_of_succ_lt hn))
    obtain ⟨middle', _, hmiddle', -, hnext⟩ := hleads (n + 1) _ (List.getElem?_eq_getElem hn)
    cases Option.some.inj (hmiddle.symm.trans hmiddle')
    exact ⟨hnext.fromIndex.trans hto.toIndex.symm, hnext.fromEntryState.trans hto.toEntryState.symm,
      hnext.fromSnapshot.trans hto.toSnapshot.symm⟩

end Chain

section Shop
/-! A shop whose orders get another description, with what a scan and a catalogue have seen of it. -/

lemma noKeys_sorted : SortedBy ForeignKey.id [] := List.Pairwise.nil
lemma noRelationships_sorted : SortedBy Relationship.id [] := List.Pairwise.nil
lemma public_nonempty : "public" ≠ "" := by decide
lemma orders_nonempty : "orders" ≠ "" := by decide
lemma orders_last : customersTable.id ≤ "tbl:orders" := by decide
lemma description_nonempty : ["description"] ≠ [] := by decide
lemma catalogue_nonblank : isBlank "catalogue" = false := by decide

def describedShop (description : String) : GovernanceSnapshot :=
  shopSnapshot (shopModel { ordersTable [] noKeys_sorted with description := .str description }
    (List.pairwise_pair.mpr orders_last) [] noRelationships_sorted)

def catalogueEntry : ProvenanceRecord :=
  ⟨.of "catalogue" catalogue_nonblank, .of "catalogue" catalogue_nonblank, none, .declared⟩

lemma scan_seen : [Observations.ordersScan] ≠ [] := List.cons_ne_nil _ _
lemma both_seen : [catalogueEntry, Observations.ordersScan] ≠ [] := List.cons_ne_nil _ _

/-- The description of the orders, and who has seen it. -/
def described (description : String) (records : List ProvenanceRecord) (h : records ≠ []) : PropertyObservationSet :=
  .fromObservations [⟨Observations.ordersNode, ⟨["description"], description_nonempty⟩,
    canonicalizeJsonValue (.str description), mergeProvenance records, PropertyObservation.mergeProvenance_ne_nil h,
    mergeProvenance_idem _⟩]

/-- The catalogue decides about the descriptions of tables. -/
def catalogueDecides : NormalizedAuthorityPolicySet :=
  .of [.of ⟨⟨.table, ⟨["description"], description_nonempty⟩, none⟩, ⟨.of "catalogue" catalogue_nonblank, none⟩⟩
    [⟨.of "catalogue" catalogue_nonblank, none⟩] (List.cons_ne_nil _ _)]

/-- The artifacts of three days: the description changes, and a day later the catalogue agrees. -/
def shopArtifacts : Artifacts where
  loadSnapshot path :=
    if path = "first.json" then .ok (describedShop "bought")
    else if path = "second.json" ∨ path = "third.json" then .ok (describedShop "sold")
    else .error ⟨"read_error", "/"⟩
  loadObservations path :=
    if path = "first.json" then .ok (described "bought" _ scan_seen)
    else if path = "second.json" then .ok (described "sold" _ scan_seen)
    else .ok (described "sold" _ both_seen)
  loadAuthority _ := .ok catalogueDecides

def shopEntry (path : String) : HistoryEntry :=
  let identity : ContentIdentity := ⟨algorithmName, hashingContractVersion, constantDigest ""⟩
  ⟨⟨identity, none, .full identity identity identity⟩, ⟨path, some path, some ["authority.json"]⟩⟩

def shopHistory : GovernanceHistory :=
  ⟨⟨false, false⟩, [shopEntry "first.json", shopEntry "second.json", shopEntry "third.json"]⟩

def schemaValidator (document : Json) : Option (List String × String) :=
  if evolutionSchemaAccepts document then none else some ([], "type")

def ordersQuery : EvolutionQuery :=
  ⟨some (.table ⟨"public", public_nonempty⟩ ⟨"orders", orders_nonempty⟩), some Observations.ordersNode, some "/description"⟩

/-- What a transition tells: of the snapshot whether the object and the queried property changed, and of the context
of each property whether its four dimensions did. -/
def told (t : Transition) : List Bool × List (String × List Bool) :=
  ([t.snapshot.objectChange.isSome, t.snapshot.property.any (fun p => p.baseline ≠ p.candidate)],
    t.contextPropertyChanges.map fun c => (c.property,
      [c.provenance, c.conflict, c.authorityDecision, c.effectiveValue].map fun block => block.change.isSome))

theorem orders_evolve : ∃ resolved evolution,
    resolveHistoryArtifacts constantDigest (fun _ => true) shopArtifacts shopHistory = .ok resolved ∧
      buildHistoryEvolution constantDigest schemaValidator resolved ordersQuery = .ok evolution ∧
      evolution.transitions.map told =
        [([true, true], [("/description", [true, false, false, true])]),
          ([false, false], [("/description", [true, true, false, false])])] ∧
      evolution.transitions.length = 2 ∧ evolution.transitions.IsChain Continues := by
  have htold : (resolveHistoryArtifacts constantDigest (fun _ => true) shopArtifacts shopHistory >>= fun r =>
      buildHistoryEvolution constantDigest schemaValidator r ordersQuery).toOption.map
        (fun evolution => evolution.transitions.map told) =
      some [([true, true], [("/description", [true, false, false, true])]),
        ([false, false], [("/description", [true, true, false, false])])] := by
    decide +kernel
  obtain ⟨evolution, hrun, htransitions⟩ := toOption_map_eq_some.mp htold
  obtain ⟨resolved, hresolved, hevolution⟩ := bind_eq_ok.mp hrun
  obtain ⟨hlength, hchain, -⟩ := evolution_continuous hresolved hevolution
  exact ⟨resolved, evolution, hresolved, hevolution, htransitions, hlength, hchain⟩

end Shop
end CollibraGovernance.History
