import CollibraGovernance.History.AppendSpec

/-! Resolving a history after an append: what was resolved before stays, and the new entry is resolved with it. -/
namespace CollibraGovernance.History
open Library Identity Domain Comparison Snapshots

/-! ### Lists that grow at their end -/

section Grow
variable {ε α β : Type}

/-- Steps that know their place, with one more at the end. -/
lemma mapM_zipIdx_concat {f : α × Nat → Except ε β} {xs : List α} {x : α} {ys : List β} :
    (xs ++ [x]).zipIdx.mapM f = .ok ys ↔
      ∃ init y, xs.zipIdx.mapM f = .ok init ∧ f (x, xs.length) = .ok y ∧ ys = init ++ [y] := by
  rw [List.zipIdx_append, Nat.zero_add, List.zipIdx_singleton, List.mapM_append, bind_eq_ok]
  constructor
  · rintro ⟨init, hinit, h⟩
    obtain ⟨last, hlast, h⟩ := bind_eq_ok.mp h
    obtain rfl := pure_eq_ok.mp h
    rw [List.mapM_cons, List.mapM_nil] at hlast
    obtain ⟨y, hy, hlast⟩ := bind_eq_ok.mp hlast
    obtain rfl := pure_eq_ok.mp hlast
    exact ⟨init, y, hinit, hy, rfl⟩
  · rintro ⟨init, y, hinit, hy, rfl⟩
    refine ⟨init, hinit, ?_⟩
    rw [List.mapM_cons, hy]
    rfl

/-- The adjacent pairs of a list, with one more at its end. -/
lemma adjacent_concat (xs : List α) (x : α) :
    (xs ++ [x]).zip (xs ++ [x]).tail = xs.zip xs.tail ++ (xs.getLast?.map fun last => (last, x)).toList := by
  induction xs with
  | nil => rfl
  | cons a xs ih =>
    cases xs with
    | nil => rfl
    | cons b xs =>
      rw [List.getLast?_cons_cons, List.cons_append, List.tail_cons, List.cons_append, List.zip_cons_cons]
      exact congrArg ((a, b) :: ·) ih

end Grow

section Resolve
variable {tables : UnicodeTables} {sha256 : String → String} {isPrintable : Char → Bool}
  {schemaErrors : Json → List JsonSchema.Failure} {artifacts : Artifacts} {file : Option Stored} {args : AppendArgs}
  {existing : Option (RecordedHistory × ResolvedHistory)} {snapshot : GovernanceSnapshot} {e : RecordedEntry}
  {updated : RecordedHistory}

lemma parseContentIdentity_self {c : ContentIdentity} (h : Complete c) (path : String) :
    parseContentIdentity c path = .ok c := if_neg h

/-- Observations that were opened are resolved by their identity. -/
lemma loadObservationsAt_opened {o : PropertyObservationSet} {path place : String}
    (h : openObservationsAt artifacts path place = .ok o) (entryPath : String) :
    loadObservationsAt sha256 artifacts path (o.contentIdentity sha256) entryPath = .ok o := by
  rw [loadObservationsAt, mapError_eq_ok.mp h]
  exact if_pos rfl

lemma loadAuthorityAt_opened {a : NormalizedAuthorityPolicySet} {paths : List String} {place : String}
    (h : openAuthorityAt artifacts paths place = .ok a) (entryPath : String) :
    loadAuthorityAt sha256 artifacts paths (a.contentIdentity sha256) entryPath = .ok a := by
  rw [loadAuthorityAt, mapError_eq_ok.mp h]
  exact if_pos rfl

/-- A locator that was opened is there. -/
lemma mapM_eq_some {α β : Type} {f : α → Checked β} {a : Option α} {b : β} (h : a.mapM f = .ok (some b)) :
    ∃ x, a = some x ∧ f x = .ok b := by
  cases a with
  | none => cases h
  | some x =>
    rw [Option.mapM_some] at h
    obtain ⟨y, hy, hsome⟩ := bind_eq_ok.mp h
    cases hsome
    exact ⟨x, rfl, hy⟩

lemma resolveObservations_opened {o : PropertyObservationSet} {path : Option String} {place : String}
    (hcomplete : Complete (o.contentIdentity sha256))
    (h : path.mapM (fun p => openObservationsAt artifacts p place) = .ok (some o)) (entryPath : String) :
    resolveObservations sha256 artifacts (o.contentIdentity sha256) path entryPath = .ok o := by
  obtain ⟨p, rfl, hopened⟩ := mapM_eq_some h
  rw [resolveObservations, parseContentIdentity_self hcomplete]
  exact loadObservationsAt_opened hopened entryPath

/-- The context of the new entry is resolved by the identities that were computed for it. -/
theorem resolveEntryContext_appended (hproper : e.Proper tables)
    (h : appendedContext sha256 artifacts e.operator = .ok e.state.context) (entryPath : String) :
    ∃ context, resolveEntryContext sha256 artifacts e.state e.operator entryPath = .ok context := by
  obtain ⟨observations, hobservations, h⟩ := bind_eq_ok.mp h
  obtain ⟨authority, hauthority, h⟩ := bind_eq_ok.mp h
  have hcoupled := hproper.coupled ""
  have hcomplete := hproper.state.context
  unfold validateOperatorContextCoupling at hcoupled
  unfold resolveEntryContext
  cases observations with
  | none =>
    cases authority with
    | none =>
      rw [← Except.ok.inj h]
      exact ⟨_, rfl⟩
    | some a => cases h
  | some o =>
    cases authority with
    | none =>
      have hcontext := Except.ok.inj h
      rw [← hcontext] at hcomplete ⊢
      dsimp only
      rw [resolveObservations_opened hcomplete hobservations]
      exact ⟨_, rfl⟩
    | some a =>
      have hcontext := Except.ok.inj h
      rw [← hcontext] at hcomplete hcoupled ⊢
      obtain ⟨paths, hpaths, hopened⟩ := mapM_eq_some hauthority
      dsimp only at hcoupled ⊢
      split_ifs at hcoupled with hnames
      · cases hcoupled
      · rw [hpaths, Option.getD_some, Bool.or_eq_true, not_or] at hnames
        rw [resolveObservations_opened hcomplete.1 hobservations, ok_bind, parseContentIdentity_self hcomplete.2.1, ok_bind,
          parseContentIdentity_self hcomplete.2.2, ok_bind, hpaths, Option.getD_some]
        cases paths with
        | nil => exact absurd rfl hnames.2
        | cons path paths =>
          dsimp only
          rw [loadAuthorityAt_opened hopened, ok_bind, if_pos rfl]
          exact ⟨_, rfl⟩

/-- The new entry is resolved exactly where its snapshot can be projected. -/
theorem resolveEntry_appended_iff (hproper : e.Proper tables)
    (hadded : Appends sha256 isPrintable artifacts args existing snapshot e)
    (n : Nat) : (∃ s, resolveEntry sha256 isPrintable artifacts (e.toHistoryEntry, n) = .ok s) ↔
      ∃ p, projectSnapshot isPrintable "baseline" snapshot = .ok p := by
  obtain ⟨context, hcontext⟩ :=
    resolveEntryContext_appended hproper hadded.context ("/entries/" ++ toString n)
  have hresolve : resolveEntry sha256 isPrintable artifacts (e.toHistoryEntry, n) =
      ((projectSnapshot isPrintable "baseline" snapshot).mapError
        fun failure => Failure.historyError (mapComparisonError failure n)) >>= fun projected =>
      .ok ⟨e.toHistoryEntry, snapshot, context.observations, context.authority, context.conflicts, projected⟩ := by
    unfold resolveEntry
    dsimp only
    rw [hadded.loaded, mapError_eq_ok.mpr rfl, ok_bind, if_pos hadded.identity.symm, hcontext]
    rfl
  rw [hresolve]
  constructor
  · rintro ⟨s, hs⟩
    obtain ⟨p, hp, -⟩ := bind_eq_ok.mp hs
    exact ⟨p, mapError_eq_ok.mp hp⟩
  · rintro ⟨p, hp⟩
    rw [hp]
    exact ⟨_, rfl⟩

lemma resolveEntry_snapshot {entry : HistoryEntry} {n : Nat} {s : ResolvedEntryState}
    (h : resolveEntry sha256 isPrintable artifacts (entry, n) = .ok s) :
    artifacts.loadSnapshot entry.operator.snapshotPath = .ok s.snapshot := by
  obtain ⟨loaded, hloaded, h⟩ := bind_eq_ok.mp h
  split_ifs at h
  · obtain ⟨context, -, h⟩ := bind_eq_ok.mp h
    obtain ⟨projected, -, h⟩ := bind_eq_ok.mp h
    cases h
    exact mapError_eq_ok.mp hloaded
  · cases h

/-- A snapshot that could follow the last entry can be projected, and compared with it. -/
lemma checkSuccessor_ok {before : RecordedHistory} {resolved : ResolvedHistory} {state : HistoryEntryState}
    {last : ResolvedEntryState} (hlast : resolved.states.getLast? = some last)
    (h : checkSuccessor sha256 isPrintable (some (before, resolved)) snapshot state = .ok ()) :
    (∃ p, projectSnapshot isPrintable "baseline" snapshot = .ok p) ∧
      ∃ comparison, buildComparisonResult sha256 isPrintable last.snapshot snapshot
        ⟨before.comparisonPolicy.alignSourceRoots, before.comparisonPolicy.alignDatabaseRoots⟩ = .ok comparison := by
  unfold checkSuccessor at h
  dsimp only at h
  rw [hlast] at h
  obtain ⟨comparison, hcomparison, -⟩ := bind_eq_ok.mp h
  have hcompared := mapError_eq_ok.mp hcomparison
  obtain ⟨p, q, hparts⟩ := buildComparisonResult_eq_ok.mp hcompared
  obtain ⟨q', hq', -⟩ := projectSnapshot_side "baseline" hparts.candidate
  exact ⟨⟨q', hq'⟩, comparison, hcompared⟩

lemma compareAdjacent_concat {ack : RootAlignmentAck} {states : List ResolvedEntryState} {s : ResolvedEntryState}
    {comparisons : List ComparisonResult} :
    ((states ++ [s]).zip (states ++ [s]).tail).zipIdx.mapM (compareAdjacent sha256 isPrintable ack) = .ok comparisons ↔
      ∃ before comparison, (states.zip states.tail).zipIdx.mapM (compareAdjacent sha256 isPrintable ack) = .ok before ∧
        states.getLast?.mapM (fun last => compareAdjacent sha256 isPrintable ack ((last, s), states.length - 1)) =
          .ok comparison ∧ comparisons = before ++ comparison.toList := by
  have hlength : (states.zip states.tail).length = states.length - 1 := by
    rw [List.length_zip, List.length_tail]
    omega
  rw [adjacent_concat]
  cases states.getLast? with
  | none =>
    rw [Option.map_none, Option.toList_none, List.append_nil]
    constructor
    · intro h
      exact ⟨comparisons, none, h, rfl, (List.append_nil _).symm⟩
    · rintro ⟨before, comparison, hbefore, hcomparison, rfl⟩
      obtain rfl := Except.ok.inj hcomparison
      rw [Option.toList_none, List.append_nil]
      exact hbefore
  | some last =>
    rw [Option.map_some, Option.toList_some, mapM_zipIdx_concat, hlength, Option.mapM_some]
    constructor
    · rintro ⟨before, comparison, hbefore, hcomparison, rfl⟩
      refine ⟨before, some comparison, hbefore, ?_, rfl⟩
      rw [hcomparison]
      rfl
    · rintro ⟨before, comparison, hbefore, hcomparison, rfl⟩
      obtain ⟨c, hc, hsome⟩ := bind_eq_ok.mp hcomparison
      cases hsome
      exact ⟨before, c, hbefore, hc, rfl⟩

/-- Resolving a history with one more entry resolves the rest as before, the new entry, and its comparison. -/
theorem resolveHistoryArtifacts_concat {policy : ComparisonPolicy} {entries : List HistoryEntry} {entry : HistoryEntry}
    {r : ResolvedHistory} : resolveHistoryArtifacts sha256 isPrintable artifacts ⟨policy, entries ++ [entry]⟩ = .ok r ↔
      ∃ before s comparisons, resolveHistoryArtifacts sha256 isPrintable artifacts ⟨policy, entries⟩ = .ok before ∧
        resolveEntry sha256 isPrintable artifacts (entry, entries.length) = .ok s ∧
        before.states.getLast?.mapM (fun last => compareAdjacent sha256 isPrintable
          ⟨policy.alignSourceRoots, policy.alignDatabaseRoots⟩ ((last, s), before.states.length - 1)) = .ok comparisons ∧
        r = ⟨⟨policy, entries ++ [entry]⟩, before.states ++ [s], before.comparisons ++ comparisons.toList⟩ := by
  unfold resolveHistoryArtifacts
  dsimp only
  constructor
  · intro h
    obtain ⟨states, hstates, h⟩ := bind_eq_ok.mp h
    obtain ⟨comparisons, hcomparisons, h⟩ := bind_eq_ok.mp h
    obtain rfl := pure_eq_ok.mp h
    obtain ⟨init, s, hinit, hs, rfl⟩ := mapM_zipIdx_concat.mp hstates
    obtain ⟨before, comparison, hbefore, hcomparison, rfl⟩ := compareAdjacent_concat.mp hcomparisons
    refine ⟨⟨⟨policy, entries⟩, init, before⟩, s, comparison, ?_, hs, hcomparison, rfl⟩
    rw [hinit, ok_bind, hbefore]
    rfl
  · rintro ⟨before, s, comparison, h, hs, hcomparison, rfl⟩
    obtain ⟨init, hinit, h⟩ := bind_eq_ok.mp h
    obtain ⟨comparisons, hcomparisons, h⟩ := bind_eq_ok.mp h
    obtain rfl := pure_eq_ok.mp h
    rw [mapM_zipIdx_concat.mpr ⟨init, s, hinit, hs, rfl⟩, ok_bind,
      compareAdjacent_concat.mpr ⟨comparisons, comparison, hcomparisons, hcomparison, rfl⟩]
    rfl

/-- The history that was there is resolved, and its last snapshot can be compared with the new one. -/
lemma resolved_before
    (hexisting : existingHistory tables sha256 isPrintable schemaErrors artifacts file args = .ok existing)
    (hadded : Appends sha256 isPrintable artifacts args existing snapshot e) :
    ∃ base, resolveHistoryArtifacts sha256 isPrintable artifacts
        ⟨policyOf existing args, (entriesBefore existing).map RecordedEntry.toHistoryEntry⟩ = .ok base ∧
      ∀ last ∈ base.states.getLast?, (∃ p, projectSnapshot isPrintable "baseline" snapshot = .ok p) ∧
        ∃ comparison, buildComparisonResult sha256 isPrintable last.snapshot snapshot
          ⟨(policyOf existing args).alignSourceRoots, (policyOf existing args).alignDatabaseRoots⟩ = .ok comparison := by
  rcases existingHistory_ok hexisting with ⟨-, rfl⟩ | ⟨stored, before, resolved, -, rfl, -, hresolved⟩
  · exact ⟨⟨⟨policyOf none args, []⟩, [], []⟩, rfl, fun last hlast => absurd hlast (Option.not_mem_none last)⟩
  · exact ⟨resolved, hresolved, fun last hlast => checkSuccessor_ok hlast hadded.successor⟩

lemma length_states {history : GovernanceHistory} {r : ResolvedHistory}
    (h : resolveHistoryArtifacts sha256 isPrintable artifacts history = .ok r) :
    r.states.length = history.entries.length := by
  rw [← (resolveHistoryArtifacts_spec h).entries, List.length_map]

/-- What a successful append wrote is resolved with the same artifacts exactly where the history had entries before, or
where the snapshot of its first entry can be projected. What was resolved before stays as it was, and comes first. -/
theorem appended_resolves_iff (hdigest : HexDigest sha256)
    (h : appendHistoryEntry tables sha256 isPrintable schemaErrors artifacts file args = .ok updated) :
    ((∃ r, resolveHistoryArtifacts sha256 isPrintable artifacts updated.history = .ok r) ↔
      ∀ e, updated.entries = [e] → ∃ snapshot p, artifacts.loadSnapshot e.operator.snapshotPath = .ok snapshot ∧
        projectSnapshot isPrintable "baseline" snapshot = .ok p) ∧
    ∀ r, resolveHistoryArtifacts sha256 isPrintable artifacts updated.history = .ok r →
      ∀ stored ∈ file, ∃ before resolved, loadHistoryArtifact tables sha256 schemaErrors stored = .ok before ∧
        resolveHistoryArtifacts sha256 isPrintable artifacts before.history = .ok resolved ∧
        resolved.states <+: r.states ∧ resolved.comparisons <+: r.comparisons := by
  obtain ⟨existing, snapshot, e, hexisting, rfl, hproper, hadded⟩ := appendHistoryEntry_ok hdigest h
  obtain ⟨base, hbase, hlast⟩ := resolved_before hexisting hadded
  have hlength := length_states hbase
  have hhistory : RecordedHistory.history ⟨policyOf existing args, entriesBefore existing ++ [e]⟩ =
      ⟨policyOf existing args, (entriesBefore existing).map RecordedEntry.toHistoryEntry ++ [e.toHistoryEntry]⟩ := by
    rw [RecordedHistory.history, List.map_append]
    rfl
  rw [hhistory]
  refine ⟨⟨?_, ?_⟩, ?_⟩
  · intro hresolved e' he'
    obtain ⟨r, hr⟩ := hresolved
    obtain ⟨before, s, comparisons, -, hs, -, -⟩ := resolveHistoryArtifacts_concat.mp hr
    obtain ⟨p, hp⟩ := (resolveEntry_appended_iff hproper hadded _).mp ⟨s, hs⟩
    have hentries : entriesBefore existing ++ [e] = [] ++ [e'] := he'
    obtain ⟨-, hsame⟩ := List.append_inj' hentries rfl
    obtain rfl := List.singleton_inj.mp hsame
    exact ⟨snapshot, p, hadded.loaded, hp⟩
  · intro hfirst
    have hprojected : ∃ p, projectSnapshot isPrintable "baseline" snapshot = .ok p := by
      cases hstates : base.states.getLast? with
      | some last => exact (hlast last hstates).1
      | none =>
        rw [List.getLast?_eq_none_iff.mp hstates, List.length_nil, List.length_map] at hlength
        have hempty := List.length_eq_zero_iff.mp hlength.symm
        obtain ⟨loaded, p, hloaded, hp⟩ := hfirst e (by rw [hempty]; rfl)
        obtain rfl := Except.ok.inj (hadded.loaded.symm.trans hloaded)
        exact ⟨p, hp⟩
    obtain ⟨s, hs⟩ := (resolveEntry_appended_iff hproper hadded
      ((entriesBefore existing).map RecordedEntry.toHistoryEntry).length).mpr hprojected
    obtain rfl : snapshot = s.snapshot := Except.ok.inj (hadded.loaded.symm.trans (resolveEntry_snapshot hs))
    cases hstates : base.states.getLast? with
    | none =>
      refine ⟨_, resolveHistoryArtifacts_concat.mpr ⟨base, s, none, hbase, hs, ?_, rfl⟩⟩
      rw [hstates]
      rfl
    | some last =>
      obtain ⟨-, comparison, hcomparison⟩ := hlast last hstates
      refine ⟨_, resolveHistoryArtifacts_concat.mpr ⟨base, s, some comparison, hbase, hs, ?_, rfl⟩⟩
      rw [hstates, Option.mapM_some, compareAdjacent, mapError_eq_ok.mpr hcomparison]
      rfl
  · intro r hr stored hstored
    obtain ⟨before, s, comparisons, hbefore, -, -, rfl⟩ := resolveHistoryArtifacts_concat.mp hr
    rcases existingHistory_ok hexisting with ⟨rfl, -⟩ | ⟨kept, loaded, resolved, rfl, rfl, hload, hresolved⟩
    · exact absurd hstored (Option.not_mem_none stored)
    · obtain rfl := Option.some.inj hstored
      obtain rfl : resolved = before := Except.ok.inj (hresolved.symm.trans hbefore)
      exact ⟨loaded, resolved, hload, hresolved, List.prefix_append _ _, List.prefix_append _ _⟩

end Resolve

lemma scannedShop_projected :
    ∃ p, projectSnapshot (fun _ => true) "baseline" (scannedShop "postgresql") = .ok p := exists_ok (by decide)

/-! ### A shop that is recorded twice -/

section Twice

/-- The shop as it is recorded for an environment. -/
def stateFor (environment : String) : HistoryEntryState :=
  ⟨⟨algorithmName, hashingContractVersion, constantDigest ""⟩, some (Dict.empty.set "env" environment), .absent⟩

/-- What is hashed for the identity of a state. -/
def hashedState (s : HistoryEntryState) : String := "gov-history-entry-state-v1\n" ++ s.toIdentityDict.canonicalJson

lemma entryStateIdentity_digest (sha256 : String → String) (s : HistoryEntryState) :
    (s.entryStateIdentity sha256).digest = sha256 (hashedState s) := rfl

/-- A digest that tells one state from everything else. -/
def stagingDigest (hashed : String) : String :=
  if hashed = hashedState (stateFor "staging") then String.ofList (List.replicate 64 'b') else constantDigest hashed

lemma stagingDigest_hex : HexDigest stagingDigest := by
  intro hashed
  unfold stagingDigest
  split_ifs
  · have hdigits : (String.ofList (List.replicate 64 'b')).toList = List.replicate 64 'b' := String.toList_ofList
    rw [hdigits, List.length_replicate]
    refine ⟨rfl, fun c hc => ?_⟩
    rw [List.eq_of_mem_replicate hc]
    decide
  · exact constantDigest_hex hashed

/-- The domains of snapshots and of states are told apart. -/
lemma domains_ne (snapshot state : String) :
    "gov-snapshot-v1\n" ++ snapshot ≠ "gov-history-entry-state-v1\n" ++ state := by
  intro h
  have hprefix := congrArg String.toList h
  rw [String.toList_append, String.toList_append] at hprefix
  simp at hprefix

lemma stagingDigest_of_ne {hashed : String} (h : hashed ≠ hashedState (stateFor "staging")) :
    stagingDigest hashed = constantDigest hashed := if_neg h

lemma stagingDigest_staging :
    stagingDigest (hashedState (stateFor "staging")) = String.ofList (List.replicate 64 'b') := if_pos rfl

lemma shop_identity : (scannedShop "postgresql").contentIdentity stagingDigest =
    ⟨algorithmName, hashingContractVersion, constantDigest ""⟩ :=
  congrArg (ContentIdentity.mk algorithmName hashingContractVersion) (stagingDigest_of_ne (domains_ne _ _))

lemma hashed_ne : hashedState (stateFor "prod") ≠ hashedState (stateFor "staging") := by
  intro h
  have hsame := Json.canonicalJson_inj.mp ((String.append_right_inj _).mp h)
  revert hsame
  decide

lemma states_differ :
    (stateFor "prod").entryStateIdentity stagingDigest ≠ (stateFor "staging").entryStateIdentity stagingDigest := by
  intro h
  have hdigest := congrArg ContentIdentity.digest h
  rw [entryStateIdentity_digest, entryStateIdentity_digest, stagingDigest_of_ne hashed_ne,
    stagingDigest_staging] at hdigest
  have hdigits := congrArg List.head? (String.ofList_injective hdigest)
  cases hdigits

def addFor (environment : String) : AppendArgs :=
  ⟨"shop.json", none, none, some (Dict.empty.set "env" environment), none, none, none⟩

def recordedFor (environments : List String) : RecordedHistory :=
  ⟨⟨false, false⟩, environments.map fun environment => ⟨⟨stateFor environment, ⟨"shop.json", none, none⟩⟩, none⟩⟩

lemma prod_recorded : appendHistoryEntry asciiTables stagingDigest (fun _ => true) historyValidator shopOnly none
    (addFor "prod") = .ok (recordedFor ["prod"]) := by
  have h : appendHistoryEntry asciiTables stagingDigest (fun _ => true) historyValidator shopOnly none (addFor "prod") =
      .ok ⟨⟨false, false⟩, [⟨⟨⟨(scannedShop "postgresql").contentIdentity stagingDigest, (stateFor "prod").labels,
        .absent⟩, ⟨"shop.json", none, none⟩⟩, none⟩]⟩ := by rfl
  rw [h, shop_identity]
  rfl

lemma prod_read : loadHistoryArtifact asciiTables stagingDigest historyValidator
    (written stagingDigest (recordedFor ["prod"])) = .ok (recordedFor ["prod"]) := by
  refine (load_written_iff stagingDigest_hex (fun _ _ => rfl) historyValidator_iff
    (appendHistoryEntry_proper stagingDigest_hex prod_recorded)).mpr fun e he => ?_
  obtain rfl := List.mem_singleton.mp he
  refine ⟨fun p hp => ?_, fun l hl => ?_, fun t ht => absurd ht (Option.not_mem_none t)⟩
  · obtain rfl := List.mem_singleton.mp hp
    exact ⟨fun path => rfl, by decide⟩
  · obtain rfl := Option.some.inj hl
    decide

/-- The recorded shop, resolved. -/
def resolvedFor (environment : String) (projected : ProjectedSnapshot) : ResolvedEntryState :=
  ⟨⟨stateFor environment, ⟨"shop.json", none, none⟩⟩, scannedShop "postgresql", none, none, none, projected⟩

lemma prod_resolved : ∃ projected, resolveHistoryArtifacts stagingDigest (fun _ => true) shopOnly
    (recordedFor ["prod"]).history = .ok ⟨(recordedFor ["prod"]).history, [resolvedFor "prod" projected], []⟩ := by
  obtain ⟨projected, hprojected⟩ := scannedShop_projected
  have hentry : resolveEntry stagingDigest (fun _ => true) shopOnly
      (⟨stateFor "prod", ⟨"shop.json", none, none⟩⟩, 0) = .ok (resolvedFor "prod" projected) := by
    have hidentity : (scannedShop "postgresql").contentIdentity stagingDigest = (stateFor "prod").snapshot :=
      shop_identity
    have hloaded : shopOnly.loadSnapshot "shop.json" = .ok (scannedShop "postgresql") := rfl
    unfold resolveEntry
    dsimp only
    rw [hloaded, mapError_eq_ok.mpr rfl, ok_bind, if_pos hidentity, hprojected]
    rfl
  have hhistory : (recordedFor ["prod"]).history =
      ⟨⟨false, false⟩, [] ++ [⟨stateFor "prod", ⟨"shop.json", none, none⟩⟩]⟩ := rfl
  refine ⟨projected, ?_⟩
  rw [hhistory]
  exact resolveHistoryArtifacts_concat.mpr
    ⟨⟨⟨⟨false, false⟩, []⟩, [], []⟩, resolvedFor "prod" projected, none, rfl, hentry, rfl, rfl⟩

lemma staging_recorded : appendHistoryEntry asciiTables stagingDigest (fun _ => true) historyValidator shopOnly
    (some (written stagingDigest (recordedFor ["prod"]))) (addFor "staging") =
      .ok (recordedFor ["prod", "staging"]) := by
  obtain ⟨projected, hresolved⟩ := prod_resolved
  have hoperator : appendedOperator (addFor "staging") = .ok ⟨"shop.json", none, none⟩ := rfl
  have hexisting : existingHistory asciiTables stagingDigest (fun _ => true) historyValidator shopOnly
      (some (written stagingDigest (recordedFor ["prod"]))) (addFor "staging") =
        .ok (some (recordedFor ["prod"], ⟨(recordedFor ["prod"]).history, [resolvedFor "prod" projected], []⟩)) := by
    rw [existingHistory, prod_read, ok_bind, hresolved]
    rfl
  have hcompared : (buildComparisonResult stagingDigest (fun _ => true) (scannedShop "postgresql")
      (scannedShop "postgresql") ⟨false, false⟩).toOption.isSome = true := by decide +kernel
  obtain ⟨comparison, hcomparison⟩ := exists_ok hcompared
  have hsuccessor : checkSuccessor stagingDigest (fun _ => true)
      (some (recordedFor ["prod"], ⟨(recordedFor ["prod"]).history, [resolvedFor "prod" projected], []⟩))
      (scannedShop "postgresql") (stateFor "staging") = .ok () := by
    have hlast : [resolvedFor "prod" projected].getLast? = some (resolvedFor "prod" projected) := rfl
    unfold checkSuccessor
    dsimp only
    rw [hlast]
    dsimp only [resolvedFor, recordedFor]
    rw [mapError_eq_ok.mpr hcomparison, ok_bind]
    exact if_neg states_differ
  have hlabels : normalizeLabels asciiTables "/labels" (((addFor "staging").labels.map labelsDocument).getD .null) =
      .ok (stateFor "staging").labels := rfl
  have hcaptured : validateCapturedAt asciiTables "/captured_at"
      (((addFor "staging").capturedAt.map Json.str).getD .null) = .ok none := rfl
  have hloaded : shopOnly.loadSnapshot "shop.json" = .ok (scannedShop "postgresql") := rfl
  have hcontext : appendedContext stagingDigest shopOnly ⟨"shop.json", none, none⟩ = .ok .absent := rfl
  have hstate : HistoryEntryState.mk ((scannedShop "postgresql").contentIdentity stagingDigest)
      (stateFor "staging").labels .absent = stateFor "staging" := by
    rw [shop_identity]
    rfl
  have hcoupled : validateOperatorContextCoupling (stateFor "staging") ⟨"shop.json", none, none⟩ "/" = .ok () := rfl
  unfold appendHistoryEntry
  rw [hoperator, ok_bind, hlabels, ok_bind, hcaptured, ok_bind, hloaded, mapError_eq_ok.mpr rfl, ok_bind, hexisting,
    ok_bind, hcontext, ok_bind]
  dsimp only
  rw [hstate, hcoupled, ok_bind, hsuccessor]
  rfl

/-- The shop that was recorded again is resolved, and what was resolved before comes first. -/
theorem recordedAgain_resolved : ∃ r before resolved,
    resolveHistoryArtifacts stagingDigest (fun _ => true) shopOnly (recordedFor ["prod", "staging"]).history = .ok r ∧
      loadHistoryArtifact asciiTables stagingDigest historyValidator (written stagingDigest (recordedFor ["prod"])) =
        .ok before ∧
      resolveHistoryArtifacts stagingDigest (fun _ => true) shopOnly before.history = .ok resolved ∧
      resolved.states <+: r.states ∧ resolved.comparisons <+: r.comparisons := by
  obtain ⟨hresolves, hprefix⟩ := appended_resolves_iff stagingDigest_hex staging_recorded
  have hmore : ∀ e, (recordedFor ["prod", "staging"]).entries ≠ [e] := by
    intro e h
    cases h
  obtain ⟨r, hr⟩ := hresolves.mpr fun e he => absurd he (hmore e)
  obtain ⟨before, resolved, hbefore, hresolved, hstates, hcomparisons⟩ := hprefix r hr _ rfl
  exact ⟨r, before, resolved, hr, hbefore, hresolved, hstates, hcomparisons⟩

end Twice

end CollibraGovernance.History
