import CollibraGovernance.Comparison.Inverse
import CollibraGovernance.Domain.Conflicts
import CollibraGovernance.History.Models

/-! Resolving a history: its artifacts, its contexts and the comparisons of adjacent entries. -/
namespace CollibraGovernance.History
open Library Identity Domain Comparison Snapshots

/-- The loaders of the artifacts that the entries of a history name. -/
structure Artifacts where
  loadSnapshot : String → Except SnapshotDiagnostic GovernanceSnapshot
  loadObservations : String → Observations.Read PropertyObservationSet
  loadAuthority : List String → Except (List Authority.AuthorityDiagnosticError) NormalizedAuthorityPolicySet

structure ResolvedContext where
  observations : Option PropertyObservationSet
  authority : Option NormalizedAuthorityPolicySet
  conflicts : Option PropertyConflictReport

structure ResolvedEntryState where
  entry : HistoryEntry
  snapshot : GovernanceSnapshot
  observations : Option PropertyObservationSet
  authority : Option NormalizedAuthorityPolicySet
  conflicts : Option PropertyConflictReport
  projected : ProjectedSnapshot

structure ResolvedHistory where
  history : GovernanceHistory
  states : List ResolvedEntryState
  comparisons : List ComparisonResult

/-- A recorded identity has no empty member. -/
def parseContentIdentity (c : ContentIdentity) (path : String) : Checked ContentIdentity :=
  if c.algorithm = "" ∨ c.hashingContractVersion = "" ∨ c.digest = "" then
    refuse codeInvalidHistoryArtifact path "invalid content_identity"
  else .ok c

section Resolve
variable (sha256 : String → String) (isPrintable : Char → Bool) (artifacts : Artifacts)

def loadObservationsAt (path : String) (expected : ContentIdentity) (entryPath : String) :
    Checked PropertyObservationSet := do
  let observations ← (artifacts.loadObservations path).mapError
    (fun e => .historyError (mapObservationsError e entryPath))
  if observations.contentIdentity sha256 = expected then return observations
  else
    refuse codeContextIntegrityMismatch (entryPath ++ "/context/observations")
      "observations content_identity mismatch"

def loadAuthorityAt (paths : List String) (expected : ContentIdentity) (entryPath : String) :
    Checked NormalizedAuthorityPolicySet := do
  let authority ← (artifacts.loadAuthority paths).mapError
    (fun e => .historyError (mapAuthorityError e entryPath))
  if authority.contentIdentity sha256 = expected then return authority
  else
    refuse codeContextIntegrityMismatch (entryPath ++ "/context/authority")
      "authority content_identity mismatch"

/-- The observations of an entry with context. -/
def resolveObservations (expected : ContentIdentity) (path : Option String) (entryPath : String) :
    Checked PropertyObservationSet := do
  let expected ← parseContentIdentity expected (entryPath ++ "/state/context/observations")
  match path with
  | none =>
    refuse codeInvalidContextArtifact (entryPath ++ "/operator/observations_path")
      "observations_path is required for contextual entries"
  | some path => loadObservationsAt sha256 artifacts path expected entryPath

/-- Load and verify the context of one entry; the conflicts of a full context are derived anew. -/
def resolveEntryContext (state : HistoryEntryState) (operator : HistoryOperator) (entryPath : String) :
    Checked ResolvedContext :=
  match state.context with
  | .absent => return ⟨none, none, none⟩
  | .provenance expected => do
    let observations ← resolveObservations sha256 artifacts expected operator.observationsPath entryPath
    return ⟨some observations, none, none⟩
  | .full expected expectedAuthority expectedConflicts => do
    let observations ← resolveObservations sha256 artifacts expected operator.observationsPath entryPath
    let expectedAuthority ← parseContentIdentity expectedAuthority (entryPath ++ "/state/context/authority")
    let expectedConflicts ← parseContentIdentity expectedConflicts (entryPath ++ "/state/context/conflicts")
    match operator.authorityPaths.getD [] with
    | [] =>
      refuse codeInvalidContextArtifact (entryPath ++ "/operator/authority_paths")
        "authority_paths are required for full-context entries"
    | path :: paths => do
      let authority ← loadAuthorityAt sha256 artifacts (path :: paths) expectedAuthority entryPath
      let report := analyzePropertyConflicts authority observations
      if report.contentIdentity sha256 = expectedConflicts then
        return ⟨some observations, some authority, some report⟩
      else
        refuse codeContextIntegrityMismatch (entryPath ++ "/state/context/conflicts")
          "derived conflicts content_identity mismatch"

/-- One entry with its artifacts. -/
def resolveEntry (indexed : HistoryEntry × Nat) : Checked ResolvedEntryState := do
  let (entry, index) := indexed
  let entryPath := "/entries/" ++ toString index
  let snapshot ← (artifacts.loadSnapshot entry.operator.snapshotPath).mapError
    (fun e => .historyError [mapSnapshotError e (entryPath ++ "/operator/snapshot_path")])
  if snapshot.contentIdentity sha256 = entry.state.snapshot then do
    let context ← resolveEntryContext sha256 artifacts entry.state entry.operator entryPath
    let projected ← (projectSnapshot isPrintable "baseline" snapshot).mapError
      (fun e => Failure.historyError (mapComparisonError e index))
    return ⟨entry, snapshot, context.observations, context.authority, context.conflicts, projected⟩
  else refuse codeSnapshotIntegrityMismatch (entryPath ++ "/state/snapshot") "snapshot content_identity mismatch"

/-- The comparison of two adjacent entries. -/
def compareAdjacent (ack : RootAlignmentAck) (pair : (ResolvedEntryState × ResolvedEntryState) × Nat) :
    Checked ComparisonResult :=
  (buildComparisonResult sha256 isPrintable pair.1.1.snapshot pair.1.2.snapshot ack).mapError
    (fun e => .historyError (mapComparisonError e (pair.2 + 1)))

/-- Resolve every entry and compare all adjacent snapshots. -/
def resolveHistoryArtifacts (history : GovernanceHistory) : Checked ResolvedHistory := do
  let states ← history.entries.zipIdx.mapM (resolveEntry sha256 isPrintable artifacts)
  let ack := ⟨history.comparisonPolicy.alignSourceRoots, history.comparisonPolicy.alignDatabaseRoots⟩
  let comparisons ← (states.zip states.tail).zipIdx.mapM (compareAdjacent sha256 isPrintable ack)
  return ⟨history, states, comparisons⟩

end Resolve

/-! What resolution establishes. -/

/-- The context artifacts that an entry of this form is resolved with. -/
def HistoryContext.Carries (context : HistoryContext) (observations : Option PropertyObservationSet)
    (authority : Option NormalizedAuthorityPolicySet) (conflicts : Option PropertyConflictReport) : Prop :=
  match context with
  | .absent => observations = none ∧ authority = none ∧ conflicts = none
  | .provenance _ => observations.isSome ∧ authority = none ∧ conflicts = none
  | .full _ _ _ => ∃ o a, observations = some o ∧ authority = some a ∧
      conflicts = some (analyzePropertyConflicts a o)

/-- A resolved entry: its snapshot projected, its context present as recorded. -/
structure Resolves (sha256 : String → String) (isPrintable : Char → Bool) (s : ResolvedEntryState) : Prop where
  identity : s.snapshot.contentIdentity sha256 = s.entry.state.snapshot
  projected : projectSnapshot isPrintable "baseline" s.snapshot = .ok s.projected
  context : s.entry.state.context.Carries s.observations s.authority s.conflicts

section ResolveSpec
variable {sha256 : String → String} {isPrintable : Char → Bool} {artifacts : Artifacts}

lemma resolveEntryContext_carries {state : HistoryEntryState} {operator : HistoryOperator} {entryPath : String}
    {context : ResolvedContext} (h : resolveEntryContext sha256 artifacts state operator entryPath = .ok context) :
    state.context.Carries context.observations context.authority context.conflicts := by
  unfold resolveEntryContext at h
  cases hform : state.context with
  | absent =>
    rw [hform] at h
    cases h
    exact ⟨rfl, rfl, rfl⟩
  | provenance expected =>
    rw [hform] at h
    obtain ⟨observations, -, h⟩ := bind_eq_ok.mp h
    cases h
    exact ⟨rfl, rfl, rfl⟩
  | full expected expectedAuthority expectedConflicts =>
    rw [hform] at h
    obtain ⟨observations, -, h⟩ := bind_eq_ok.mp h
    obtain ⟨a, -, h⟩ := bind_eq_ok.mp h
    obtain ⟨c, -, h⟩ := bind_eq_ok.mp h
    cases hpaths : operator.authorityPaths.getD [] with
    | nil =>
      rw [hpaths] at h
      cases h
    | cons path paths =>
      rw [hpaths] at h
      obtain ⟨authority, -, h⟩ := bind_eq_ok.mp h
      dsimp only at h
      split_ifs at h with hidentity
      · cases h
        exact ⟨observations, authority, rfl, rfl, rfl⟩
      · cases h

lemma resolveEntry_resolves {indexed : HistoryEntry × Nat} {s : ResolvedEntryState}
    (h : resolveEntry sha256 isPrintable artifacts indexed = .ok s) :
    s.entry = indexed.1 ∧ Resolves sha256 isPrintable s := by
  obtain ⟨entry, index⟩ := indexed
  obtain ⟨snapshot, -, h⟩ := bind_eq_ok.mp h
  split_ifs at h with hidentity
  · obtain ⟨context, hcontext, h⟩ := bind_eq_ok.mp h
    obtain ⟨projected, hprojected, h⟩ := bind_eq_ok.mp h
    cases h
    exact ⟨rfl, hidentity, mapError_eq_ok.mp hprojected, resolveEntryContext_carries hcontext⟩
  · cases h

/-- A resolved history has one state for each entry, and one comparison for each adjacent pair. -/
structure ResolvedFrom (sha256 : String → String) (isPrintable : Char → Bool) (history : GovernanceHistory)
    (r : ResolvedHistory) : Prop where
  recorded : r.history = history
  entries : r.states.map ResolvedEntryState.entry = history.entries
  resolves : ∀ s ∈ r.states, Resolves sha256 isPrintable s
  length_comparisons : r.comparisons.length = r.states.length - 1
  compared : ∀ (n : Nat) baseline candidate comparison, r.states[n]? = some baseline →
    r.states[n + 1]? = some candidate → r.comparisons[n]? = some comparison →
    buildComparisonResult sha256 isPrintable baseline.snapshot candidate.snapshot
      ⟨history.comparisonPolicy.alignSourceRoots, history.comparisonPolicy.alignDatabaseRoots⟩ = .ok comparison

theorem resolveHistoryArtifacts_spec {history : GovernanceHistory} {r : ResolvedHistory}
    (h : resolveHistoryArtifacts sha256 isPrintable artifacts history = .ok r) :
    ResolvedFrom sha256 isPrintable history r := by
  obtain ⟨states, hstates, h⟩ := bind_eq_ok.mp h
  obtain ⟨comparisons, hcomparisons, h⟩ := bind_eq_ok.mp h
  cases h
  obtain ⟨hlength, hstate⟩ := mapM_zipIdx_get hstates
  obtain ⟨hpairs, hcompared⟩ := mapM_zipIdx_get hcomparisons
  refine ⟨rfl, ?_, ?_, ?_, ?_⟩
  · have hentries := mapM_map (q := Prod.fst) (fun _ _ h => (resolveEntry_resolves h).1) hstates
    exact hentries.trans (List.zipIdx_map_fst 0 _)
  · intro s hs
    obtain ⟨indexed, -, h⟩ := (mapM_mem hstates).1 s hs
    exact (resolveEntry_resolves h).2
  · dsimp only
    rw [hpairs, List.length_zip, List.length_tail]
    omega
  · intro n baseline candidate comparison hbaseline hcandidate hcomparison
    have hpair : (states.zip states.tail)[n]? = some (baseline, candidate) := by
      rw [List.getElem?_zip_eq_some, List.getElem?_tail]
      exact ⟨hbaseline, hcandidate⟩
    exact mapError_eq_ok.mp (hcompared n _ _ hpair hcomparison)

end ResolveSpec
end CollibraGovernance.History
