import CollibraGovernance.History.Load

/-! Appending an entry to the file of a history. -/
namespace CollibraGovernance.History
open Library Identity Domain Comparison Snapshots

/-- What the command is given. -/
structure AppendArgs where
  snapshotPath : String
  observationsPath : Option String
  authorityPaths : Option (List String)
  labels : Option (Dict String String)
  capturedAt : Option String
  alignSourceRoots : Option Bool
  alignDatabaseRoots : Option Bool

/-- The world a command runs in: the artifacts beside the history, and whether its file can be replaced. -/
structure World where
  artifacts : Artifacts
  writable : Bool

def labelsDocument (labels : Dict String String) : Json := .obj (labels.entries.map fun e => (e.1, .str e.2))

/-- The authority paths, which may not be an empty list. -/
def normalizeAuthorityPaths : Option (List String) → Checked (Option (List String))
  | none => .ok none
  | some [] => refuse codeInvalidHistoryArtifact "/operator/authority_paths"
      "authority_paths must be non-empty when provided"
  | some paths => (paths.zipIdx.mapM fun entry =>
      normalizeHistoryRelativePath entry.1 ("/operator/authority_paths/" ++ toString entry.2)).map some

/-- The locators of the new entry. -/
def appendedOperator (args : AppendArgs) : Checked HistoryOperator := do
  let snapshotPath ← normalizeHistoryRelativePath args.snapshotPath "/operator/snapshot_path"
  let observationsPath ← args.observationsPath.mapM fun path =>
    normalizeHistoryRelativePath path "/operator/observations_path"
  let authorityPaths ← normalizeAuthorityPaths args.authorityPaths
  if authorityPaths.isSome && observationsPath.isNone then
    refuse codeInvalidHistoryArtifact "/context" "authority requires observations"
  else return ⟨snapshotPath, observationsPath, authorityPaths⟩

/-- An alignment flag has to be the stored one. -/
def checkAlignment (name : String) (given : Option Bool) (stored : Bool) : Checked Unit :=
  if given.any (fun flag => flag ≠ stored) then
    refuse codeInvalidHistoryArtifact ("/comparison_policy/" ++ name) (name ++ " conflicts with stored comparison_policy")
  else .ok ()

section Append
variable (tables : UnicodeTables) (sha256 : String → String) (isPrintable : Char → Bool)
  (schemaErrors : Json → List JsonSchema.Failure) (artifacts : Artifacts)

/-- The history that is there already, with its artifacts. -/
def existingHistory (file : Option Stored) (args : AppendArgs) : Checked (Option (RecordedHistory × ResolvedHistory)) :=
  match file with
  | none => .ok none
  | some stored => do
    let existing ← loadHistoryArtifact tables sha256 schemaErrors stored
    let resolved ← resolveHistoryArtifacts sha256 isPrintable artifacts existing.history
    checkAlignment "align_source_roots" args.alignSourceRoots existing.comparisonPolicy.alignSourceRoots
    checkAlignment "align_database_roots" args.alignDatabaseRoots existing.comparisonPolicy.alignDatabaseRoots
    return some (existing, resolved)

def policyOf (existing : Option (RecordedHistory × ResolvedHistory)) (args : AppendArgs) : ComparisonPolicy :=
  match existing with
  | some (history, _) => history.comparisonPolicy
  | none => ⟨args.alignSourceRoots.getD false, args.alignDatabaseRoots.getD false⟩

/-- `load_observations_at` without an expected identity. -/
def openObservationsAt (path entryPath : String) : Checked PropertyObservationSet :=
  (artifacts.loadObservations path).mapError fun e => .historyError (mapObservationsError e entryPath)

/-- `load_authority_at` without an expected identity. -/
def openAuthorityAt (paths : List String) (entryPath : String) : Checked NormalizedAuthorityPolicySet :=
  (artifacts.loadAuthority paths).mapError fun e => .historyError (mapAuthorityError e entryPath)

/-- `build_context_identities` -/
def buildContextIdentities (observations : Option PropertyObservationSet)
    (authority : Option NormalizedAuthorityPolicySet) : Checked HistoryContext :=
  match observations, authority with
  | none, none => .ok .absent
  | none, some _ => refuse codeInvalidContextArtifact "/context" "authority requires observations"
  | some o, none => .ok (.provenance (o.contentIdentity sha256))
  | some o, some a => .ok (.full (o.contentIdentity sha256) (a.contentIdentity sha256)
      ((analyzePropertyConflicts a o).contentIdentity sha256))

/-- The context of the new entry, from the artifacts that it names. -/
def appendedContext (operator : HistoryOperator) : Checked HistoryContext := do
  let observations ← operator.observationsPath.mapM fun path => openObservationsAt artifacts path "/"
  let authority ← operator.authorityPaths.mapM fun paths => openAuthorityAt artifacts paths "/"
  buildContextIdentities sha256 observations authority

/-- The new entry has to be comparable with the last one, and differ from it. -/
def checkSuccessor (existing : Option (RecordedHistory × ResolvedHistory)) (snapshot : GovernanceSnapshot)
    (state : HistoryEntryState) : Checked Unit :=
  match existing with
  | none => .ok ()
  | some (history, resolved) =>
    match resolved.states.getLast? with
    | none => .ok ()
    | some last => do
      let ack := ⟨history.comparisonPolicy.alignSourceRoots, history.comparisonPolicy.alignDatabaseRoots⟩
      let _ ← (buildComparisonResult sha256 isPrintable last.snapshot snapshot ack).mapError
        fun e => Failure.historyError (mapComparisonError e history.entries.length)
      if last.entry.state.entryStateIdentity sha256 = state.entryStateIdentity sha256 then
        refuse codeDuplicateHistoryState ("/entries/" ++ toString history.entries.length)
          "adjacent history entry state is duplicate"
      else .ok ()

/-- `append_history_entry`, up to the writing of the file. -/
def appendHistoryEntry (file : Option Stored) (args : AppendArgs) : Checked RecordedHistory := do
  let operator ← appendedOperator args
  let labels ← normalizeLabels tables "/labels" ((args.labels.map labelsDocument).getD .null)
  let capturedAt ← validateCapturedAt tables "/captured_at" ((args.capturedAt.map Json.str).getD .null)
  let snapshot ← (artifacts.loadSnapshot operator.snapshotPath).mapError
    fun e => Failure.historyError [mapSnapshotError e "/"]
  let existing ← existingHistory tables sha256 isPrintable schemaErrors artifacts file args
  let context ← appendedContext sha256 artifacts operator
  let state : HistoryEntryState := ⟨snapshot.contentIdentity sha256, labels, context⟩
  validateOperatorContextCoupling state operator "/"
  checkSuccessor sha256 isPrintable existing snapshot state
  let before := (existing.map fun e => e.1.entries).getD []
  return ⟨policyOf existing args, before ++ [⟨⟨state, operator⟩, capturedAt⟩]⟩

/-- The command: what it answers, and the file after it. A file that cannot be replaced stays as it is. -/
def historyAdd (world : World) (file : Option Stored) (args : AppendArgs) : Checked RecordedHistory × Option Stored :=
  match appendHistoryEntry tables sha256 isPrintable schemaErrors world.artifacts file args with
  | .error e => (.error e, file)
  | .ok updated =>
    if world.writable then (.ok updated, some (written sha256 updated))
    else (refuse codeWriteError "/" "unable to write history artifact", file)

end Append
end CollibraGovernance.History
