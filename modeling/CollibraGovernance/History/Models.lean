import CollibraGovernance.Authority.Load
import CollibraGovernance.Comparison.Result
import CollibraGovernance.Observations.Artifact

/-! Governance histories: the recorded states, how each is located, and the diagnostics of a history. -/
namespace CollibraGovernance.History
open Library Identity Domain

def historySchema : String := "governance-history"
def historyVersion : String := "1"
def evolutionSchema : String := "governance-history-evolution"
def evolutionVersion : String := "1"

section Digest
variable (sha256 : String → String)

def historyEntryStateIdentity (entryState : Json) : ContentIdentity :=
  sha256Identity sha256 "gov-history-entry-state-v1\n" entryState

def historyEvolutionIdentity (canonicalEvolution : Json) : ContentIdentity :=
  sha256Identity sha256 "gov-history-evolution-v1\n" canonicalEvolution

end Digest

structure ComparisonPolicy where
  alignSourceRoots : Bool
  alignDatabaseRoots : Bool

def ComparisonPolicy.toDict (p : ComparisonPolicy) : Json :=
  .obj [("align_database_roots", .bool p.alignDatabaseRoots), ("align_source_roots", .bool p.alignSourceRoots)]

/-- The identities of an entry's context: none, observations only, or observations with authority
and the conflicts derived from them. -/
inductive HistoryContext where
  | absent
  | provenance (observations : ContentIdentity)
  | full (observations authority conflicts : ContentIdentity)

def HistoryContext.toMembers : HistoryContext → List (String × Json)
  | absent => []
  | provenance observations => [("context", .obj [("observations", observations.toDict)])]
  | full observations authority conflicts => [("context", .obj [("authority", authority.toDict),
      ("conflicts", conflicts.toDict), ("observations", observations.toDict)])]

structure HistoryEntryState where
  snapshot : ContentIdentity
  labels : Option (Dict String String)
  context : HistoryContext

namespace HistoryEntryState

def toIdentityDict (s : HistoryEntryState) : Json :=
  .obj ([("snapshot", s.snapshot.toDict)] ++
    (match s.labels with
      | none => []
      | some labels => [("labels", .obj (labels.entries.map (fun e => (e.1, .str e.2))))]) ++
    s.context.toMembers)

def entryStateIdentity (sha256 : String → String) (s : HistoryEntryState) : ContentIdentity :=
  historyEntryStateIdentity sha256 s.toIdentityDict

end HistoryEntryState

/-- Where the artifacts of an entry are found. -/
structure HistoryOperator where
  snapshotPath : String
  observationsPath : Option String
  authorityPaths : Option (List String)

structure HistoryEntry where
  state : HistoryEntryState
  operator : HistoryOperator

structure GovernanceHistory where
  comparisonPolicy : ComparisonPolicy
  entries : List HistoryEntry

namespace GovernanceHistory

def canonicalDictWithoutIdentity (h : GovernanceHistory) : Json :=
  .obj [("comparison_policy", h.comparisonPolicy.toDict),
    ("entries", .arr (h.entries.map (fun e => .obj [("state", e.state.toIdentityDict)]))),
    ("history_schema", .str historySchema), ("history_version", .str historyVersion)]

def contentIdentity (sha256 : String → String) (h : GovernanceHistory) : ContentIdentity :=
  historyIdentity sha256 h.canonicalDictWithoutIdentity

end GovernanceHistory

/-! Diagnostics. -/

def codeInvalidHistoryArtifact : String := "invalid_history_artifact"
def codeSnapshotReadError : String := "snapshot_read_error"
def codeSnapshotParseError : String := "snapshot_parse_error"
def codeInvalidSnapshotArtifact : String := "invalid_snapshot_artifact"
def codeUnsupportedSnapshotSchema : String := "unsupported_snapshot_schema"
def codeUnsupportedSnapshotVersion : String := "unsupported_snapshot_version"
def codeSnapshotIntegrityMismatch : String := "snapshot_integrity_mismatch"
def codeContextReadError : String := "context_read_error"
def codeContextParseError : String := "context_parse_error"
def codeInvalidContextArtifact : String := "invalid_context_artifact"
def codeContextIntegrityMismatch : String := "context_integrity_mismatch"
def codeObjectNotFound : String := "object_not_found"
def codePropertyNotFound : String := "property_not_found"
def codeWriteError : String := "write_error"

structure DiagnosticError where
  code : String
  path : String
  message : String
  deriving DecidableEq

/-- `HistoryError`, or an exception of another kind that is let through. -/
inductive Failure where
  | historyError (errors : List DiagnosticError)
  | valueError (message : String)
  | indexError
  deriving DecidableEq

abbrev Checked := Except Failure

def refuse {α : Type} (code path message : String) : Checked α :=
  .error (.historyError [⟨code, path, message⟩])

/-- The error of the snapshot loader. -/
structure SnapshotDiagnostic where
  code : String
  path : String

/-- `_SNAPSHOT_CODE_MAP` -/
def snapshotCode : String → String
  | "read_error" => codeSnapshotReadError
  | "parse_error" => codeSnapshotParseError
  | "unsupported_snapshot_schema" => codeUnsupportedSnapshotSchema
  | "unsupported_snapshot_version" => codeUnsupportedSnapshotVersion
  | "missing_content_identity" => codeSnapshotIntegrityMismatch
  | "integrity_mismatch" => codeSnapshotIntegrityMismatch
  | "write_error" => codeWriteError
  | _ => codeInvalidSnapshotArtifact

/-- `_SNAPSHOT_MESSAGES` -/
def snapshotMessage (code : String) : String :=
  if code = codeSnapshotReadError then "unable to read snapshot"
  else if code = codeSnapshotParseError then "invalid snapshot JSON"
  else if code = codeUnsupportedSnapshotSchema then "unsupported snapshot schema"
  else if code = codeUnsupportedSnapshotVersion then "unsupported snapshot version"
  else if code = codeSnapshotIntegrityMismatch then "snapshot content_identity mismatch"
  else "invalid snapshot artifact"

/-- A path below another; the root is no segment. -/
def below (base path : String) : String := if path = "" ∨ path = "/" then base else base ++ path

def mapSnapshotError (e : SnapshotDiagnostic) (entryPath : String) : DiagnosticError :=
  ⟨snapshotCode e.code,
    if entryPath = "" ∨ entryPath = "/" then (if e.path = "" then "/" else e.path) else below entryPath e.path,
    snapshotMessage (snapshotCode e.code)⟩

/-- Code and message of an observations diagnostic. -/
def observationsCode : Observations.ObservationsArtifactErrorCode → String × String
  | .readError => (codeContextReadError, "unable to read observations artifact")
  | .parseError => (codeContextParseError, "invalid observations JSON")
  | .unsupportedSchema => (codeInvalidContextArtifact, "unsupported observations schema")
  | .unsupportedVersion => (codeInvalidContextArtifact, "unsupported observations version")
  | .integrityMismatch => (codeContextIntegrityMismatch, "observations content_identity mismatch")
  | .invalidArtifact => (codeInvalidContextArtifact, "invalid observations artifact")
  | .writeError => (codeInvalidContextArtifact, "invalid observations artifact")

def mapObservationsError (errors : List Observations.ObservationsArtifactDiagnostic) (entryPath : String) :
    List DiagnosticError :=
  errors.map (fun e =>
    ⟨(observationsCode e.code).1, below (entryPath ++ "/context/observations") e.path,
      (observationsCode e.code).2⟩)

/-- Code and message of an authority diagnostic. -/
def authorityCode (code : String) : String × String :=
  if code = Authority.codeParse then (codeContextParseError, "invalid authority YAML")
  else if code = Authority.codeMissing then (codeContextReadError, "unable to read authority file")
  else (codeInvalidContextArtifact, "invalid authority artifact")

def mapAuthorityError (errors : List Authority.AuthorityDiagnosticError) (entryPath : String) :
    List DiagnosticError :=
  (sortBy (fun e => toLex (e.path, toLex (e.code, e.message))) errors).map (fun e =>
    let logical := entryPath ++ "/context/authority" ++
      (e.fileIndex.map (fun index => "/" ++ toString index)).getD ""
    ⟨(authorityCode e.code).1,
      if e.path = "" then logical
      else if e.path.startsWith "/" then logical ++ e.path else logical ++ "/" ++ e.path,
      (authorityCode e.code).2⟩)

/-- Comparison failures, on the path of the candidate entry. -/
def mapComparisonError (errors : List Comparison.DiagnosticError) (candidateEntryIndex : Nat) :
    List DiagnosticError :=
  errors.map (fun e => ⟨e.code, below ("/entries/" ++ toString candidateEntryIndex) e.path, e.message⟩)

end CollibraGovernance.History
