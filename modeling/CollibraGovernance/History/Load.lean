import CollibraGovernance.History.Recorded
import CollibraGovernance.Library.Refusal
import CollibraGovernance.History.Resolve

/-! Loading the file of a history: the document is checked against the schema, read, and its identity computed anew. -/
namespace CollibraGovernance.History
open Library Identity

def codeHistoryReadError : String := "history_read_error"
def codeHistoryParseError : String := "history_parse_error"
def codeUnsupportedHistorySchema : String := "unsupported_history_schema"
def codeUnsupportedHistoryVersion : String := "unsupported_history_version"
def codeHistoryIntegrityMismatch : String := "history_integrity_mismatch"
def codeDuplicateHistoryState : String := "duplicate_history_state"

/-! ### The parts of an entry -/

/-- `parse_content_identity`, on a value of the document. -/
def readContentIdentity (raw : Json) (path : String) : Checked ContentIdentity :=
  match raw with
  | .obj members =>
    if Observations.hasExactKeys members ["algorithm", "digest", "hashing_contract_version"] then
      match Json.get members "algorithm", Json.get members "hashing_contract_version", Json.get members "digest" with
      | .str algorithm, .str version, .str digest => parseContentIdentity ⟨algorithm, version, digest⟩ path
      | _, _, _ => refuse codeInvalidHistoryArtifact path "invalid content_identity"
    else refuse codeInvalidHistoryArtifact path "invalid content_identity"
  | _ => refuse codeInvalidHistoryArtifact path "invalid content_identity"

/-- `_parse_context` -/
def readContext (raw : Json) (path : String) : Checked HistoryContext :=
  match raw with
  | .null => .ok .absent
  | .obj members =>
    if Observations.hasExactKeys members ["observations"] then do
      let observations ← readContentIdentity (Json.get members "observations") (path ++ "/observations")
      return .provenance observations
    else if Observations.hasExactKeys members ["observations", "authority", "conflicts"] then do
      let authority ← readContentIdentity (Json.get members "authority") (path ++ "/authority")
      let conflicts ← readContentIdentity (Json.get members "conflicts") (path ++ "/conflicts")
      let observations ← readContentIdentity (Json.get members "observations") (path ++ "/observations")
      return .full observations authority conflicts
    else refuse codeInvalidHistoryArtifact path "invalid history context form"
  | _ => refuse codeInvalidHistoryArtifact path "invalid history context"

/-- A locator of the document; only a text can be normalised. -/
def readLocator (raw : Json) (path : String) : Checked String :=
  match raw with
  | .str text => normalizeHistoryRelativePath text path
  | _ => .error (pathError path "path must be a non-empty relative string")

/-- A locator that may be missing. -/
def readOptional {α : Type} (members : List (String × Json)) (key : String) (read : Json → Checked α) :
    Checked (Option α) := (Json.lookup members key).mapM read

/-- The authority paths of an operator, each with its place. -/
def readAuthorityPaths (path : String) (raw : Json) : Checked (List String) :=
  match raw with
  | .arr (item :: items) =>
    (item :: items).zipIdx.mapM fun entry => readLocator entry.1 (path ++ "/" ++ toString entry.2)
  | _ => refuse codeInvalidHistoryArtifact path "authority_paths must be a non-empty array"

def operatorKeys : List String := ["snapshot_path", "observations_path", "authority_paths"]

/-- `_parse_operator` -/
def readOperator (raw : Json) (path : String) : Checked HistoryOperator :=
  match raw with
  | .obj members =>
    if (Json.lookup members "conflicts_path").isSome then
      refuse codeInvalidHistoryArtifact (path ++ "/conflicts_path") "conflicts_path is not allowed"
    else if !members.all (fun m => operatorKeys.contains m.1) || (Json.lookup members "snapshot_path").isNone then
      refuse codeInvalidHistoryArtifact path "invalid history operator"
    else do
      let snapshotPath ← readLocator (Json.get members "snapshot_path") (path ++ "/snapshot_path")
      let observationsPath ← readOptional members "observations_path"
        fun raw => readLocator raw (path ++ "/observations_path")
      let authorityPaths ← readOptional members "authority_paths" (readAuthorityPaths (path ++ "/authority_paths"))
      return ⟨snapshotPath, observationsPath, authorityPaths⟩
  | _ => refuse codeInvalidHistoryArtifact path "operator is required"

/-- `validate_operator_context_coupling` -/
def validateOperatorContextCoupling (state : HistoryEntryState) (operator : HistoryOperator) (entryPath : String) :
    Checked Unit :=
  match state.context with
  | .absent =>
    if operator.observationsPath.isSome || operator.authorityPaths.isSome then
      refuse codeInvalidHistoryArtifact (entryPath ++ "/operator")
        "no-context entry operator must contain only snapshot_path"
    else .ok ()
  | .provenance _ =>
    if operator.observationsPath.isNone || operator.authorityPaths.isSome then
      refuse codeInvalidHistoryArtifact (entryPath ++ "/operator")
        "provenance entry operator requires snapshot_path and observations_path without authority_paths"
    else .ok ()
  | .full _ _ _ =>
    if operator.observationsPath.isNone || (operator.authorityPaths.getD []).isEmpty then
      refuse codeInvalidHistoryArtifact (entryPath ++ "/operator")
        "full-context entry operator requires snapshot_path, observations_path, and non-empty authority_paths"
    else .ok ()

/-- The member of a mapping, with what stands for a missing one. -/
def readMember {α : Type} (members : List (String × Json)) (key : String) (missing : α) (read : Json → Checked α) :
    Checked α :=
  match Json.lookup members key with
  | some raw => read raw
  | none => .ok missing

section Load
variable (tables : UnicodeTables)

/-- The state of an entry. -/
def readEntryState (members : List (String × Json)) (path : String) : Checked HistoryEntryState := do
  let snapshot ← readContentIdentity (Json.get members "snapshot") (path ++ "/snapshot")
  let labels ← readMember members "labels" none (normalizeLabels tables (path ++ "/labels"))
  let context ← readMember members "context" .absent fun raw => readContext raw (path ++ "/context")
  if members.all (fun m => ["snapshot", "labels", "context"].contains m.1) then return ⟨snapshot, labels, context⟩
  else refuse codeInvalidHistoryArtifact path "invalid history entry state"

/-- `_parse_entry` -/
def readEntry (indexed : Json × Nat) : Checked RecordedEntry :=
  let entryPath := "/entries/" ++ toString indexed.2
  match indexed.1 with
  | .obj members =>
    match Json.get members "state" with
    | .obj stateMembers => do
      let state ← readEntryState tables stateMembers (entryPath ++ "/state")
      let operator ← readOperator (Json.get members "operator") (entryPath ++ "/operator")
      validateOperatorContextCoupling state operator entryPath
      let capturedAt ← readMember members "captured_at" none (validateCapturedAt tables (entryPath ++ "/captured_at"))
      if members.all (fun m => ["state", "operator", "captured_at"].contains m.1) then
        return ⟨⟨state, operator⟩, capturedAt⟩
      else refuse codeInvalidHistoryArtifact entryPath "invalid history entry"
    | _ => refuse codeInvalidHistoryArtifact (entryPath ++ "/state") "entry state is required"
  | _ => refuse codeInvalidHistoryArtifact entryPath "invalid history entry"

def readPolicy (raw : Json) : Checked ComparisonPolicy :=
  match raw with
  | .obj members =>
    if Observations.hasExactKeys members ["align_source_roots", "align_database_roots"] then
      match Json.get members "align_source_roots", Json.get members "align_database_roots" with
      | .bool alignSource, .bool alignDatabase => .ok ⟨alignSource, alignDatabase⟩
      | _, _ => refuse codeInvalidHistoryArtifact "/comparison_policy" "comparison_policy fields must be booleans"
    else refuse codeInvalidHistoryArtifact "/comparison_policy" "invalid comparison_policy"
  | _ => refuse codeInvalidHistoryArtifact "/comparison_policy" "comparison_policy is required"

/-- `_parse_history_payload` -/
def readHistory (payload : List (String × Json)) : Checked RecordedHistory := do
  let policy ← readPolicy (Json.get payload "comparison_policy")
  match Json.get payload "entries" with
  | .arr items => do
    let entries ← items.zipIdx.mapM (readEntry tables)
    return ⟨policy, entries⟩
  | _ => refuse codeInvalidHistoryArtifact "/entries" "entries must be an array"

/-! ### The file -/

/-- What a file holds: nothing that can be read, bytes that are no text, a text that is no JSON, or a document. -/
inductive Stored where
  | unreadable | undecodable | malformed
  | document (payload : Json)

/-! The schema validator is a third-party library: it receives a document and reports the failed keywords. -/
variable (sha256 : String → String) (schemaErrors : Json → List JsonSchema.Failure)

def failurePath (f : JsonSchema.Failure) : String :=
  if f.absolutePath = [] then "/" else "/" ++ "/".intercalate f.absolutePath

/-- `_schema_diagnostic` -/
def schemaDiagnostic (f : JsonSchema.Failure) : DiagnosticError :=
  ⟨codeInvalidHistoryArtifact, failurePath f, "history artifact failed schema validation (" ++ f.validator ++ ")"⟩

/-- The failed keywords are reported by path, then by keyword. -/
def validateHistorySchema (payload : List (String × Json)) : Checked Unit :=
  match sortBy (fun f => toLex ("/" ++ "/".intercalate f.absolutePath, f.validator)) (schemaErrors (.obj payload)) with
  | [] => .ok ()
  | failures => .error (.historyError (failures.map schemaDiagnostic))

/-- The identity that the file carries is the one of what was read. -/
def verifyIdentity (raw : Json) (history : RecordedHistory) : Checked Unit :=
  match readContentIdentity raw "/content_identity" with
  | .ok actual =>
    if actual = history.history.contentIdentity sha256 then .ok ()
    else refuse codeHistoryIntegrityMismatch "/content_identity" "history content_identity mismatch"
  | .error _ => refuse codeHistoryIntegrityMismatch "/content_identity" "history content_identity mismatch"

/-- The checks of a document that is a mapping. -/
def loadPayload (payload : List (String × Json)) : Checked RecordedHistory :=
  if Json.get payload "history_schema" ≠ .str historySchema then
    refuse codeUnsupportedHistorySchema "/history_schema" "unsupported history schema"
  else if Json.get payload "history_version" ≠ .str historyVersion then
    refuse codeUnsupportedHistoryVersion "/history_version" "unsupported history version"
  else do
    validateHistorySchema schemaErrors payload
    match Json.get payload "content_identity" with
    | .obj identity => do
      let history ← readHistory tables payload
      verifyIdentity sha256 (.obj identity) history
      return history
    | _ => refuse codeInvalidHistoryArtifact "/content_identity" "history content_identity is required"

/-- `load_history_artifact`; a key given twice is refused by the JSON parser. -/
def loadHistoryArtifact : Stored → Checked RecordedHistory
  | .unreadable => refuse codeHistoryReadError "/" "unable to read history artifact"
  | .undecodable => refuse codeHistoryParseError "/" "invalid history JSON"
  | .malformed => refuse codeHistoryParseError "/" "invalid history JSON"
  | .document payload =>
    if payload.uniqueKeys = false then refuse codeHistoryParseError "/" "invalid history JSON"
    else match payload with
      | .obj members => loadPayload tables sha256 schemaErrors members
      | _ => refuse codeHistoryParseError "/" "history root must be a mapping"

/-- What `write_history_artifact` leaves in the file: members are written in the order of their keys. -/
def written (history : RecordedHistory) : Stored := .document (history.toDict sha256).normalize

end Load
end CollibraGovernance.History
