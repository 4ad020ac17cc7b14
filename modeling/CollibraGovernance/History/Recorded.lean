import CollibraGovernance.ConfigContract.RelativePaths
import CollibraGovernance.Library.RecursiveSchema
import CollibraGovernance.Identity.Hashing

/-! The file of a history: its entries with their labels and capture times, the document they are written as, and
how a document is read. -/
namespace CollibraGovernance.History
open Library Identity

/-! ### Unicode -/

/-- What the tables of Unicode say: the case folding of a text, and the value of a decimal digit. -/
structure UnicodeTables where
  casefold : String → String
  decimal : Char → Option Nat

/-! ### Labels -/

def maxLabels : Nat := 32
def maxLabelKeyLen : Nat := 64
def maxLabelValueLen : Nat := 256

def reservedLabelKeys : List String :=
  ["password", "token", "client_secret", "authorization", "credentials", "api_key", "secret"]

section Labels
variable (tables : UnicodeTables) (path : String)

/-- What is said against a trimmed label, if anything. -/
def labelFault (key value : String) : Option String :=
  if key = "" ∨ value = "" then some "label keys and values must be non-empty after trim"
  else if tables.casefold key ∈ reservedLabelKeys then some "label key is reserved"
  else if key.length > maxLabelKeyLen then some "label key exceeds maximum length of 64"
  else if value.length > maxLabelValueLen then some "label value exceeds maximum length of 256"
  else none

/-- One label is added to those before it. -/
def addLabel (normalized : Dict String String) (label : String × Json) : Checked (Dict String String) :=
  match label.2 with
  | .str rawValue =>
    match labelFault tables (strip label.1) (strip rawValue) with
    | some message => refuse codeInvalidHistoryArtifact path message
    | none =>
      if strip label.1 ∈ normalized.keys then
        refuse codeInvalidHistoryArtifact path "duplicate label key after trim"
      else .ok (normalized.set (strip label.1) (strip rawValue))
  | _ => refuse codeInvalidHistoryArtifact path "label keys and values must be strings"

/-- `normalize_labels` -/
def normalizeLabels : Json → Checked (Option (Dict String String))
  | .null => .ok none
  | .obj labels =>
    if labels.length > maxLabels then refuse codeInvalidHistoryArtifact path "labels exceed maximum of 32 entries"
    else (labels.foldlM (addLabel tables path) .empty).map some
  | _ => refuse codeInvalidHistoryArtifact path "labels must be a mapping"

end Labels

/-! ### Capture times -/

/-- The fraction and the zone of a time stamp: `(\.\d+)?Z`. -/
def timestampEnd (digit : Char → Bool) : List Char → Bool
  | ['Z'] => true
  | '.' :: rest => rest.length ≥ 2 && rest.getLast? = some 'Z' && rest.dropLast.all digit
  | _ => false

/-- `\d{4}-\d{2}-\d{2}T\d{2}:\d{2}:\d{2}(\.\d+)?Z`, for some notion of digit. -/
def timestampShape (digit : Char → Bool) : List Char → Bool
  | y₁ :: y₂ :: y₃ :: y₄ :: '-' :: m₁ :: m₂ :: '-' :: d₁ :: d₂ :: 'T' :: h₁ :: h₂ :: ':' :: n₁ :: n₂ :: ':' :: s₁ :: s₂ :: rest =>
    [y₁, y₂, y₃, y₄, m₁, m₂, d₁, d₂, h₁, h₂, n₁, n₂, s₁, s₂].all digit && timestampEnd digit rest
  | _ => false

def daysInMonth (year month : Nat) : Nat :=
  match month with
  | 2 => if year % 4 = 0 ∧ (year % 100 ≠ 0 ∨ year % 400 = 0) then 29 else 28
  | 4 | 6 | 9 | 11 => 30
  | _ => 31

section CapturedAt
variable (tables : UnicodeTables)

/-- The number that digits stand for. -/
def digitsValue (digits : List Char) : Nat := digits.foldl (fun n c => 10 * n + (tables.decimal c).getD 0) 0

/-- The date and the time that `strptime` accepts: where its patterns name digits, these are ASCII. -/
def calendarTime (stamp : List Char) : Bool :=
  match stamp with
  | y₁ :: y₂ :: y₃ :: y₄ :: '-' :: m₁ :: m₂ :: '-' :: d₁ :: d₂ :: 'T' :: h₁ :: h₂ :: ':' :: n₁ :: _ :: ':' :: s₁ :: _ =>
    let year := digitsValue tables [y₁, y₂, y₃, y₄]
    let month := digitsValue tables [m₁, m₂]
    let day := digitsValue tables [d₁, d₂]
    m₁.isDigit && m₂.isDigit && decide (1 ≤ month ∧ month ≤ 12) &&
      (['1', '2'].contains d₁ || (['0', '3'].contains d₁ && d₂.isDigit)) &&
      decide (1 ≤ year ∧ 1 ≤ day ∧ day ≤ daysInMonth year month) &&
      (['0', '1'].contains h₁ || (h₁ = '2' && ['0', '1', '2', '3'].contains h₂)) &&
      ['0', '1', '2', '3', '4', '5'].contains n₁ && ['0', '1', '2', '3', '4', '5'].contains s₁
  | _ => false

def isTimestamp (stamp : String) : Bool :=
  timestampShape (fun c => (tables.decimal c).isSome) stamp.toList && calendarTime tables stamp.toList

/-- `validate_captured_at` -/
def validateCapturedAt (path : String) : Json → Checked (Option String)
  | .null => .ok none
  | .str stamp =>
    if isTimestamp tables stamp then .ok (some stamp)
    else refuse codeInvalidHistoryArtifact path "captured_at must be an RFC3339 UTC timestamp"
  | _ => refuse codeInvalidHistoryArtifact path "captured_at must be an RFC3339 UTC timestamp"

end CapturedAt

/-! ### Entries and their document -/

/-- An entry as it is kept in the file, with the time it was captured. -/
structure RecordedEntry extends HistoryEntry where
  capturedAt : Option String

def HistoryOperator.toDict (o : HistoryOperator) : Json :=
  .obj ([("snapshot_path", .str o.snapshotPath)] ++
    o.observationsPath.toList.map (fun p => ("observations_path", .str p)) ++
    o.authorityPaths.toList.map (fun ps => ("authority_paths", .arr (ps.map .str))))

def RecordedEntry.toPersistedDict (e : RecordedEntry) : Json :=
  .obj ([("operator", e.operator.toDict), ("state", e.state.toIdentityDict)] ++
    e.capturedAt.toList.map (fun t => ("captured_at", .str t)))

/-- A history as it is kept in the file. -/
structure RecordedHistory where
  comparisonPolicy : ComparisonPolicy
  entries : List RecordedEntry

namespace RecordedHistory

def history (h : RecordedHistory) : GovernanceHistory := ⟨h.comparisonPolicy, h.entries.map RecordedEntry.toHistoryEntry⟩

/-- The members of the document. -/
def members (sha256 : String → String) (h : RecordedHistory) : List (String × Json) :=
  [("comparison_policy", h.comparisonPolicy.toDict), ("entries", .arr (h.entries.map RecordedEntry.toPersistedDict)),
    ("history_schema", .str historySchema), ("history_version", .str historyVersion),
    ("content_identity", (h.history.contentIdentity sha256).toDict)]

def toDict (sha256 : String → String) (h : RecordedHistory) : Json := .obj (h.members sha256)

end RecordedHistory

/-! ### The schema of history files -/

/-- The text that a pattern between `^` and `$` is matched with: a line feed at the end is passed over. -/
def lineOf (text : List Char) : List Char := if text.getLast? = some '\n' then text.dropLast else text

def contentIdentitySchema : Json → Bool := JsonSchema.object
  [⟨"algorithm", true, JsonSchema.text 1⟩, ⟨"hashing_contract_version", true, JsonSchema.text 1⟩,
    ⟨"digest", true, JsonSchema.text 1⟩]

def comparisonPolicySchema : Json → Bool := JsonSchema.object
  [⟨"align_source_roots", true, JsonSchema.boolean⟩, ⟨"align_database_roots", true, JsonSchema.boolean⟩]

def isNulPart (part : List Char) : Bool := part.map Char.toLower = ['n', 'u', 'l']

/-- The pattern of relative paths: one line, not absolute, without a drive, without a device `NUL`. -/
def relativePathPattern (text : String) : Bool :=
  let chars := lineOf text.toList
  !chars.isEmpty && !chars.contains '\n' && !isAbsolute chars &&
    !(chars.head?.any Char.isAlpha && chars[1]? = some ':') && !(chars.take 2 = ['\\', '\\']) &&
    !(chars.splitOn '/').any isNulPart

def relativePathSchema : Json → Bool := JsonSchema.matching relativePathPattern

def capturedAtSchema : Json → Bool :=
  JsonSchema.matching fun text => timestampShape Char.isDigit (lineOf text.toList)

/-- The pattern of label keys: one line that is no reserved word, whatever the case of its letters. -/
def labelKeyPattern (key : String) : Bool :=
  let chars := lineOf key.toList
  !chars.isEmpty && !chars.contains '\n' && !reservedLabelKeys.contains (String.ofList (chars.map Char.toLower))

def labelSchema (label : String × Json) : Bool :=
  1 ≤ label.1.length && label.1.length ≤ 64 && labelKeyPattern label.1 &&
    match label.2 with
    | .str value => 1 ≤ value.length && value.length ≤ 256
    | _ => false

def labelsSchema : Json → Bool
  | .obj labels => labels.length ≤ 32 && labels.all labelSchema
  | _ => false

def contextProvenanceSchema : Json → Bool := JsonSchema.object [⟨"observations", true, contentIdentitySchema⟩]

def contextFullSchema : Json → Bool := JsonSchema.object
  [⟨"observations", true, contentIdentitySchema⟩, ⟨"authority", true, contentIdentitySchema⟩,
    ⟨"conflicts", true, contentIdentitySchema⟩]

/-- A state whose context, if it may have one, is of the given form. -/
def entryStateSchema (context : List JsonSchema.Property) : Json → Bool := JsonSchema.object
  ([⟨"snapshot", true, contentIdentitySchema⟩, ⟨"labels", false, labelsSchema⟩] ++ context)

def snapshotPathProperty : JsonSchema.Property := ⟨"snapshot_path", true, relativePathSchema⟩
def observationsPathProperty : JsonSchema.Property := ⟨"observations_path", true, relativePathSchema⟩
def authorityPathsProperty : JsonSchema.Property :=
  ⟨"authority_paths", true, JsonSchema.sized 1 none relativePathSchema⟩

def entrySchema (context operator : List JsonSchema.Property) : Json → Bool := JsonSchema.object
  [⟨"state", true, entryStateSchema context⟩, ⟨"operator", true, JsonSchema.object operator⟩,
    ⟨"captured_at", false, capturedAtSchema⟩]

def entryNoContextSchema : Json → Bool := entrySchema [] [snapshotPathProperty]

def entryProvenanceSchema : Json → Bool :=
  entrySchema [⟨"context", true, contextProvenanceSchema⟩] [snapshotPathProperty, observationsPathProperty]

def entryFullSchema : Json → Bool :=
  entrySchema [⟨"context", true, contextFullSchema⟩]
    [snapshotPathProperty, observationsPathProperty, authorityPathsProperty]

def historyEntrySchema : Json → Bool :=
  JsonSchema.oneOf [entryNoContextSchema, entryProvenanceSchema, entryFullSchema]

/-- Whether the schema of histories accepts a document. -/
def historySchemaAccepts : Json → Bool := JsonSchema.object
  [⟨"history_schema", true, JsonSchema.texts [historySchema]⟩,
    ⟨"history_version", true, JsonSchema.texts [historyVersion]⟩,
    ⟨"comparison_policy", true, comparisonPolicySchema⟩, ⟨"entries", true, JsonSchema.array historyEntrySchema⟩,
    ⟨"content_identity", true, contentIdentitySchema⟩]

end CollibraGovernance.History
