import CollibraGovernance.Library.PyJson
import CollibraGovernance.Library.Text
import Mathlib.Algebra.Order.Floor.Ring
import Mathlib.Data.Rat.Floor

/-! Job states as the service reports them, and polling a job under a time bound. Seconds are exact; the
fetched payloads and the clock are the environment of a poll. -/
namespace CollibraGovernance.Collibra
open Library

/-- Poll timings that were accepted. -/
structure JobPollingPolicy where
  intervalSeconds : ℚ
  timeoutSeconds : ℚ
  interval_pos : 0 < intervalSeconds
  interval_le : intervalSeconds ≤ timeoutSeconds

/-- `validate_job_polling_policy`; exact seconds are finite. -/
def validateJobPollingPolicy (intervalSeconds timeoutSeconds : ℚ) : Except String JobPollingPolicy :=
  if hi : intervalSeconds ≤ 0 then .error "interval_seconds must be a finite positive number"
  else if timeoutSeconds ≤ 0 then .error "timeout_seconds must be a finite positive number"
  else if ht : timeoutSeconds < intervalSeconds then .error "timeout_seconds must be >= interval_seconds"
  else .ok ⟨intervalSeconds, timeoutSeconds, not_le.mp hi, not_lt.mp ht⟩

inductive NormalizedState where
  | nonTerminal | terminalSuccess | terminalFailure | cancelled | uncertain | unknown | timeout
  deriving DecidableEq

inductive NormalizedOutcome where
  | success | completedWithError | failure | aborted | cancelled | unknown | uncertain | timeout
  deriving DecidableEq

/-- What is kept of a job; never a response body. -/
structure JobView where
  jobId : Option String
  remoteState : Option String
  remoteResult : Option String
  normalizedState : NormalizedState
  normalizedOutcome : Option NormalizedOutcome
  deriving DecidableEq

def nonTerminalStates : List String := ["WAITING", "RUNNING", "CANCELING"]
def remoteStates : List String := ["WAITING", "RUNNING", "CANCELING", "COMPLETED", "CANCELED", "ERROR"]
def remoteResults : List String := ["NOT_SET", "SUCCESS", "COMPLETED_WITH_ERROR", "FAILURE", "ABORTED"]

def isTerminalSuccess (view : JobView) : Bool :=
  view.normalizedState = .terminalSuccess && view.normalizedOutcome = some .success

/-- A text member, without the white space around it. -/
def strippedText (members : List (String × Json)) (key : String) : Option String :=
  match Json.get members key with
  | .str s => some (strip s)
  | _ => none

section Classify
variable (isPrintable : Char → Bool)

/-- `str(payload.get("id") or job_id or "") or None` -/
def remoteId (members : List (String × Json)) (jobId : Option String) : Option String :=
  let id := Json.get members "id"
  let text := if id.truthy then id.pyStr isPrintable else jobId.getD ""
  if text = "" then none else some text

/-- The end of a job from its result, once the state is `COMPLETED`. -/
def completedAs (result : Option String) : NormalizedState × NormalizedOutcome :=
  match result with
  | none => (.uncertain, .uncertain)
  | some result =>
    if result = "" ∨ result = "NOT_SET" then (.uncertain, .uncertain)
    else if result ∉ remoteResults then (.unknown, .unknown)
    else if result = "SUCCESS" then (.terminalSuccess, .success)
    else if result = "COMPLETED_WITH_ERROR" then (.terminalFailure, .completedWithError)
    else if result = "ABORTED" then (.terminalFailure, .aborted)
    else (.terminalFailure, .failure)

/-- The normalized state and outcome of a reported state and result. -/
def normalizedAs (state result : Option String) : NormalizedState × Option NormalizedOutcome :=
  match state with
  | none => (.uncertain, some .uncertain)
  | some state =>
    if state = "" then (.uncertain, some .uncertain)
    else if state ∉ remoteStates then (.unknown, some .unknown)
    else if state ∈ nonTerminalStates then (.nonTerminal, none)
    else if state = "CANCELED" then (.cancelled, some .cancelled)
    else if state = "ERROR" then (.terminalFailure, some .failure)
    else ((completedAs result).1, some (completedAs result).2)

def classifyJob (payload : Json) (jobId : Option String) : JobView :=
  match payload with
  | .obj members =>
    let state := strippedText members "state"
    let result := strippedText members "result"
    ⟨remoteId isPrintable members jobId, state, result, (normalizedAs state result).1,
      (normalizedAs state result).2⟩
  | _ => ⟨jobId, none, none, .uncertain, some .uncertain⟩

end Classify

def timeoutView (previous : Option JobView) : JobView where
  jobId := previous.bind JobView.jobId
  remoteState := previous.bind JobView.remoteState
  remoteResult := previous.bind JobView.remoteResult
  normalizedState := .timeout
  normalizedOutcome := some .timeout

/-- The world of one poll: what the `n`-th fetch gives, and how far the clock has moved on when it is read
for the `n`-th time, beyond the sleeps asked for. -/
structure PollEnvironment (ε : Type) where
  fetch : Nat → Except ε Json
  started : ℚ
  drift : Nat → ℚ
  drift_nonneg : ∀ n, 0 ≤ drift n

/-- One fetch: the seconds elapsed when it was started, and what it gave. -/
structure Fetch (ε : Type) where
  elapsed : ℚ
  answer : Except ε Json

structure PollState (ε : Type) where
  now : ℚ
  readings : Nat
  fetches : List (Fetch ε)

/-- How a poll ends. -/
inductive PollEnd (ε : Type) where
  | returned (view : JobView)
  | raised (exception : ε)

inductive PollStep (ε : Type) where
  | done (result : PollEnd ε) (s : PollState ε)
  | again (last : JobView) (s : PollState ε)

section Poll
variable {ε : Type} (isPrintable : Char → Bool) (env : PollEnvironment ε) (policy : JobPollingPolicy)
  (jobId : String)

/-- The state after one reading of the clock; the reading is its `now`. -/
def PollState.read (s : PollState ε) : PollState ε :=
  { s with now := s.now + env.drift s.readings, readings := s.readings + 1 }

def PollState.fetched (s : PollState ε) (started : ℚ) : PollState ε :=
  { s with fetches := s.fetches ++ [⟨s.now - started, env.fetch s.fetches.length⟩] }

def PollState.slept (s : PollState ε) (delay : ℚ) : PollState ε := { s with now := s.now + delay }

/-- What follows a fetch that gave a payload. -/
def afterPayload (started : ℚ) (payload : Json) (s : PollState ε) : PollStep ε :=
  let last := classifyJob isPrintable payload (some jobId)
  if last.normalizedState ≠ .nonTerminal then .done (.returned last) s
  else
    let s := s.read env
    let remaining := policy.timeoutSeconds - (s.now - started)
    if remaining ≤ 0 then .done (.returned (timeoutView (some last))) s
    else .again last (s.slept (min policy.intervalSeconds remaining))

/-- One pass through the loop. -/
def pollOnce (started : ℚ) (last : Option JobView) (s : PollState ε) : PollStep ε :=
  let s := s.read env
  if s.now - started ≥ policy.timeoutSeconds then .done (.returned (timeoutView last)) s
  else
    match env.fetch s.fetches.length with
    | .error exception => .done (.raised exception) (s.fetched env started)
    | .ok payload => afterPayload isPrintable env policy jobId started payload (s.fetched env started)

/-- The loop, for at most `fuel` passes. -/
def pollLoop (started : ℚ) : Nat → Option JobView → PollState ε → Option (PollEnd ε × PollState ε)
  | 0, _, _ => none
  | fuel + 1, last, s =>
    match pollOnce isPrintable env policy jobId started last s with
    | .done result s => some (result, s)
    | .again last s => pollLoop started fuel (some last) s

end Poll

/-- `poll_until_terminal`; `none` when the loop has not ended after `fuel` passes. -/
def pollUntilTerminal {ε : Type} (isPrintable : Char → Bool) (env : PollEnvironment ε) (jobId : String)
    (intervalSeconds timeoutSeconds : ℚ) (fuel : Nat) :
    Except String (Option (PollEnd ε × PollState ε)) := do
  let policy ← validateJobPollingPolicy intervalSeconds timeoutSeconds
  let s : PollState ε := ⟨env.started, 0, []⟩
  if isBlank jobId then .ok (some (.returned ⟨none, none, none, .uncertain, some .uncertain⟩, s))
  else .ok (pollLoop isPrintable env policy jobId (s.read env).now fuel none (s.read env))

end CollibraGovernance.Collibra
