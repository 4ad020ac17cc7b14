import CollibraGovernance.Collibra.Execute
import Mathlib.Algebra.Order.Ring.Rat

/-! HTTP calls with bounded retries. Seconds are exact; the transport and both clocks are the
environment of a call. -/
namespace CollibraGovernance.Collibra
open Library

structure RetryPolicy where
  maxAttempts : Int
  maxElapsedSeconds : ℚ
  initialBackoffSeconds : ℚ
  maxBackoffSeconds : ℚ

def defaultRetryPolicy : RetryPolicy := ⟨4, 60, 1 / 2, 8⟩

/-- What computing a delay can raise. -/
inductive DelayError where
  | valueError | overflowError
  deriving DecidableEq, Repr

/-- Integers from here on have no float. -/
def floatLimit : Nat := 2 ^ 1024 - 2 ^ 970

/-- `float(n)` -/
def pyFloat (n : Nat) : Except DelayError ℚ := if n < floatLimit then .ok n else .error .overflowError

/-- Exponential backoff for a failed attempt, counted from one. -/
def RetryPolicy.backoffSeconds (policy : RetryPolicy) (attempt : Nat) : Except DelayError ℚ := do
  let factor ← pyFloat (2 ^ (attempt - 1))
  return min policy.maxBackoffSeconds (policy.initialBackoffSeconds * factor)

/-- What the interpreter knows of characters and of dates in headers: `str.isdigit`, the value of a
decimal character, and the time stamp of a date. -/
structure HeaderText where
  isDigit : Char → Bool
  decimal : Char → Option Nat
  dateStamp : String → Option ℚ

def maxIntDigits : Nat := 4300

/-- `int(raw)` of a digit string -/
def pyInt (text : HeaderText) (raw : String) : Except DelayError Nat :=
  if raw.length > maxIntDigits then .error .valueError
  else
    match raw.toList.mapM text.decimal with
    | none => .error .valueError
    | some digits => .ok (digits.foldl (fun n d => 10 * n + d) 0)

/-- `parse_retry_after_seconds` -/
def parseRetryAfterSeconds (text : HeaderText) (value : Option String) (wallNow : ℚ) :
    Except DelayError (Option ℚ) :=
  match value with
  | none => .ok none
  | some value =>
    let raw := strip value
    if raw = "" then .ok none
    else if raw.toList.all text.isDigit then do
      let n ← pyInt text raw
      let delay ← pyFloat n
      return some delay
    else
      match text.dateStamp raw with
      | none => .ok none
      | some stamp => .ok (some (max 0 (stamp - wallNow)))

/-- How one attempt ends. -/
inductive TransportOutcome where
  | connectError | connectTimeout
  | readTimeout | writeTimeout | poolTimeout
  | httpError
  | raised (exception : String)
  | response (statusCode : Nat) (retryAfter : Option String)
  deriving DecidableEq

/-- How a request ends. -/
inductive RequestResult where
  | returned (statusCode : Nat) (retryAfter : Option String)
  | failed (error : CollibraAdapterError)
  | raised (exception : String)
  | delayFailed (error : DelayError)
  deriving DecidableEq

/-- The world of one request. The monotonic clock moves on by `drift n` before its `n`-th reading and
by every requested sleep. -/
structure HttpEnvironment where
  transport : Nat → TransportOutcome
  started : ℚ
  drift : Nat → ℚ
  drift_nonneg : ∀ n, 0 ≤ drift n
  wall : Nat → ℚ

/-- Attempts made, the clock and its readings so far, and the sleeps asked for. -/
structure RequestState where
  attempt : Nat
  now : ℚ
  readings : Nat
  sleeps : List ℚ

inductive AttemptStep where
  | done (result : RequestResult) (s : RequestState)
  | again (s : RequestState)

namespace CollibraHttpExecutor

def endpointFamily : String := "core_rest"

/-- `_transport_error` -/
def transportError (op path : String) (attempt : Nat) (exhausted : Bool) : RequestResult :=
  .failed ⟨"HTTP transport error", op, none, some path, some endpointFamily, some attempt, some exhausted⟩

/-- `_http_error` -/
def httpError (op path : String) (statusCode attempt : Nat) (exhausted : Bool) : RequestResult :=
  .failed ⟨"Collibra API request failed", op, some statusCode, some path, some endpointFamily, some attempt,
    some exhausted⟩

def isWrite (method : String) : Bool := ["POST", "PATCH", "PUT", "DELETE"].contains method.toUpper

section Call
variable (policy : RetryPolicy) (text : HeaderText) (env : HttpEnvironment)

/-- One reading of the monotonic clock. -/
def monotonic (s : RequestState) : ℚ × RequestState :=
  (s.now + env.drift s.readings, { s with now := s.now + env.drift s.readings, readings := s.readings + 1 })

def sleep (s : RequestState) (delay : ℚ) : RequestState :=
  { s with now := s.now + max 0 delay, sleeps := s.sleeps ++ [delay] }

/-- `_should_retry` -/
def shouldRetry (s : RequestState) : Bool × RequestState :=
  if (s.attempt : Int) ≥ policy.maxAttempts then (false, s)
  else
    let reading := monotonic env s
    (decide (reading.1 - env.started < policy.maxElapsedSeconds), reading.2)

/-- `_cap_delay` -/
def capDelay (delay : ℚ) (s : RequestState) : Option ℚ × RequestState :=
  let reading := monotonic env s
  let remaining := policy.maxElapsedSeconds - (reading.1 - env.started)
  (if remaining ≤ 0 then none else some (min delay remaining), reading.2)

/-- Another attempt after a backoff, or the given end when no attempt is left. -/
def retryAfterBackoff (exhausted : RequestResult) (s : RequestState) : AttemptStep :=
  match shouldRetry policy env s with
  | (false, s) => .done exhausted s
  | (true, s) =>
    match policy.backoffSeconds s.attempt with
    | .error e => .done (.delayFailed e) s
    | .ok delay =>
      match capDelay policy env delay s with
      | (capped, s) => .again (sleep s (capped.getD 0))

/-- The delay after a refusal: the header's, or else the backoff's. -/
def refusalDelay (retryAfter : Option String) (attempt : Nat) : Except DelayError ℚ := do
  match ← parseRetryAfterSeconds text retryAfter (env.wall attempt) with
  | some delay => return delay
  | none => policy.backoffSeconds attempt

/-- Another attempt after a refusal, or the given end when no attempt or no time is left. -/
def retryAfterRefusal (retryAfter : Option String) (exhausted : RequestResult) (s : RequestState) :
    AttemptStep :=
  match shouldRetry policy env s with
  | (false, s) => .done exhausted s
  | (true, s) =>
    match refusalDelay policy text env retryAfter s.attempt with
    | .error e => .done (.delayFailed e) s
    | .ok delay =>
      match capDelay policy env delay s with
      | (none, s) => .done exhausted s
      | (some capped, s) => .again (sleep s capped)

/-- One pass through the loop of `request`. The clock is read before the attempt and for its record. -/
def attemptOnce (method op path : String) (s : RequestState) : AttemptStep :=
  let s := (monotonic env { s with attempt := s.attempt + 1 }).2
  let recorded := (monotonic env s).2
  match env.transport s.attempt with
  | .raised exception => .done (.raised exception) s
  | .connectError => retryAfterBackoff policy env (transportError op path s.attempt true) recorded
  | .connectTimeout => retryAfterBackoff policy env (transportError op path s.attempt true) recorded
  | .readTimeout | .writeTimeout | .poolTimeout =>
    if isWrite method then .done (transportError op path s.attempt false) recorded
    else retryAfterBackoff policy env (transportError op path s.attempt true) recorded
  | .httpError => .done (transportError op path s.attempt false) recorded
  | .response statusCode retryAfter =>
    if statusCode = 429 then
      retryAfterRefusal policy text env retryAfter (httpError op path 429 s.attempt true) recorded
    else if 500 ≤ statusCode ∧ statusCode ≤ 599 then
      if isWrite method then .done (httpError op path statusCode s.attempt false) recorded
      else retryAfterBackoff policy env (httpError op path statusCode s.attempt true) recorded
    else .done (.returned statusCode retryAfter) recorded

/-- The loop of `request`, for at most as many passes. -/
def requestLoop (method op path : String) : Nat → RequestState → Option (RequestResult × RequestState)
  | 0, _ => none
  | passes + 1, s =>
    match attemptOnce policy text env method op path s with
    | .done result s => some (result, s)
    | .again s => requestLoop method op path passes s

/-- `request` -/
def request (method op path : String) : Option (RequestResult × RequestState) :=
  requestLoop policy text env method op path (max 1 policy.maxAttempts).toNat ⟨0, env.started, 0, []⟩

end Call
end CollibraHttpExecutor
end CollibraGovernance.Collibra
