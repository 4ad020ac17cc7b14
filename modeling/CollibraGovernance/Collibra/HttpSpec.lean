import CollibraGovernance.Collibra.Http
import Mathlib.Tactic.Linarith

/-! Retries are bounded in number and in time, and never repeat a write that may have been processed. -/
namespace CollibraGovernance.Collibra
open Library

/-- The outcomes after which a request may be sent again: for a write only those that show it was not
processed. -/
def TransportOutcome.Retryable (write : Bool) : TransportOutcome → Prop
  | .connectError | .connectTimeout => True
  | .readTimeout | .writeTimeout | .poolTimeout => write = false
  | .httpError | .raised _ => False
  | .response statusCode _ => statusCode = 429 ∨ write = false ∧ 500 ≤ statusCode ∧ statusCode ≤ 599

namespace CollibraHttpExecutor

/-- How a request ends that ends with an outcome. -/
def outcomeResult (op path : String) (attempt : Nat) (exhausted : Bool) : TransportOutcome → RequestResult
  | .raised exception => .raised exception
  | .response statusCode retryAfter =>
    if statusCode = 429 ∨ 500 ≤ statusCode ∧ statusCode ≤ 599 then httpError op path statusCode attempt exhausted
    else .returned statusCode retryAfter
  | _ => transportError op path attempt exhausted

/-- Seconds asked for altogether. -/
def totalSleep : List ℚ → ℚ
  | [] => 0
  | delay :: rest => delay + totalSleep rest

lemma totalSleep_append_singleton (sleeps : List ℚ) (delay : ℚ) :
    totalSleep (sleeps ++ [delay]) = totalSleep sleeps + delay := by
  induction sleeps with
  | nil => simp [totalSleep]
  | cons d rest ih =>
    rw [List.cons_append, totalSleep, totalSleep, ih, add_assoc]

section Clock
variable {policy : RetryPolicy} {env : HttpEnvironment} {s s' s'' : RequestState}

/-- Time may have passed, and nothing else has happened. -/
structure Later (s s' : RequestState) : Prop where
  attempt : s'.attempt = s.attempt
  sleeps : s'.sleeps = s.sleeps
  now : s.now ≤ s'.now

lemma Later.trans (h : Later s s') (h' : Later s' s'') : Later s s'' :=
  ⟨h'.attempt.trans h.attempt, h'.sleeps.trans h.sleeps, h.now.trans h'.now⟩

lemma later_monotonic (s : RequestState) : Later s (monotonic env s).2 :=
  ⟨rfl, rfl, le_add_of_nonneg_right (env.drift_nonneg _)⟩

lemma later_shouldRetry (s : RequestState) : Later s (shouldRetry policy env s).2 := by
  unfold shouldRetry
  split_ifs
  · exact ⟨rfl, rfl, le_refl _⟩
  · exact later_monotonic s

lemma attempt_lt_of_shouldRetry (h : (shouldRetry policy env s).1 = true) :
    (s.attempt : Int) < policy.maxAttempts := by
  unfold shouldRetry at h
  split_ifs at h with hlimit
  omega

/-- The sleeps so far fit into the time that has passed and into the budget. -/
structure Within (policy : RetryPolicy) (env : HttpEnvironment) (s : RequestState) : Prop where
  elapsed : totalSleep s.sleeps ≤ s.now - env.started
  budget : totalSleep s.sleeps ≤ max 0 policy.maxElapsedSeconds

lemma Within.later (h : Within policy env s) (hlater : Later s s') : Within policy env s' := by
  have hnow := hlater.now
  have helapsed := h.elapsed
  refine ⟨?_, ?_⟩
  · rw [hlater.sleeps]
    linarith
  · rw [hlater.sleeps]
    exact h.budget

lemma Within.sleep (h : Within policy env s) {delay : ℚ}
    (hdelay : delay ≤ policy.maxElapsedSeconds - (s.now - env.started) ∨ delay = 0) :
    Within policy env (sleep s delay) := by
  have helapsed := h.elapsed
  have hself := le_max_right 0 delay
  refine ⟨?_, ?_⟩
  · change totalSleep (s.sleeps ++ [delay]) ≤ s.now + max 0 delay - env.started
    rw [totalSleep_append_singleton]
    linarith
  · change totalSleep (s.sleeps ++ [delay]) ≤ _
    rw [totalSleep_append_singleton]
    rcases hdelay with hdelay | rfl
    · exact le_trans (by linarith) (le_max_right 0 policy.maxElapsedSeconds)
    · rw [add_zero]
      exact h.budget

lemma later_capDelay (delay : ℚ) (s : RequestState) : Later s (capDelay policy env delay s).2 :=
  later_monotonic s

lemma capDelay_le {delay capped : ℚ} (h : (capDelay policy env delay s).1 = some capped) :
    capped ≤ policy.maxElapsedSeconds - ((capDelay policy env delay s).2.now - env.started) := by
  simp only [capDelay] at h ⊢
  split_ifs at h
  rw [← Option.some_inj.mp h]
  exact min_le_right ..

/-- What may come of an attempt that calls for another one. -/
def Retried (policy : RetryPolicy) (env : HttpEnvironment) (exhausted : RequestResult) (s : RequestState) :
    AttemptStep → Prop
  | .done result s' => Later s s' ∧ (result = exhausted ∨ ∃ e, result = .delayFailed e)
  | .again s' => s'.attempt = s.attempt ∧ (s.attempt : Int) < policy.maxAttempts ∧
      (Within policy env s → Within policy env s')

lemma retryAfterBackoff_retried (exhausted : RequestResult) (s : RequestState) :
    Retried policy env exhausted s (retryAfterBackoff policy env exhausted s) := by
  have hlater := @later_shouldRetry policy env s
  have hlimit := @attempt_lt_of_shouldRetry policy env s
  unfold retryAfterBackoff
  rcases hretry : shouldRetry policy env s with ⟨_ | _, s₁⟩
  · rw [hretry] at hlater
    dsimp only [Retried]
    exact ⟨hlater, Or.inl rfl⟩
  · rw [hretry] at hlater hlimit
    dsimp only
    cases hdelay : policy.backoffSeconds s₁.attempt with
    | error e =>
      dsimp only [Retried]
      exact ⟨hlater, Or.inr ⟨e, rfl⟩⟩
    | ok delay =>
      have hcap := @later_capDelay policy env delay s₁
      have hle := @capDelay_le policy env s₁ delay
      dsimp only [Retried]
      refine ⟨(hlater.trans hcap).attempt, hlimit rfl, fun hwithin => ?_⟩
      refine Within.sleep (hwithin.later (hlater.trans hcap)) ?_
      cases hcapped : (capDelay policy env delay s₁).1 with
      | none => exact Or.inr rfl
      | some capped => exact Or.inl (hle hcapped)

lemma retryAfterRefusal_retried {text : HeaderText} {retryAfter : Option String} (exhausted : RequestResult)
    (s : RequestState) :
    Retried policy env exhausted s (retryAfterRefusal policy text env retryAfter exhausted s) := by
  have hlater := @later_shouldRetry policy env s
  have hlimit := @attempt_lt_of_shouldRetry policy env s
  unfold retryAfterRefusal
  rcases hretry : shouldRetry policy env s with ⟨_ | _, s₁⟩
  · rw [hretry] at hlater
    dsimp only [Retried]
    exact ⟨hlater, Or.inl rfl⟩
  · rw [hretry] at hlater hlimit
    dsimp only
    cases hdelay : refusalDelay policy text env retryAfter s₁.attempt with
    | error e =>
      dsimp only [Retried]
      exact ⟨hlater, Or.inr ⟨e, rfl⟩⟩
    | ok delay =>
      have hcap := @later_capDelay policy env delay s₁
      have hle := @capDelay_le policy env s₁ delay
      dsimp only
      rcases hcapped : capDelay policy env delay s₁ with ⟨_ | capped, s₂⟩ <;> rw [hcapped] at hcap hle <;>
        dsimp only [Retried]
      · exact ⟨hlater.trans hcap, Or.inl rfl⟩
      · refine ⟨(hlater.trans hcap).attempt, hlimit rfl, fun hwithin => ?_⟩
        exact Within.sleep (hwithin.later (hlater.trans hcap)) (Or.inl (hle rfl))

end Clock

section Attempt
variable {policy : RetryPolicy} {text : HeaderText} {env : HttpEnvironment} {method op path : String}
variable {s : RequestState}

/-- What one attempt with a given outcome comes to. -/
def Attempted (policy : RetryPolicy) (env : HttpEnvironment) (method op path : String) (s : RequestState)
    (outcome : TransportOutcome) : AttemptStep → Prop
  | .done result s' => s'.attempt = s.attempt + 1 ∧ s'.sleeps = s.sleeps ∧
      ((∃ exhausted, result = outcomeResult op path (s.attempt + 1) exhausted outcome) ∨
        ∃ e, result = .delayFailed e)
  | .again s' => s'.attempt = s.attempt + 1 ∧ (s'.attempt : Int) < policy.maxAttempts ∧
      outcome.Retryable (isWrite method) ∧ (Within policy env s → Within policy env s')

lemma attempted_of_retried {outcome : TransportOutcome} {exhausted : RequestResult} {s₁ : RequestState}
    {step : AttemptStep} (hattempt : Later { s with attempt := s.attempt + 1 } s₁)
    (houtcome : outcome.Retryable (isWrite method))
    (hexhausted : ∃ b, exhausted = outcomeResult op path (s.attempt + 1) b outcome)
    (h : Retried policy env exhausted s₁ step) : Attempted policy env method op path s outcome step := by
  have hwithin : Within policy env s → Within policy env s₁ := by
    intro hs
    exact Within.later (s := { s with attempt := s.attempt + 1 }) ⟨hs.elapsed, hs.budget⟩ hattempt
  cases step with
  | done result s' =>
    obtain ⟨hlater, hresult⟩ := h
    refine ⟨(hattempt.trans hlater).attempt, (hattempt.trans hlater).sleeps, ?_⟩
    rcases hresult with rfl | hresult
    · exact Or.inl hexhausted
    · exact Or.inr hresult
  | again s' =>
    obtain ⟨hsame, hlimit, hkeeps⟩ := h
    exact ⟨hsame.trans hattempt.attempt, hsame ▸ hlimit, houtcome, fun hs => hkeeps (hwithin hs)⟩

lemma attempted_of_end {outcome : TransportOutcome} {result : RequestResult} {s₁ : RequestState}
    (hattempt : Later { s with attempt := s.attempt + 1 } s₁)
    (hresult : ∃ b, result = outcomeResult op path (s.attempt + 1) b outcome) :
    Attempted policy env method op path s outcome (.done result s₁) :=
  ⟨hattempt.attempt, hattempt.sleeps, Or.inl hresult⟩

/-- Every attempt either ends the request with its outcome or calls for another one that is allowed. -/
theorem attemptOnce_attempted (s : RequestState) : Attempted policy env method op path s
    (env.transport (s.attempt + 1)) (attemptOnce policy text env method op path s) := by
  have hfirst := @later_monotonic env { s with attempt := s.attempt + 1 }
  have hrecorded := hfirst.trans (@later_monotonic env _)
  have hnumber : (monotonic env { s with attempt := s.attempt + 1 }).2.attempt = s.attempt + 1 := rfl
  simp only [attemptOnce, hnumber]
  cases houtcome : env.transport (s.attempt + 1) with
  | raised exception => exact attempted_of_end hfirst ⟨true, rfl⟩
  | httpError => exact attempted_of_end hrecorded ⟨false, rfl⟩
  | connectError =>
    exact attempted_of_retried hrecorded trivial ⟨true, rfl⟩ (retryAfterBackoff_retried _ _)
  | connectTimeout =>
    exact attempted_of_retried hrecorded trivial ⟨true, rfl⟩ (retryAfterBackoff_retried _ _)
  | response statusCode retryAfter =>
    dsimp only
    split_ifs with hrefused hserver hwrite
    · subst hrefused
      exact attempted_of_retried hrecorded (Or.inl rfl) ⟨true, by simp [outcomeResult]⟩
        (retryAfterRefusal_retried _ _)
    · exact attempted_of_end hrecorded ⟨false, by simp [outcomeResult, hserver]⟩
    · exact attempted_of_retried hrecorded (Or.inr ⟨by simpa using hwrite, hserver⟩)
        ⟨true, by simp [outcomeResult, hserver]⟩ (retryAfterBackoff_retried _ _)
    · exact attempted_of_end hrecorded ⟨false, by simp [outcomeResult, hrefused, hserver]⟩
  | _ =>
    dsimp only
    split_ifs with hwrite
    · exact attempted_of_end hrecorded ⟨false, rfl⟩
    · exact attempted_of_retried hrecorded (by simpa using hwrite : isWrite method = false) ⟨true, rfl⟩
        (retryAfterBackoff_retried _ _)

/-- How a request that is given enough passes ends. -/
structure Ended (policy : RetryPolicy) (env : HttpEnvironment) (method op path : String) (s : RequestState)
    (result : RequestResult) (s' : RequestState) : Prop where
  attempted : s.attempt < s'.attempt
  attempts : (s'.attempt : Int) ≤ max ((s.attempt : Int) + 1) policy.maxAttempts
  sleeps : Within policy env s → totalSleep s'.sleeps ≤ max 0 policy.maxElapsedSeconds
  retried : ∀ k, s.attempt < k → k < s'.attempt → (env.transport k).Retryable (isWrite method)
  last : (∃ exhausted, result = outcomeResult op path s'.attempt exhausted (env.transport s'.attempt)) ∨
    ∃ e, result = .delayFailed e

theorem requestLoop_ended (passes : Nat) (s : RequestState)
    (henough : policy.maxAttempts ≤ (s.attempt : Int) + (passes + 1)) : ∃ result s',
      requestLoop policy text env method op path (passes + 1) s = some (result, s') ∧
        Ended policy env method op path s result s' := by
  induction passes generalizing s with
  | zero =>
    have hstep := @attemptOnce_attempted policy text env method op path s
    simp only [requestLoop]
    cases hattempt : attemptOnce policy text env method op path s with
    | done result s' =>
      rw [hattempt] at hstep
      obtain ⟨hnumber, hsleeps, hresult⟩ := hstep
      refine ⟨result, s', rfl, ⟨by omega, by omega, fun hs => hsleeps ▸ hs.budget, ?_, hnumber ▸ hresult⟩⟩
      intro k hk hk'
      omega
    | again s' =>
      rw [hattempt] at hstep
      obtain ⟨hnumber, hlimit, -⟩ := hstep
      omega
  | succ passes ih =>
    have hstep := @attemptOnce_attempted policy text env method op path s
    rw [requestLoop]
    cases hattempt : attemptOnce policy text env method op path s with
    | done result s' =>
      rw [hattempt] at hstep
      obtain ⟨hnumber, hsleeps, hresult⟩ := hstep
      refine ⟨result, s', rfl, ⟨by omega, by omega, fun hs => hsleeps ▸ hs.budget, ?_, hnumber ▸ hresult⟩⟩
      intro k hk hk'
      omega
    | again s₁ =>
      rw [hattempt] at hstep
      obtain ⟨hnumber, hlimit, hretryable, hkeeps⟩ := hstep
      obtain ⟨result, s', hloop, hended⟩ := ih s₁ (by rw [hnumber]; push_cast at henough ⊢; omega)
      have hlast := hended.attempts
      have hlater := hended.attempted
      refine ⟨result, s', hloop, ⟨by omega, by omega, fun hs => hended.sleeps (hkeeps hs), ?_, hended.last⟩⟩
      intro k hk hk'
      by_cases hfirst : k = s.attempt + 1
      · rw [hfirst]
        exact hretryable
      · exact hended.retried k (by omega) hk'

/-- Every request ends. It makes no more attempts than the policy allows, and at least one; it sleeps no
longer than the policy allows; it is sent again only after an outcome that calls for it, which for a
write shows that it was not processed; and it ends with the outcome of its last attempt, unless the
delay before the next one cannot be computed. -/
theorem request_bounded (policy : RetryPolicy) (text : HeaderText) (env : HttpEnvironment)
    (method op path : String) : ∃ result s,
      request policy text env method op path = some (result, s) ∧
      1 ≤ s.attempt ∧ (s.attempt : Int) ≤ max 1 policy.maxAttempts ∧
      totalSleep s.sleeps ≤ max 0 policy.maxElapsedSeconds ∧
      (∀ k, 1 ≤ k → k < s.attempt → (env.transport k).Retryable (isWrite method)) ∧
      ((∀ e, result ≠ .delayFailed e) →
        ∃ exhausted, result = outcomeResult op path s.attempt exhausted (env.transport s.attempt)) := by
  obtain ⟨passes, hpasses⟩ : ∃ passes, (max 1 policy.maxAttempts).toNat = passes + 1 := by
    refine ⟨(max 1 policy.maxAttempts).toNat - 1, ?_⟩
    omega
  obtain ⟨result, s, hloop, hended⟩ := @requestLoop_ended policy text env method op path passes
    ⟨0, env.started, 0, []⟩ (by push_cast; omega)
  have hstart : Within policy env ⟨0, env.started, 0, []⟩ :=
    ⟨by simp [totalSleep], by simp [totalSleep]⟩
  have hattempts := hended.attempts
  refine ⟨result, s, ?_, hended.attempted, by simpa using hattempts, hended.sleeps hstart,
    fun k hk hk' => hended.retried k hk hk', ?_⟩
  · rw [request, hpasses, hloop]
  · intro hcomputed
    exact hended.last.resolve_right (fun ⟨e, he⟩ => hcomputed e he)

/-- A policy without attempts still makes one. -/
theorem no_attempts_makes_one : ∃ policy text env result s,
    request policy text env "GET" "get" "/rest/2.0/assets" = some (result, s) ∧
      ¬ (s.attempt : Int) ≤ policy.maxAttempts := by
  refine ⟨⟨0, 60, 1 / 2, 8⟩, ⟨fun _ => false, fun _ => none, fun _ => none⟩,
    ⟨fun _ => .response 200 none, 0, fun _ => 0, fun _ => le_refl 0, fun _ => 0⟩, .returned 200 none, ?_⟩
  exact ⟨_, rfl, by decide⟩

end Attempt
end CollibraHttpExecutor

/-! ### The header of a delay -/

/-- Digits that are read as a number: decimal ones, as many as an integer may have, and below the floats' limit. -/
def ReadableDigits (text : HeaderText) (raw : String) : Prop :=
  raw.length ≤ maxIntDigits ∧
    ∃ digits, raw.toList.mapM text.decimal = some digits ∧ digits.foldl (fun n d => 10 * n + d) 0 < floatLimit

lemma pyFloat_pyInt_ok {text : HeaderText} {raw : String} :
    (∃ n delay, pyInt text raw = .ok n ∧ pyFloat n = .ok delay) ↔ ReadableDigits text raw := by
  unfold pyInt pyFloat ReadableDigits
  constructor
  · rintro ⟨n, delay, hint, hfloat⟩
    split_ifs at hint hfloat with hlength hlimit
    cases hdigits : raw.toList.mapM text.decimal with
    | none =>
      rw [hdigits] at hint
      cases hint
    | some digits =>
      rw [hdigits] at hint
      cases hint
      exact ⟨Nat.not_lt.mp hlength, digits, rfl, hlimit⟩
  · rintro ⟨hlength, digits, hdigits, hlimit⟩
    refine ⟨_, _, ?_, if_pos hlimit⟩
    rw [if_neg (Nat.not_lt.mpr hlength), hdigits]

/-- Parsing a header ends in no delay or one that is not negative exactly where a header of digits is readable. -/
theorem parseRetryAfterSeconds_total_iff (text : HeaderText) (value : Option String) (wallNow : ℚ) :
    (∃ delay, parseRetryAfterSeconds text value wallNow = .ok delay ∧ ∀ seconds ∈ delay, 0 ≤ seconds) ↔
      ∀ header, value = some header → strip header ≠ "" → (strip header).toList.all text.isDigit = true →
        ReadableDigits text (strip header) := by
  cases value with
  | none =>
    refine ⟨?_, fun _ => ⟨none, rfl, fun seconds h => absurd h (Option.not_mem_none seconds)⟩⟩
    rintro - header ⟨⟩
  | some header =>
    simp only [Option.some.injEq, forall_eq', parseRetryAfterSeconds]
    by_cases hempty : strip header = ""
    · rw [if_pos hempty]
      refine ⟨fun _ h => absurd hempty h, fun _ => ⟨none, rfl, fun seconds h => ?_⟩⟩
      exact absurd h (Option.not_mem_none seconds)
    · rw [if_neg hempty]
      by_cases hdigits : (strip header).toList.all text.isDigit = true
      · rw [if_pos hdigits]
        simp only [hempty, hdigits, ne_eq, not_false_eq_true, true_implies]
        rw [← pyFloat_pyInt_ok]
        constructor
        · rintro ⟨delay, hdelay, -⟩
          obtain ⟨n, hn, hrest⟩ := bind_eq_ok.mp hdelay
          obtain ⟨seconds, hseconds, -⟩ := bind_eq_ok.mp hrest
          exact ⟨n, seconds, hn, hseconds⟩
        · rintro ⟨n, seconds, hn, hseconds⟩
          refine ⟨some seconds, ?_, ?_⟩
          · rw [hn, ok_bind, hseconds]
            rfl
          · rintro s ⟨⟩
            unfold pyFloat at hseconds
            split_ifs at hseconds
            cases hseconds
            exact Nat.cast_nonneg n
      · rw [if_neg hdigits]
        refine ⟨fun _ _ h => absurd h hdigits, fun _ => ?_⟩
        cases text.dateStamp (strip header) with
        | none => exact ⟨none, rfl, fun seconds h => absurd h (Option.not_mem_none seconds)⟩
        | some stamp =>
          refine ⟨some (max 0 (stamp - wallNow)), rfl, ?_⟩
          rintro seconds ⟨⟩
          exact le_max_left _ _

/-- The decimal digits and the superscript two, which is a digit without a decimal value. -/
def superscriptText : HeaderText where
  isDigit c := c.isDigit || c = '²'
  decimal c := if c.isDigit then some (c.toNat - '0'.toNat) else none
  dateStamp _ := none

/-- A header of one such digit raises. -/
theorem superscript_raises : parseRetryAfterSeconds superscriptText (some "²") 0 = .error .valueError := rfl

end CollibraGovernance.Collibra
