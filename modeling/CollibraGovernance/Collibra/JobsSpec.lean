import CollibraGovernance.Collibra.Jobs
import CollibraGovernance.Library.Outcome
import Mathlib.Tactic.Linarith

/-! Polling ends within its bound and confirms a job only on a completed, successful payload. -/
namespace CollibraGovernance.Collibra
open Library

/-- The job is reported as waiting, running or being cancelled. -/
def Pending (payload : Json) : Prop :=
  ∃ members state, payload = .obj members ∧ strippedText members "state" = some state ∧
    state ∈ nonTerminalStates

/-- The job is reported as completed with success. -/
def Succeeded (payload : Json) : Prop :=
  ∃ members, payload = .obj members ∧ strippedText members "state" = some "COMPLETED" ∧
    strippedText members "result" = some "SUCCESS"

/-! ### Classification -/

section Classify
variable {isPrintable : Char → Bool} {payload : Json} {jobId : Option String}

lemma completedAs_ne (result : Option String) : (completedAs result).1 ≠ .nonTerminal := by
  unfold completedAs
  split
  · simp
  · split_ifs <;> simp

lemma normalizedAs_nonTerminal {state result : Option String} :
    (normalizedAs state result).1 = .nonTerminal ↔ ∃ s, state = some s ∧ s ∈ nonTerminalStates := by
  cases state with
  | none => simp [normalizedAs]
  | some s =>
    have hempty : "" ∉ nonTerminalStates := by decide
    have hremote : ∀ s ∈ nonTerminalStates, s ∈ remoteStates := by decide
    rw [normalizedAs]
    split_ifs with h1 h2 h3 h4 h5
    · subst h1
      simp [hempty]
    · simp [h3]
    · simp [h3]
    · simp [h3]
    · simp [h3, completedAs_ne]
    · have hnot : s ∉ nonTerminalStates := fun h => h2 (hremote s h)
      simp [hnot]

lemma completedAs_success {result : Option String} :
    completedAs result = (.terminalSuccess, .success) ↔ result = some "SUCCESS" := by
  cases result with
  | none => simp [completedAs]
  | some result =>
    have hsuccess : "SUCCESS" ∈ remoteResults := by decide
    rw [completedAs]
    split_ifs with h1 h2 h3 h4 h5
    · rcases h1 with rfl | rfl <;> simp
    · simp [h3]
    · simp [h3]
    · simp [h3]
    · simp [h3]
    · have hne : result ≠ "SUCCESS" := fun h => h2 (h ▸ hsuccess)
      simp [hne]

lemma normalizedAs_success {state result : Option String} :
    normalizedAs state result = (.terminalSuccess, some .success) ↔
      state = some "COMPLETED" ∧ result = some "SUCCESS" := by
  cases state with
  | none => simp [normalizedAs]
  | some s =>
    have hcompleted : "COMPLETED" ∈ remoteStates ∧ "COMPLETED" ∉ nonTerminalStates := by decide
    rw [normalizedAs]
    split_ifs with h1 h2 h3 h4 h5
    · subst h1
      simp
    · have hne : s ≠ "COMPLETED" := fun h => hcompleted.2 (h ▸ h3)
      simp [hne]
    · subst h4
      simp
    · subst h5
      simp
    · -- only `COMPLETED` is left
      have hstate : s = "COMPLETED" := by
        simp [remoteStates, nonTerminalStates] at h2 h3
        grind
      have hresult := @completedAs_success result
      rw [Prod.ext_iff] at hresult
      simpa [hstate] using hresult
    · have hne : s ≠ "COMPLETED" := fun h => h2 (h ▸ hcompleted.1)
      simp [hne]

theorem classifyJob_nonTerminal : (classifyJob isPrintable payload jobId).normalizedState = .nonTerminal ↔
    Pending payload := by
  cases payload with
  | obj members => simp [classifyJob, Pending, normalizedAs_nonTerminal]
  | _ => simp [classifyJob, Pending]

theorem isTerminalSuccess_classifyJob : isTerminalSuccess (classifyJob isPrintable payload jobId) = true ↔
    Succeeded payload := by
  cases payload with
  | obj members =>
    have hsuccess := @normalizedAs_success (strippedText members "state") (strippedText members "result")
    rw [Prod.ext_iff] at hsuccess
    simp only [isTerminalSuccess, classifyJob, Bool.and_eq_true, Succeeded, Json.obj.injEq,
      exists_eq_left']
    exact (and_congr decide_eq_true_iff decide_eq_true_iff).trans hsuccess
  | _ => simp [isTerminalSuccess, classifyJob, Succeeded]

@[simp] theorem isTerminalSuccess_timeoutView (previous : Option JobView) :
    isTerminalSuccess (timeoutView previous) = false := rfl

lemma not_pending_of_succeeded (h : Succeeded payload) : ¬ Pending payload := by
  obtain ⟨members, rfl, hstate, _⟩ := h
  rintro ⟨members', state, hpayload, hstate', hmem⟩
  obtain rfl := Json.obj.inj hpayload
  obtain rfl := Option.some.inj (hstate.symm.trans hstate')
  exact absurd hmem (by decide)

end Classify

/-! ### The loop -/

section Loop
variable {ε : Type} {isPrintable : Char → Bool} {env : PollEnvironment ε} {policy : JobPollingPolicy}
  {jobId : String} {started : ℚ}

/-- The fetches that a policy leaves time for. -/
def JobPollingPolicy.maxFetches (policy : JobPollingPolicy) : Nat :=
  ⌈policy.timeoutSeconds / policy.intervalSeconds⌉₊

/-- The fetches made are the first ones of the environment. -/
def Answered (env : PollEnvironment ε) (s : PollState ε) : Prop :=
  s.fetches.map Fetch.answer = (List.range s.fetches.length).map env.fetch

lemma Answered.fetch {s s' : PollState ε} {f : Fetch ε} (h : Answered env s)
    (hfetches : s'.fetches = s.fetches ++ [f]) (hf : f.answer = env.fetch s.fetches.length) :
    Answered env s' := by
  rw [Answered] at h ⊢
  rw [hfetches, List.map_append, h, List.length_append, List.length_singleton, List.range_succ,
    List.map_append, List.map_singleton, List.map_singleton, hf]

/-- What holds whenever the loop starts another pass. -/
structure Polling (isPrintable : Char → Bool) (env : PollEnvironment ε) (policy : JobPollingPolicy)
    (jobId : String) (started : ℚ) (last : Option JobView) (s : PollState ε) : Prop where
  answered : Answered env s
  pending : ∀ f ∈ s.fetches, ∃ payload, f.answer = .ok payload ∧ Pending payload
  inTime : ∀ f ∈ s.fetches, f.elapsed < policy.timeoutSeconds
  last_eq : last = s.fetches.getLast?.bind fun f =>
    f.answer.toOption.map fun payload => classifyJob isPrintable payload (some jobId)
  bounded : s.fetches.length ≤ policy.maxFetches
  reached : min (s.fetches.length * policy.intervalSeconds) policy.timeoutSeconds ≤ s.now - started

/-- What the last fetch makes of the poll. -/
def EndsWith (isPrintable : Char → Bool) (policy : JobPollingPolicy) (jobId : String) (started : ℚ)
    (s : PollState ε) (result : PollEnd ε) : Option (Fetch ε) → Prop
  | none => result = .returned (timeoutView none) ∧ policy.timeoutSeconds ≤ s.now - started
  | some f =>
    match f.answer with
    | .error exception => result = .raised exception
    | .ok payload =>
      (¬ Pending payload → result = .returned (classifyJob isPrintable payload (some jobId))) ∧
        (Pending payload →
          result = .returned (timeoutView (some (classifyJob isPrintable payload (some jobId)))) ∧
            policy.timeoutSeconds ≤ s.now - started)

/-- What holds once the loop has ended. -/
structure Polled (isPrintable : Char → Bool) (env : PollEnvironment ε) (policy : JobPollingPolicy)
    (jobId : String) (started : ℚ) (result : PollEnd ε) (s : PollState ε) : Prop where
  answered : Answered env s
  bounded : s.fetches.length ≤ policy.maxFetches
  inTime : ∀ f ∈ s.fetches, f.elapsed < policy.timeoutSeconds
  pending : ∀ f ∈ s.fetches.dropLast, ∃ payload, f.answer = .ok payload ∧ Pending payload
  ends : EndsWith isPrintable policy jobId started s result s.fetches.getLast?

lemma polling_init (now : ℚ) (readings : Nat) (h : started ≤ now) :
    Polling isPrintable env policy jobId started none (⟨now, readings, []⟩ : PollState ε) where
  answered := rfl
  pending := by simp
  inTime := by simp
  last_eq := rfl
  bounded := Nat.zero_le _
  reached := by
    simp
    exact .inl h

/-- A fetch that starts in time is one of those the policy leaves time for. -/
lemma Polling.length_lt {last : Option JobView} {s : PollState ε} {elapsed : ℚ}
    (h : Polling isPrintable env policy jobId started last s) (hnow : s.now - started ≤ elapsed)
    (htime : elapsed < policy.timeoutSeconds) : s.fetches.length < policy.maxFetches := by
  have hreached := (h.reached.trans hnow).trans_lt htime
  have hlt : (s.fetches.length : ℚ) * policy.intervalSeconds < policy.timeoutSeconds := by
    rcases min_lt_iff.mp hreached with hlt | hlt
    · exact hlt
    · exact absurd hlt (lt_irrefl _)
  exact Nat.lt_ceil.mpr ((lt_div_iff₀ policy.interval_pos).mpr hlt)

/-- The clock only moves on. -/
lemma le_read (s : PollState ε) : s.now ≤ (s.read env).now :=
  le_add_of_nonneg_right (env.drift_nonneg _)

/-- A poll that ends with a fetch that was in time. -/
lemma Polling.polled {last : Option JobView} {s s' : PollState ε} {f : Fetch ε} {result : PollEnd ε}
    (h : Polling isPrintable env policy jobId started last s) (hfetches : s'.fetches = s.fetches ++ [f])
    (hanswer : f.answer = env.fetch s.fetches.length)
    (hlength : s.fetches.length < policy.maxFetches) (htime : f.elapsed < policy.timeoutSeconds)
    (hends : EndsWith isPrintable policy jobId started s' result (some f)) :
    Polled isPrintable env policy jobId started result s' where
  answered := h.answered.fetch hfetches hanswer
  bounded := by
    rw [hfetches, List.length_append, List.length_singleton]
    exact hlength
  inTime := by
    intro g hg
    rw [hfetches, List.mem_append, List.mem_singleton] at hg
    rcases hg with hg | rfl
    · exact h.inTime g hg
    · exact htime
  pending := by
    rw [hfetches, List.dropLast_concat]
    exact h.pending
  ends := by
    rw [hfetches, List.getLast?_concat]
    exact hends

/-- A poll whose time is over before the next fetch. -/
lemma Polling.timedOut {last : Option JobView} {s s' : PollState ε}
    (h : Polling isPrintable env policy jobId started last s) (hfetches : s'.fetches = s.fetches)
    (htime : policy.timeoutSeconds ≤ s'.now - started) :
    Polled isPrintable env policy jobId started (.returned (timeoutView last)) s' where
  answered := by
    rw [Answered, hfetches]
    exact h.answered
  bounded := hfetches ▸ h.bounded
  inTime := hfetches ▸ h.inTime
  pending := by
    intro f hf
    rw [hfetches] at hf
    exact h.pending f ((List.dropLast_sublist _).subset hf)
  ends := by
    rw [hfetches]
    have hlast := h.last_eq
    cases hget : s.fetches.getLast? with
    | none =>
      rw [hget] at hlast
      exact ⟨congrArg (fun l => PollEnd.returned (timeoutView l)) hlast, htime⟩
    | some f =>
      obtain ⟨payload, hanswer, hpending⟩ := h.pending f (List.mem_of_getLast? hget)
      rw [hget, Option.bind_some, hanswer] at hlast
      simp only [EndsWith, hanswer]
      refine ⟨fun hnot => absurd hpending hnot, fun _ => ⟨?_, htime⟩⟩
      exact congrArg (fun l => PollEnd.returned (timeoutView l)) hlast

/-- What holds before the pass that follows a pending payload. -/
lemma polling_again {last : Option JobView} {s s' : PollState ε} {payload : Json} {elapsed delay : ℚ}
    (h : Polling isPrintable env policy jobId started last s)
    (hfetches : s'.fetches = s.fetches ++ [⟨elapsed, .ok payload⟩])
    (hanswer : .ok payload = env.fetch s.fetches.length) (hpending : Pending payload)
    (hlength : s.fetches.length < policy.maxFetches) (htime : elapsed < policy.timeoutSeconds)
    (hreached : min ((s.fetches.length + 1) * policy.intervalSeconds) policy.timeoutSeconds ≤
      (s'.read env).now + delay - started) :
    Polling isPrintable env policy jobId started (some (classifyJob isPrintable payload (some jobId)))
      ((s'.read env).slept delay) := by
  have hall : ((s'.read env).slept delay).fetches = s.fetches ++ [⟨elapsed, .ok payload⟩] := hfetches
  constructor
  · exact h.answered.fetch hall hanswer
  · intro f hf
    rw [hall, List.mem_append, List.mem_singleton] at hf
    rcases hf with hf | rfl
    · exact h.pending f hf
    · exact ⟨payload, rfl, hpending⟩
  · intro f hf
    rw [hall, List.mem_append, List.mem_singleton] at hf
    rcases hf with hf | rfl
    · exact h.inTime f hf
    · exact htime
  · rw [hall, List.getLast?_concat]
    rfl
  · rw [hall, List.length_append, List.length_singleton]
    exact hlength
  · rw [hall, List.length_append, List.length_singleton, Nat.cast_add, Nat.cast_one]
    exact hreached

/-- What follows a payload: an end, or another pass once the clock has moved on. -/
theorem afterPayload_cases {last : Option JobView} {s s' : PollState ε} {payload : Json} {elapsed : ℚ}
    (h : Polling isPrintable env policy jobId started last s)
    (hfetches : s'.fetches = s.fetches ++ [⟨elapsed, .ok payload⟩])
    (hanswer : .ok payload = env.fetch s.fetches.length)
    (hlength : s.fetches.length < policy.maxFetches) (htime : elapsed < policy.timeoutSeconds)
    (hreached : s.fetches.length * policy.intervalSeconds ≤ s'.now - started) :
    (∃ result s'', afterPayload isPrintable env policy jobId started payload s' = .done result s'' ∧
        Polled isPrintable env policy jobId started result s'') ∨
      ∃ last' s'', afterPayload isPrintable env policy jobId started payload s' = .again last' s'' ∧
        Polling isPrintable env policy jobId started (some last') s'' ∧
          s''.fetches.length = s.fetches.length + 1 := by
  rw [afterPayload]
  by_cases hpending : Pending payload
  · have hstate : (classifyJob isPrintable payload (some jobId)).normalizedState = .nonTerminal :=
      classifyJob_nonTerminal.mpr hpending
    have hread : s'.now - started ≤ (s'.read env).now - started := sub_le_sub_right (le_read s') _
    rw [if_neg (not_not.mpr hstate)]
    by_cases hremaining : policy.timeoutSeconds - ((s'.read env).now - started) ≤ 0
    · rw [if_pos hremaining]
      refine .inl ⟨_, _, rfl, h.polled hfetches hanswer hlength htime ?_⟩
      exact ⟨fun hnot => absurd hpending hnot, fun _ => ⟨rfl, sub_nonpos.mp hremaining⟩⟩
    · rw [if_neg hremaining]
      refine .inr ⟨_, _, rfl, ?_, by simp [PollState.slept, PollState.read, hfetches]⟩
      refine polling_again h hfetches hanswer hpending hlength htime ?_
      rcases min_cases policy.intervalSeconds
        (policy.timeoutSeconds - ((s'.read env).now - started)) with ⟨hmin, _⟩ | ⟨hmin, _⟩
      · refine (min_le_left _ _).trans ?_
        rw [hmin, add_mul, one_mul]
        linarith
      · refine (min_le_right _ _).trans ?_
        rw [hmin]
        linarith
  · have hstate : (classifyJob isPrintable payload (some jobId)).normalizedState ≠ .nonTerminal :=
      fun hstate => hpending (classifyJob_nonTerminal.mp hstate)
    rw [if_pos hstate]
    refine .inl ⟨_, _, rfl, h.polled hfetches hanswer hlength htime ?_⟩
    exact ⟨fun _ => rfl, fun hp => absurd hp hpending⟩

/-- What a pass does: it ends the poll, or leaves what holds before another pass, with one fetch more. -/
theorem pollOnce_cases {last : Option JobView} {s : PollState ε}
    (h : Polling isPrintable env policy jobId started last s) :
    (∃ result s', pollOnce isPrintable env policy jobId started last s = .done result s' ∧
        Polled isPrintable env policy jobId started result s') ∨
      ∃ last' s', pollOnce isPrintable env policy jobId started last s = .again last' s' ∧
        Polling isPrintable env policy jobId started (some last') s' ∧
          s'.fetches.length = s.fetches.length + 1 := by
  have hnow : s.now - started ≤ (s.read env).now - started := sub_le_sub_right (le_read s) _
  rw [pollOnce]
  by_cases htime : (s.read env).now - started ≥ policy.timeoutSeconds
  · rw [if_pos htime]
    exact .inl ⟨_, _, rfl, h.timedOut rfl htime⟩
  · rw [if_neg htime]
    have htime := not_le.mp htime
    have hlength := h.length_lt hnow htime
    have hreached : s.fetches.length * policy.intervalSeconds ≤ (s.read env).now - started := by
      rcases min_le_iff.mp (h.reached.trans hnow) with hle | hle
      · exact hle
      · exact absurd htime (not_lt.mpr hle)
    cases hfetch : env.fetch (s.read env).fetches.length with
    | error exception =>
      have hfetches : ((s.read env).fetched env started).fetches =
          s.fetches ++ [⟨(s.read env).now - started, .error exception⟩] := by
        rw [PollState.fetched, hfetch]
        rfl
      exact .inl ⟨_, _, rfl, h.polled hfetches hfetch.symm hlength htime rfl⟩
    | ok payload =>
      have hfetches : ((s.read env).fetched env started).fetches =
          s.fetches ++ [⟨(s.read env).now - started, .ok payload⟩] := by
        rw [PollState.fetched, hfetch]
        rfl
      exact afterPayload_cases h hfetches hfetch.symm hlength htime hreached

/-- With passes for every fetch there is time for, the loop ends. -/
theorem pollLoop_polled {fuel : Nat} {last : Option JobView} {s : PollState ε}
    (h : Polling isPrintable env policy jobId started last s)
    (hfuel : policy.maxFetches + 1 ≤ fuel + s.fetches.length) :
    ∃ result s', pollLoop isPrintable env policy jobId started fuel last s = some (result, s') ∧
      Polled isPrintable env policy jobId started result s' := by
  induction fuel generalizing last s with
  | zero =>
    have hbounded := h.bounded
    omega
  | succ fuel ih =>
    rw [pollLoop]
    rcases pollOnce_cases h with ⟨result, s', hdone, hpolled⟩ | ⟨last', s', hagain, hpolling, hlength⟩
    · exact ⟨result, s', by rw [hdone], hpolled⟩
    · rw [hagain]
      exact ih hpolling (by omega)

lemma Polled.last_of_not_pending {result : PollEnd ε} {s : PollState ε}
    (h : Polled isPrintable env policy jobId started result s) {f : Fetch ε} (hf : f ∈ s.fetches)
    (hnot : ¬ ∃ payload, f.answer = .ok payload ∧ Pending payload) : s.fetches.getLast? = some f := by
  obtain ⟨init, l, hsplit⟩ : ∃ init l, s.fetches = init ++ [l] :=
    ⟨_, _, (List.dropLast_append_getLast (List.ne_nil_of_mem hf)).symm⟩
  rw [hsplit, List.mem_append, List.mem_singleton] at hf
  rcases hf with hf | rfl
  · have hpending := h.pending f (by rw [hsplit, List.dropLast_concat]; exact hf)
    exact absurd hpending hnot
  · rw [hsplit, List.getLast?_concat]

/-- The poll succeeds exactly when the last payload reports success. -/
theorem Polled.success_iff {result : PollEnd ε} {s : PollState ε}
    (h : Polled isPrintable env policy jobId started result s) :
    (∃ view, result = .returned view ∧ isTerminalSuccess view = true) ↔
      ∃ f payload, s.fetches.getLast? = some f ∧ f.answer = .ok payload ∧ Succeeded payload := by
  have hends := h.ends
  cases hlast : s.fetches.getLast? with
  | none =>
    rw [hlast] at hends
    simp [hends.1]
  | some f =>
    rw [hlast] at hends
    cases hanswer : f.answer with
    | error exception =>
      simp only [EndsWith, hanswer] at hends
      simp [hends, hanswer]
    | ok payload =>
      simp only [EndsWith, hanswer] at hends
      simp only [Option.some.injEq, exists_and_left, exists_eq_left', hanswer, Except.ok.injEq]
      by_cases hpending : Pending payload
      · have hnot : ¬ Succeeded payload := fun hs => not_pending_of_succeeded hs hpending
        simp [(hends.2 hpending).1, hnot]
      · rw [hends.1 hpending]
        simp only [PollEnd.returned.injEq, exists_eq_left', isTerminalSuccess_classifyJob]

theorem Polled.raised_iff {result : PollEnd ε} {s : PollState ε}
    (h : Polled isPrintable env policy jobId started result s) (exception : ε) :
    result = .raised exception ↔ ∃ f, s.fetches.getLast? = some f ∧ f.answer = .error exception := by
  have hends := h.ends
  cases hlast : s.fetches.getLast? with
  | none =>
    rw [hlast] at hends
    simp [hends.1]
  | some f =>
    rw [hlast] at hends
    cases hanswer : f.answer with
    | error exception' =>
      simp only [EndsWith, hanswer] at hends
      simp [hends, hanswer]
    | ok payload =>
      simp only [EndsWith, hanswer] at hends
      by_cases hpending : Pending payload
      · simp [(hends.2 hpending).1, hanswer]
      · simp [hends.1 hpending, hanswer]

end Loop

lemma validateJobPollingPolicy_ok {intervalSeconds timeoutSeconds : ℚ} {policy : JobPollingPolicy}
    (h : validateJobPollingPolicy intervalSeconds timeoutSeconds = .ok policy) :
    policy.intervalSeconds = intervalSeconds ∧ policy.timeoutSeconds = timeoutSeconds := by
  unfold validateJobPollingPolicy at h
  split_ifs at h
  obtain rfl := Except.ok.inj h
  exact ⟨rfl, rfl⟩

/-- A poll ends within its bound, goes on only over pending payloads and while time remains, and confirms the
job only on a payload that reports success. -/
theorem polling_bounded {ε : Type} (isPrintable : Char → Bool) (env : PollEnvironment ε)
    {intervalSeconds timeoutSeconds : ℚ} {policy : JobPollingPolicy}
    (accepted : validateJobPollingPolicy intervalSeconds timeoutSeconds = .ok policy) {jobId : String}
    (hid : isBlank jobId = false) {fuel : Nat} (hfuel : ⌈timeoutSeconds / intervalSeconds⌉₊ + 1 ≤ fuel) :
    ∃ result s, pollUntilTerminal isPrintable env jobId intervalSeconds timeoutSeconds fuel =
        .ok (some (result, s)) ∧
      s.fetches.map Fetch.answer = (List.range s.fetches.length).map env.fetch ∧
      s.fetches.length ≤ ⌈timeoutSeconds / intervalSeconds⌉₊ + 1 ∧
      (∀ f ∈ s.fetches, f.elapsed < timeoutSeconds) ∧
      (∀ f ∈ s.fetches.dropLast, ∃ payload, f.answer = .ok payload ∧ Pending payload) ∧
      (∀ f payload, s.fetches.getLast? = some f → f.answer = .ok payload → Pending payload →
        timeoutSeconds ≤ s.now - (env.started + env.drift 0)) ∧
      (∀ f ∈ s.fetches, ∀ payload, f.answer = .ok payload → ∀ view,
        view = classifyJob isPrintable payload (some jobId) →
          view.normalizedState = .unknown ∨ view.normalizedState = .uncertain →
            result = .returned view ∧ isTerminalSuccess view = false) ∧
      ((∃ view, result = .returned view ∧ isTerminalSuccess view = true) ↔
        ∃ f payload, s.fetches.getLast? = some f ∧ f.answer = .ok payload ∧ Succeeded payload) ∧
      ∀ exception, result = .raised exception ↔
        ∃ f, s.fetches.getLast? = some f ∧ f.answer = .error exception := by
  obtain ⟨hinterval, htimeout⟩ := validateJobPollingPolicy_ok accepted
  have hmax : policy.maxFetches = ⌈timeoutSeconds / intervalSeconds⌉₊ := by
    rw [JobPollingPolicy.maxFetches, hinterval, htimeout]
  have hinit : Polling isPrintable env policy jobId (env.started + env.drift 0) none
      ((⟨env.started, 0, []⟩ : PollState ε).read env) := polling_init _ _ le_rfl
  obtain ⟨result, s, hrun, hpolled⟩ := pollLoop_polled hinit (by rw [hmax]; exact hfuel)
  refine ⟨result, s, ?_, hpolled.answered, (hmax ▸ hpolled.bounded).trans (Nat.le_succ _),
    htimeout ▸ hpolled.inTime, hpolled.pending, ?_, ?_, hpolled.success_iff, hpolled.raised_iff⟩
  · rw [pollUntilTerminal, accepted, ok_bind, hid, if_neg Bool.false_ne_true]
    exact congrArg Except.ok hrun
  · intro f payload hlast hanswer hpending
    have hends := hpolled.ends
    simp only [hlast, EndsWith, hanswer] at hends
    exact htimeout ▸ (hends.2 hpending).2
  · rintro f hf payload hanswer view rfl hstate
    have hnot : ¬ Pending payload := by
      intro hpending
      rw [classifyJob_nonTerminal.mpr hpending] at hstate
      rcases hstate with h | h <;> cases h
    have hlast := hpolled.last_of_not_pending hf fun ⟨payload', hanswer', hpending⟩ =>
      hnot (Except.ok.inj (hanswer.symm.trans hanswer') ▸ hpending)
    have hends := hpolled.ends
    simp only [hlast, EndsWith, hanswer] at hends
    refine ⟨hends.1 hnot, ?_⟩
    rw [isTerminalSuccess]
    rcases hstate with h | h <;> rw [h] <;> rfl

/-- A job that runs, then completes, fetched every second. -/
def runningThenDone : PollEnvironment String where
  fetch n := if n = 0 then .ok (.obj [("state", .str "RUNNING")])
    else .ok (.obj [("state", .str "COMPLETED"), ("result", .str " SUCCESS ")])
  started := 0
  drift _ := 0
  drift_nonneg _ := le_rfl

lemma one_second_le_three : (1 : ℚ) ≤ 3 := by norm_num

def threeSeconds : JobPollingPolicy where
  intervalSeconds := 1
  timeoutSeconds := 3
  interval_pos := one_pos
  interval_le := one_second_le_three

theorem three_seconds_accepted : validateJobPollingPolicy 1 3 = .ok threeSeconds := by
  norm_num [validateJobPollingPolicy, threeSeconds]

theorem running_then_done : ∃ result s,
    pollUntilTerminal (fun _ => true) runningThenDone "job-1" 1 3 4 = .ok (some (result, s)) ∧
      s.fetches.length ≤ 4 := by
  obtain ⟨result, s, hrun, -, hlength, -⟩ := @polling_bounded String (fun _ => true) runningThenDone 1 3 _
    three_seconds_accepted "job-1" (by decide) 4 (by norm_num)
  exact ⟨result, s, hrun, by norm_num at hlength; exact hlength⟩

end CollibraGovernance.Collibra
