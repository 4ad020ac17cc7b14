import CollibraGovernance.Collibra.Lifecycle

/-! What a run of imports or synchronizations sent, confirmed and counted, against any answers of the service. -/
namespace CollibraGovernance.Collibra
open Library

section Confirmed
variable (isPrintable : Char → Bool) (policy : JobPollingPolicy)

/-- A submission is confirmed when it named a job, and the last fetch for that job reported success. -/
def Confirmed (answer : Except CallFailure String) (env : PollEnvironment CallFailure) : Prop :=
  ∃ jobId, answer = .ok jobId ∧ jobId ≠ "" ∧ ∃ f payload,
    (pollJob isPrintable policy env jobId).2.getLast? = some f ∧ f.answer = .ok payload ∧ Succeeded payload

variable {isPrintable policy}

theorem pollJob_success_iff {ε : Type} {env : PollEnvironment ε} {jobId : String} :
    (∃ view, (pollJob isPrintable policy env jobId).1 = .returned view ∧ isTerminalSuccess view = true) ↔
      ∃ f payload, (pollJob isPrintable policy env jobId).2.getLast? = some f ∧ f.answer = .ok payload ∧
        Succeeded payload := by
  unfold pollJob
  split
  · simp [isTerminalSuccess]
  · obtain ⟨result, s, hrun, hpolled⟩ := pollLoop_polls isPrintable policy env jobId
    simp only [hrun, Option.get_some]
    exact hpolled.success_iff

lemma observeJob_ok {env : PollEnvironment CallFailure} {jobId : String} {view : JobView} :
    observeJob isPrintable policy env jobId = .ok (.ok view) ↔
      (pollJob isPrintable policy env jobId).1 = .returned view := by
  unfold observeJob
  split <;> rename_i h <;> rw [h] <;> simp

/-- A job that was observed to succeed is what confirms a submission. -/
lemma confirmed_ok_iff {env : PollEnvironment CallFailure} {jobId : String} (hid : jobId ≠ "") :
    Confirmed isPrintable policy (.ok jobId) env ↔
      ∃ view, observeJob isPrintable policy env jobId = .ok (.ok view) ∧ isTerminalSuccess view = true := by
  simp only [Confirmed, Except.ok.injEq, exists_eq_left', ne_eq, hid, not_false_eq_true, true_and, observeJob_ok]
  exact pollJob_success_iff.symm

lemma not_confirmed_error {failure : CallFailure} {env : PollEnvironment CallFailure} :
    ¬ Confirmed isPrintable policy (.error failure) env := by
  rintro ⟨jobId, h, -⟩
  cases h

lemma not_confirmed_empty {env : PollEnvironment CallFailure} :
    ¬ Confirmed isPrintable policy (.ok "") env := by
  rintro ⟨jobId, h, hid, -⟩
  exact hid (Except.ok.inj h).symm

end Confirmed

section Batches
variable (isPrintable : Char → Bool) (policy : JobPollingPolicy) (world : JobWorld)

/-- The service confirms the batch of this index, when it is submitted. -/
def BatchConfirmed (index : Nat) : Prop := Confirmed isPrintable policy (world.submit index) (world.polls index)

def FinalizationConfirmed : Prop := Confirmed isPrintable policy world.finalize world.finalizePoll

variable {isPrintable policy world}

/-- One turn goes on exactly when its batch is confirmed. -/
theorem submitAndPoll_confirmed_iff {rules : BatchRules} {index : Nat} {batch : ImportDocument} :
    (∃ record, submitAndPoll isPrintable policy world rules index batch = .confirmed record) ↔
      BatchConfirmed isPrintable policy world index := by
  unfold submitAndPoll BatchConfirmed
  cases hanswer : world.submit index with
  | error failure =>
    have hnot : ¬ Confirmed isPrintable policy (.error failure) (world.polls index) := not_confirmed_error
    cases failure <;> simp [hnot]
  | ok jobId =>
    by_cases hid : jobId = ""
    · subst hid
      simp [not_confirmed_empty]
    · rw [confirmed_ok_iff hid]
      simp only [if_neg hid]
      cases hobserved : observeJob isPrintable policy (world.polls index) jobId with
      | error exception => simp
      | ok observed =>
        cases observed with
        | error observationError => simp
        | ok view => cases hsuccess : isTerminalSuccess view <;> simp [hsuccess]

/-- What a loop over batches did: `sent` of them were submitted, and the first `confirmed` were confirmed. -/
structure BatchesSent (isPrintable : Char → Bool) (policy : JobPollingPolicy) (world : JobWorld) (index : Nat)
    (batches : List ImportDocument) (run : BatchesRun) (sent confirmed : Nat) : Prop where
  submissions : run.submissions = (batches.take sent).map Submission.batch
  sent_le : sent ≤ batches.length
  confirmed_le : confirmed ≤ sent
  confirmed_iff : ∀ j < sent, BatchConfirmed isPrintable policy world (index + j) ↔ j < confirmed
  stops : sent ≤ confirmed + 1
  goes_on : confirmed < batches.length → sent = confirmed + 1
  applied : run.applied = ((batches.take confirmed).flatMap ImportDocument.commands).length
  ended : run.ended = .confirmed ↔ confirmed = batches.length

lemma batchesSent_nil {index : Nat} :
    BatchesSent isPrintable policy world index [] ⟨[], [], 0, .confirmed⟩ 0 0 where
  submissions := rfl
  sent_le := le_rfl
  confirmed_le := le_rfl
  confirmed_iff j hj := absurd hj (Nat.not_lt_zero j)
  stops := Nat.zero_le _
  goes_on h := absurd h (Nat.not_lt_zero _)
  applied := rfl
  ended := ⟨fun _ => rfl, fun _ => rfl⟩

/-- The loop ends with a batch that is not confirmed. -/
lemma batchesSent_stop {index : Nat} {batch : ImportDocument} {rest : List ImportDocument}
    {records : List BatchLifecycleRecord} {ended : BatchesEnd} (hended : ended ≠ .confirmed)
    (hnot : ¬ BatchConfirmed isPrintable policy world index) :
    BatchesSent isPrintable policy world index (batch :: rest) ⟨[.batch batch], records, 0, ended⟩ 1 0 where
  submissions := rfl
  sent_le := by simp
  confirmed_le := Nat.zero_le _
  confirmed_iff j hj := by
    obtain rfl := Nat.lt_one_iff.mp hj
    exact ⟨fun h => absurd h hnot, fun h => absurd h (lt_irrefl 0)⟩
  stops := le_rfl
  goes_on _ := rfl
  applied := rfl
  ended := ⟨fun h => absurd h hended, fun h => by simp at h⟩

/-- The loop goes on after a batch that is confirmed. -/
lemma BatchesSent.cons {index sent confirmed : Nat} {batch : ImportDocument} {rest : List ImportDocument}
    {later : BatchesRun} (h : BatchesSent isPrintable policy world (index + 1) rest later sent confirmed)
    (hconfirmed : BatchConfirmed isPrintable policy world index) (record : BatchLifecycleRecord) :
    BatchesSent isPrintable policy world index (batch :: rest)
      ⟨.batch batch :: later.submissions, record :: later.records, batch.commands.length + later.applied,
        later.ended⟩ (sent + 1) (confirmed + 1) where
  submissions := by
    rw [h.submissions]
    rfl
  sent_le := Nat.succ_le_succ h.sent_le
  confirmed_le := Nat.succ_le_succ h.confirmed_le
  confirmed_iff j hj := by
    cases j with
    | zero => exact ⟨fun _ => Nat.succ_pos _, fun _ => hconfirmed⟩
    | succ j =>
      have hiff := h.confirmed_iff j (Nat.lt_of_succ_lt_succ hj)
      rw [Nat.add_assoc, Nat.add_comm 1 j] at hiff
      rw [hiff]
      omega
  stops := Nat.succ_le_succ h.stops
  goes_on hlt := congrArg Nat.succ (h.goes_on (Nat.lt_of_succ_lt_succ hlt))
  applied := by
    rw [h.applied, List.take_succ_cons, List.flatMap_cons, List.length_append]
  ended := by
    rw [h.ended, List.length_cons]
    omega

/-- The loop sends batches in order, up to the first one that is not confirmed. -/
theorem runBatches_sent (rules : BatchRules) (index : Nat) (batches : List ImportDocument) :
    ∃ sent confirmed, BatchesSent isPrintable policy world index batches
      (runBatches isPrintable policy world rules index batches) sent confirmed := by
  induction batches generalizing index with
  | nil => exact ⟨0, 0, batchesSent_nil⟩
  | cons batch rest ih =>
    have hiff : (∃ record, submitAndPoll isPrintable policy world rules index batch = .confirmed record) ↔
        BatchConfirmed isPrintable policy world index := submitAndPoll_confirmed_iff
    rw [runBatches]
    cases hstep : submitAndPoll isPrintable policy world rules index batch with
    | raised exception =>
      rw [hstep] at hiff
      exact ⟨1, 0, batchesSent_stop (by simp) (by simp [← hiff])⟩
    | stopped record error summary =>
      rw [hstep] at hiff
      exact ⟨1, 0, batchesSent_stop (by simp) (by simp [← hiff])⟩
    | confirmed record =>
      rw [hstep] at hiff
      obtain ⟨sent, confirmed, hlater⟩ := ih (index + 1)
      exact ⟨sent + 1, confirmed + 1, hlater.cons (hiff.mp ⟨record, rfl⟩) record⟩

end Batches

/-! ### Whole executions -/

/-- The batches that a plan is compiled and partitioned into. -/
def plannedBatches (plan : SyncPlan) (config : CollibraMappingConfig)
    (maxResources maxAdditionalCharacteristics : Option Int) : List ImportDocument :=
  match compileImportDocument plan config with
  | .error _ => []
  | .ok document =>
    match partitionDocument document maxResources maxAdditionalCharacteristics with
    | .error _ => []
    | .ok batches => batches

/-- Nothing refuses a run before it sends: it is applied, its plan is compiled and partitioned, and where that gives
batches the adapter can submit and poll, and no created asset collides. -/
structure Admitted (world : JobWorld) (plan : SyncPlan) (config : CollibraMappingConfig)
    (maxResources maxAdditionalCharacteristics : Option Int) (apply : Bool) : Prop where
  applied : apply = true
  planned : ∃ document batches, compileImportDocument plan config = .ok document ∧
    partitionDocument document maxResources maxAdditionalCharacteristics = .ok batches
  live : plannedBatches plan config maxResources maxAdditionalCharacteristics ≠ [] → world.live = true
  absent : plannedBatches plan config maxResources maxAdditionalCharacteristics ≠ [] →
    proveImportCreateIdentifiersAbsent world plan = .ok ()

/-- An execution over some batches: `sent` of them were submitted, the first `confirmed` of these were confirmed,
and the finalization was submitted when `finalized` says so. An execution that was `admitted` stops only behind a
batch that is not confirmed, and succeeds when all that it asks for is confirmed. -/
structure AllOrNothing (isPrintable : Char → Bool) (policy : JobPollingPolicy) (world : JobWorld) (finalizes : Bool)
    (batches : List ImportDocument) (apply : Bool) (admitted : Prop) (execution : Execution) (sent confirmed : Nat)
    (finalized : Bool) : Prop where
  submissions : execution.1 = (batches.take sent).map Submission.batch ++
    if finalized then [Submission.finalize finalizationStrategyIgnore] else []
  sent_le : sent ≤ batches.length
  confirmed_le : confirmed ≤ sent
  confirmed_iff : ∀ j < sent, BatchConfirmed isPrintable policy world j ↔ j < confirmed
  stops : ∀ j, j + 1 < sent → BatchConfirmed isPrintable policy world j
  finalized_only : finalized = true → finalizes = true ∧ 0 < batches.length ∧ confirmed = batches.length
  applied : ∀ result, execution.2 = .ok result →
    result.appliedCount = ((batches.take confirmed).flatMap ImportDocument.commands).length
  success_iff : ∀ result, execution.2 = .ok result → apply = true →
    (result.success = true ↔ confirmed = batches.length ∧
      (finalizes = true → 0 < batches.length →
        finalized = true ∧ FinalizationConfirmed isPrintable policy world))
  dryRun : apply = false → execution.1 = [] ∧ ∀ result, execution.2 = .ok result → result.success = true
  refused : ¬ admitted → execution.1 = []
  goes_on : admitted → confirmed < batches.length → sent = confirmed + 1
  finalizes_confirmed : admitted → finalizes = true → 0 < batches.length → confirmed = batches.length → finalized = true
  succeeds : admitted → confirmed = batches.length →
    (finalizes = true → 0 < batches.length → FinalizationConfirmed isPrintable policy world) →
      ∃ result, execution.2 = .ok result ∧ result.success = true

section Whole
variable {isPrintable : Char → Bool} {policy : JobPollingPolicy} {world : JobWorld} {finalizes apply : Bool}
  {admitted : Prop} {batches : List ImportDocument}

/-- An execution that is abandoned before anything is sent. -/
lemma allOrNothing_abandoned (failure : ExecutionFailure) (hrefused : ¬ admitted) :
    AllOrNothing isPrintable policy world finalizes batches apply admitted ([], .error failure) 0 0 false where
  submissions := rfl
  sent_le := Nat.zero_le _
  confirmed_le := le_rfl
  confirmed_iff j hj := absurd hj (Nat.not_lt_zero j)
  stops j hj := absurd hj (Nat.not_lt_zero _)
  finalized_only h := by cases h
  applied result h := by cases h
  success_iff result h := by cases h
  dryRun _ := ⟨rfl, fun result h => by cases h⟩
  refused _ := rfl
  goes_on h := absurd h hrefused
  finalizes_confirmed h := absurd h hrefused
  succeeds h := absurd h hrefused

/-- An execution that ends with a result, and sent nothing. -/
lemma allOrNothing_unsent {result : ExecutionResult} (happlied : result.appliedCount = 0)
    (hsuccess : apply = true → (result.success = true ↔ batches = []))
    (hdry : apply = false → result.success = true) (hadmitted : admitted → apply = true ∧ batches = []) :
    AllOrNothing isPrintable policy world finalizes batches apply admitted ([], .ok result) 0 0 false where
  submissions := rfl
  sent_le := Nat.zero_le _
  confirmed_le := le_rfl
  confirmed_iff j hj := absurd hj (Nat.not_lt_zero j)
  stops j hj := absurd hj (Nat.not_lt_zero _)
  finalized_only h := by cases h
  applied result' h := by
    obtain rfl := Except.ok.inj h
    exact happlied
  success_iff result' h happly := by
    obtain rfl := Except.ok.inj h
    rw [hsuccess happly, ← List.length_eq_zero_iff, eq_comm]
    exact ⟨fun h => ⟨h, fun _ hpos => absurd hpos (by omega)⟩, And.left⟩
  dryRun happly := ⟨rfl, fun result' h => Except.ok.inj h ▸ hdry happly⟩
  refused _ := rfl
  goes_on h hlt := by
    rw [(hadmitted h).2] at hlt
    exact absurd hlt (Nat.not_lt_zero _)
  finalizes_confirmed h _ hpos := by
    rw [(hadmitted h).2] at hpos
    exact absurd hpos (Nat.not_lt_zero _)
  succeeds h _ _ := by
    obtain ⟨happly, hbatches⟩ := hadmitted h
    exact ⟨result, rfl, (hsuccess happly).mpr hbatches⟩

lemma BatchesSent.stops_before {run : BatchesRun} {sent confirmed : Nat}
    (h : BatchesSent isPrintable policy world 0 batches run sent confirmed) {j : Nat} (hj : j + 1 < sent) :
    BatchConfirmed isPrintable policy world j := by
  have hstops := h.stops
  have hiff := h.confirmed_iff j (by omega)
  rw [Nat.zero_add] at hiff
  exact hiff.mpr (by omega)

/-- What the work on the batches makes of an execution whose result is still open. -/
lemma BatchesSent.allOrNothing {run : BatchesRun} {sent confirmed : Nat} {finalized : Bool}
    {outcome : Except ExecutionFailure ExecutionResult}
    (h : BatchesSent isPrintable policy world 0 batches run sent confirmed)
    (hfinalized : finalized = true → finalizes = true ∧ 0 < batches.length ∧ run.ended = .confirmed)
    (happlied : ∀ result, outcome = .ok result → result.appliedCount = run.applied)
    (hsuccess : ∀ result, outcome = .ok result → (result.success = true ↔ run.ended = .confirmed ∧
      (finalizes = true → 0 < batches.length →
        finalized = true ∧ FinalizationConfirmed isPrintable policy world)))
    (hadmitted : admitted) (hfinalizes : finalizes = true → 0 < batches.length → run.ended = .confirmed → finalized = true)
    (hreturns : run.ended = .confirmed →
      (finalizes = true → 0 < batches.length → FinalizationConfirmed isPrintable policy world) →
        ∃ result, outcome = .ok result) :
    AllOrNothing isPrintable policy world finalizes batches true admitted
      (run.submissions ++ if finalized then [Submission.finalize finalizationStrategyIgnore] else [], outcome)
      sent confirmed finalized where
  submissions := by rw [h.submissions]
  sent_le := h.sent_le
  confirmed_le := h.confirmed_le
  confirmed_iff j hj := by
    have hiff := h.confirmed_iff j hj
    rwa [Nat.zero_add] at hiff
  stops j hj := h.stops_before hj
  finalized_only hf := by
    obtain ⟨hmode, hpos, hended⟩ := hfinalized hf
    exact ⟨hmode, hpos, h.ended.mp hended⟩
  applied result hresult := (happlied result hresult).trans h.applied
  success_iff result hresult _ := by rw [hsuccess result hresult, h.ended]
  dryRun happly := by cases happly
  refused hnot := absurd hadmitted hnot
  goes_on _ := h.goes_on
  finalizes_confirmed _ hmode hpos hall := hfinalizes hmode hpos (h.ended.mpr hall)
  succeeds _ hall hconfirmed := by
    have hended := h.ended.mpr hall
    obtain ⟨result, hresult⟩ := hreturns hended hconfirmed
    refine ⟨result, hresult, (hsuccess result hresult).mpr ⟨hended, fun hmode hpos => ?_⟩⟩
    exact ⟨hfinalizes hmode hpos hended, hconfirmed hmode hpos⟩

/-- The same, for an execution that never comes to a finalization. -/
lemma BatchesSent.allOrNothing_unfinalized {run : BatchesRun} {sent confirmed : Nat}
    {outcome : Except ExecutionFailure ExecutionResult}
    (h : BatchesSent isPrintable policy world 0 batches run sent confirmed) (hbatches : 0 < batches.length)
    (happlied : ∀ result, outcome = .ok result → result.appliedCount = run.applied)
    (hsuccess : ∀ result, outcome = .ok result →
      (result.success = true ↔ run.ended = .confirmed ∧ finalizes = false))
    (hadmitted : admitted) (hreturns : run.ended = .confirmed → finalizes = false ∧ ∃ result, outcome = .ok result) :
    AllOrNothing isPrintable policy world finalizes batches true admitted (run.submissions, outcome) sent confirmed
      false := by
  rw [← List.append_nil run.submissions]
  refine @BatchesSent.allOrNothing isPrintable policy world finalizes admitted batches run sent confirmed false outcome h
    (fun hf => by cases hf) happlied (fun result hresult => (hsuccess result hresult).trans ?_) hadmitted ?_
    fun hended _ => (hreturns hended).2
  · cases finalizes <;> simp [hbatches]
  · intro hmode _ hended
    rw [(hreturns hended).1] at hmode
    cases hmode

/-- The lifecycle of the imports, once a plan has batches. -/
theorem executeImportBatchesLifecycle_allOrNothing (plan : SyncPlan) (document : ImportDocument)
    (hbatches : batches ≠ [])
    (hadmitted : admitted ↔ world.live = true ∧ proveImportCreateIdentifiersAbsent world plan = .ok ()) :
    ∃ sent confirmed finalized, AllOrNothing isPrintable policy world false batches true admitted
      (executeImportBatchesLifecycle isPrintable policy world plan document batches) sent confirmed finalized := by
  unfold executeImportBatchesLifecycle
  cases habsent : proveImportCreateIdentifiersAbsent world plan with
  | error error => exact ⟨0, 0, false, allOrNothing_abandoned _ (by simp [hadmitted, habsent])⟩
  | ok =>
    by_cases hlive : world.live = false
    · simp only [if_pos hlive]
      exact ⟨0, 0, false, allOrNothing_unsent rfl (fun _ => by simp [unfinalized, hbatches]) (by simp)
        (by simp [hadmitted, hlive])⟩
    · simp only [if_neg hlive]
      obtain ⟨sent, confirmed, hrun⟩ := @runBatches_sent isPrintable policy world importRules 0 batches
      generalize runBatches isPrintable policy world importRules 0 batches = run at hrun ⊢
      refine ⟨sent, confirmed, false, ?_⟩
      refine hrun.allOrNothing_unfinalized (List.length_pos_iff.mpr hbatches) ?_ ?_
        (hadmitted.mpr ⟨Bool.of_not_eq_false hlive, habsent⟩) ?_
      · intro result hresult
        cases hended : run.ended <;> simp only [hended] at hresult
        · cases hresult
        · obtain rfl := Except.ok.inj hresult
          rfl
        · obtain rfl := Except.ok.inj hresult
          rfl
      · intro result hresult
        cases hended : run.ended <;> simp only [hended] at hresult
        · cases hresult
        · obtain rfl := Except.ok.inj hresult
          simp [unfinalized]
        · obtain rfl := Except.ok.inj hresult
          simp [unfinalized]
      · intro hended
        refine ⟨rfl, unfinalized plan document false run.records true run.applied none none, ?_⟩
        simp only [hended]

/-- The finalization succeeds exactly when it is confirmed. -/
lemma finalizeSync_ok {plan : SyncPlan} {document : ImportDocument} {run : BatchesRun} {result : ExecutionResult}
    (h : finalizeSync isPrintable policy world plan document run = .ok result) :
    result.appliedCount = run.applied ∧
      (result.success = true ↔ FinalizationConfirmed isPrintable policy world) := by
  unfold finalizeSync at h
  unfold FinalizationConfirmed
  cases hanswer : world.finalize with
  | error failure =>
    rw [hanswer] at h
    have hnot : ¬ Confirmed isPrintable policy (.error failure) world.finalizePoll := not_confirmed_error
    cases failure with
    | raised exception => cases h
    | adapterError =>
      obtain rfl := Except.ok.inj h
      exact ⟨rfl, by simp [hnot]⟩
  | ok jobId =>
    simp only [hanswer] at h
    by_cases hid : jobId = ""
    · subst hid
      rw [if_pos rfl] at h
      obtain rfl := Except.ok.inj h
      exact ⟨rfl, by simp [not_confirmed_empty]⟩
    · rw [if_neg hid] at h
      rw [confirmed_ok_iff hid]
      cases hobserved : observeJob isPrintable policy world.finalizePoll jobId with
      | error exception =>
        rw [hobserved] at h
        cases h
      | ok observed =>
        cases observed with
        | error observationError =>
          rw [hobserved] at h
          obtain rfl := Except.ok.inj h
          exact ⟨rfl, by simp⟩
        | ok view =>
          simp only [hobserved] at h
          cases hsuccess : isTerminalSuccess view <;> simp only [hsuccess] at h <;>
            obtain rfl := Except.ok.inj h
          · exact ⟨rfl, by simp [hsuccess]⟩
          · exact ⟨rfl, by simp [hsuccess]⟩

/-- A finalization that is confirmed ends with a result. -/
lemma finalizeSync_returns {plan : SyncPlan} {document : ImportDocument} {run : BatchesRun}
    (h : FinalizationConfirmed isPrintable policy world) :
    ∃ result, finalizeSync isPrintable policy world plan document run = .ok result := by
  have hjob : ∃ jobId, world.finalize = .ok jobId ∧ jobId ≠ "" := by
    obtain ⟨jobId, hanswer, hid, -⟩ := h
    exact ⟨jobId, hanswer, hid⟩
  obtain ⟨jobId, hanswer, hid⟩ := hjob
  rw [FinalizationConfirmed, hanswer, confirmed_ok_iff hid] at h
  obtain ⟨view, hobserved, hsuccess⟩ := h
  unfold finalizeSync
  simp only [hanswer, if_neg hid, hobserved, hsuccess, if_true]
  exact ⟨_, rfl⟩

theorem executeSyncBatches_allOrNothing (plan : SyncPlan) (document : ImportDocument)
    (hbatches : batches ≠ []) (hadmitted : admitted) : ∃ sent confirmed finalized,
    AllOrNothing isPrintable policy world true batches true admitted
      (executeSyncBatches isPrintable policy world plan document batches) sent confirmed finalized := by
  have hpos : 0 < batches.length := List.length_pos_iff.mpr hbatches
  unfold executeSyncBatches
  obtain ⟨sent, confirmed, hrun⟩ := @runBatches_sent isPrintable policy world syncRules 0 batches
  generalize runBatches isPrintable policy world syncRules 0 batches = run at hrun ⊢
  cases hended : run.ended with
  | raised exception =>
    simp only [hended]
    refine ⟨sent, confirmed, false, ?_⟩
    exact hrun.allOrNothing_unfinalized hpos (fun result h => by cases h) (fun result h => by cases h) hadmitted
      (fun h => by simp [hended] at h)
  | stopped error summary =>
    simp only [hended]
    refine ⟨sent, confirmed, false, ?_⟩
    refine hrun.allOrNothing_unfinalized hpos ?_ ?_ hadmitted (fun h => by simp [hended] at h) <;>
      intro result hresult <;> obtain rfl := Except.ok.inj hresult
    · rfl
    · simp [unfinalized, hended]
  | confirmed =>
    simp only [hended]
    refine ⟨sent, confirmed, true, @BatchesSent.allOrNothing isPrintable policy world true admitted batches run sent
      confirmed true _ hrun (fun _ => ⟨rfl, hpos, hended⟩) ?_ ?_ hadmitted (fun _ _ _ => rfl)
      fun _ h => finalizeSync_returns (h rfl hpos)⟩
    · intro result hresult
      exact (finalizeSync_ok hresult).1
    · intro result hresult
      rw [(finalizeSync_ok hresult).2]
      exact ⟨fun h => ⟨hended, fun _ _ => ⟨rfl, h⟩⟩, fun h => (h.2 rfl hpos).2⟩

section Admission
variable {plan : SyncPlan} {config : CollibraMappingConfig} {maxResources maxAdditionalCharacteristics : Option Int}
  {document : ImportDocument}

lemma plannedBatches_eq (hdocument : compileImportDocument plan config = .ok document)
    (hbatches : partitionDocument document maxResources maxAdditionalCharacteristics = .ok batches) :
    plannedBatches plan config maxResources maxAdditionalCharacteristics = batches := by
  unfold plannedBatches
  rw [hdocument]
  simp only [hbatches]

/-- Once the batches are known, the adapter and the collision check decide about the sending. -/
lemma admitted_iff (hdocument : compileImportDocument plan config = .ok document)
    (hbatches : partitionDocument document maxResources maxAdditionalCharacteristics = .ok batches) :
    Admitted world plan config maxResources maxAdditionalCharacteristics apply ↔ apply = true ∧
      (batches ≠ [] → world.live = true ∧ proveImportCreateIdentifiersAbsent world plan = .ok ()) := by
  have hplanned := plannedBatches_eq hdocument hbatches
  constructor
  · intro h
    rw [← hplanned]
    exact ⟨h.applied, fun hne => ⟨h.live hne, h.absent hne⟩⟩
  · intro h
    rw [← hplanned] at h
    exact ⟨h.1, ⟨document, batches, hdocument, hbatches⟩, fun hne => (h.2 hne).1, fun hne => (h.2 hne).2⟩

lemma not_admitted_uncompiled {error : CollibraAdapterError} (h : compileImportDocument plan config = .error error) :
    ¬ Admitted world plan config maxResources maxAdditionalCharacteristics apply := by
  intro hadmitted
  obtain ⟨document, batches, hdocument, -⟩ := hadmitted.planned
  rw [h] at hdocument
  cases hdocument

lemma not_admitted_unpartitioned {failure : BatchingFailure} (hdocument : compileImportDocument plan config = .ok document)
    (h : partitionDocument document maxResources maxAdditionalCharacteristics = .error failure) :
    ¬ Admitted world plan config maxResources maxAdditionalCharacteristics apply := by
  intro hadmitted
  obtain ⟨document', batches, hdocument', hbatches⟩ := hadmitted.planned
  obtain rfl := Except.ok.inj (hdocument.symm.trans hdocument')
  rw [h] at hbatches
  cases hbatches

end Admission

theorem executeImport_allOrNothing (plan : SyncPlan) (config : CollibraMappingConfig)
    (maxResources maxAdditionalCharacteristics : Option Int) : ∃ sent confirmed finalized,
    AllOrNothing isPrintable policy world false
      (plannedBatches plan config maxResources maxAdditionalCharacteristics) apply
      (Admitted world plan config maxResources maxAdditionalCharacteristics apply)
      (executeImport isPrintable policy world plan config apply maxResources maxAdditionalCharacteristics)
      sent confirmed finalized := by
  unfold executeImport
  cases hdocument : compileImportDocument plan config with
  | error error => exact ⟨0, 0, false, allOrNothing_abandoned _ (not_admitted_uncompiled hdocument)⟩
  | ok document =>
    dsimp only
    cases hbatches : partitionDocument document maxResources maxAdditionalCharacteristics with
    | error failure => exact ⟨0, 0, false, allOrNothing_abandoned _ (not_admitted_unpartitioned hdocument hbatches)⟩
    | ok batches =>
      rw [plannedBatches_eq hdocument hbatches, admitted_iff hdocument hbatches]
      dsimp only
      cases apply with
      | false =>
        rw [if_pos rfl]
        exact ⟨0, 0, false, allOrNothing_unsent rfl (fun h => by cases h) (fun _ => rfl) (fun h => by cases h.1)⟩
      | true =>
        rw [if_neg (by decide : ¬ (true = false))]
        cases batches with
        | nil =>
          exact ⟨0, 0, false, allOrNothing_unsent rfl (fun _ => by simp [unfinalized]) (fun h => by cases h)
            (fun _ => ⟨rfl, rfl⟩)⟩
        | cons batch rest =>
          exact executeImportBatchesLifecycle_allOrNothing plan document (List.cons_ne_nil _ _) (by simp)

theorem executeSyncV2_allOrNothing (parseUuid : String → Option String) (plan : SyncPlan)
    (config : CollibraMappingConfig) (synchronizationId : String)
    (maxResources maxAdditionalCharacteristics : Option Int) : ∃ sent confirmed finalized,
    AllOrNothing isPrintable policy world true
      (plannedBatches plan config maxResources maxAdditionalCharacteristics) apply
      ((parseUuid synchronizationId).isSome = true ∧
        Admitted world plan config maxResources maxAdditionalCharacteristics apply)
      (executeSyncV2 isPrintable policy world plan parseUuid config apply synchronizationId maxResources
        maxAdditionalCharacteristics) sent confirmed finalized := by
  unfold executeSyncV2
  cases parseUuid synchronizationId with
  | none => exact ⟨0, 0, false, allOrNothing_abandoned _ (fun h => by cases h.1)⟩
  | some id =>
    cases hdocument : compileImportDocument plan config with
    | error error => exact ⟨0, 0, false, allOrNothing_abandoned _ fun h => not_admitted_uncompiled hdocument h.2⟩
    | ok document =>
      dsimp only
      cases hbatches : partitionDocument document maxResources maxAdditionalCharacteristics with
      | error failure =>
        exact ⟨0, 0, false, allOrNothing_abandoned _ fun h => not_admitted_unpartitioned hdocument hbatches h.2⟩
      | ok batches =>
        rw [plannedBatches_eq hdocument hbatches, admitted_iff hdocument hbatches]
        dsimp only
        cases apply with
        | false =>
          rw [if_pos rfl]
          exact ⟨0, 0, false, allOrNothing_unsent rfl (fun h => by cases h) (fun _ => rfl) (fun h => by cases h.2.1)⟩
        | true =>
          rw [if_neg (by decide : ¬ (true = false))]
          cases batches with
          | nil =>
            exact ⟨0, 0, false, allOrNothing_unsent rfl (fun _ => by simp [unfinalized]) (fun h => by cases h)
              (fun _ => ⟨rfl, rfl⟩)⟩
          | cons batch rest =>
            have hne : batch :: rest ≠ [] := List.cons_ne_nil _ _
            rw [if_neg (by simp)]
            by_cases hlive : world.live = false
            · rw [if_pos hlive]
              exact ⟨0, 0, false, allOrNothing_unsent rfl (fun _ => by simp [unfinalized]) (fun h => by cases h)
                (by simp [hlive])⟩
            · rw [if_neg hlive]
              cases habsent : proveImportCreateIdentifiersAbsent world plan with
              | error error => exact ⟨0, 0, false, allOrNothing_abandoned _ (by simp)⟩
              | ok =>
                exact executeSyncBatches_allOrNothing plan document hne
                  ⟨rfl, rfl, fun _ => ⟨Bool.of_not_eq_false hlive, rfl⟩⟩

end Whole

/-- Imports and synchronizations are all or nothing about success, and a run that nothing refuses goes on as far as
the service confirms; a synchronization needs its finalization only when it has batches. -/
theorem lifecycle_all_or_nothing (isPrintable : Char → Bool) (policy : JobPollingPolicy) (world : JobWorld)
    (parseUuid : String → Option String) (plan : SyncPlan) (config : CollibraMappingConfig) (apply : Bool)
    (synchronizationId : String) (maxResources maxAdditionalCharacteristics : Option Int) :
    (∃ sent confirmed finalized, AllOrNothing isPrintable policy world false
      (plannedBatches plan config maxResources maxAdditionalCharacteristics) apply
      (Admitted world plan config maxResources maxAdditionalCharacteristics apply)
      (executeImport isPrintable policy world plan config apply maxResources maxAdditionalCharacteristics)
      sent confirmed finalized) ∧
    (∃ sent confirmed finalized, AllOrNothing isPrintable policy world true
      (plannedBatches plan config maxResources maxAdditionalCharacteristics) apply
      ((parseUuid synchronizationId).isSome = true ∧
        Admitted world plan config maxResources maxAdditionalCharacteristics apply)
      (executeSyncV2 isPrintable policy world plan parseUuid config apply synchronizationId maxResources
        maxAdditionalCharacteristics) sent confirmed finalized) :=
  ⟨executeImport_allOrNothing plan config maxResources maxAdditionalCharacteristics,
    executeSyncV2_allOrNothing parseUuid plan config synchronizationId maxResources maxAdditionalCharacteristics⟩

lemma zero_drift (_ : Nat) : (0 : ℚ) ≤ 0 := le_rfl

/-- A service that loses every answer. -/
def silentWorld : JobWorld where
  live := true
  lookup := none
  submit _ := .error .adapterError
  polls _ := ⟨fun _ => .error .adapterError, 0, fun _ => 0, zero_drift⟩
  finalize := .error .adapterError
  finalizePoll := ⟨fun _ => .error .adapterError, 0, fun _ => 0, zero_drift⟩
  importErrors _ := none

/-- A synchronization without batches succeeds, and nothing was finalized. -/
theorem empty_sync_succeeds : ∃ result,
    executeSyncV2 (fun _ => true) threeSeconds silentWorld (SyncPlan.create []) some mockMappingConfig true
      "00000000-0000-0000-0000-000000000000" none none = ([], .ok result) ∧ result.success = true ∧
      result.finalizationSubmissionState = .notAttempted ∧
      ¬ FinalizationConfirmed (fun _ => true) threeSeconds silentWorld :=
  ⟨_, rfl, rfl, rfl, not_confirmed_error⟩

end CollibraGovernance.Collibra
