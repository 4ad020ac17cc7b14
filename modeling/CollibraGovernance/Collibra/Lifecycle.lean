import CollibraGovernance.Collibra.BatchingSpec
import CollibraGovernance.Collibra.JobsSpec

/-! Import and synchronization runs: batches are submitted and polled one by one, against any answers of the
service. -/
namespace CollibraGovernance.Collibra
open Library

/-- The adapter's own error, or an exception of another kind. -/
inductive CallFailure where
  | adapterError
  | raised (exception : String)

/-- What the collision check learns of a name and domain. -/
inductive LookupAnswer where
  | collisionError (error : CollibraAdapterError)
  | raised
  | notList
  | found (count : Nat)

/-- The service and the adapter as one run meets them: the `n`-th submission and the fetches for its job, and
the same for the finalization. A submission is answered by a job id, which may be empty. -/
structure JobWorld where
  live : Bool
  lookup : Option (String → String → LookupAnswer)
  submit : Nat → Except CallFailure String
  polls : Nat → PollEnvironment CallFailure
  finalize : Except CallFailure String
  finalizePoll : PollEnvironment CallFailure
  importErrors : String → Option Int

/-- What was sent to the service. -/
inductive Submission where
  | batch (document : ImportDocument)
  | finalize (strategy : String)

inductive SubmissionState where
  | notAttempted | submitted | unknown
  deriving DecidableEq

def NormalizedState.text : NormalizedState → String
  | .nonTerminal => "non_terminal"
  | .terminalSuccess => "terminal_success"
  | .terminalFailure => "terminal_failure"
  | .cancelled => "cancelled"
  | .uncertain => "uncertain"
  | .unknown => "unknown"
  | .timeout => "timeout"

def NormalizedOutcome.text : NormalizedOutcome → String
  | .success => "success"
  | .completedWithError => "completed_with_error"
  | .failure => "failure"
  | .aborted => "aborted"
  | .cancelled => "cancelled"
  | .unknown => "unknown"
  | .uncertain => "uncertain"
  | .timeout => "timeout"

/-- `view.normalized_outcome or view.normalized_state` -/
def JobView.outcomeText (view : JobView) : String :=
  match view.normalizedOutcome with
  | some outcome => outcome.text
  | none => view.normalizedState.text

structure BatchLifecycleRecord where
  batchIndex : Nat
  resourceCount : Nat
  additionalCharacteristicCount : Nat
  submissionState : SubmissionState
  jobId : Option String
  job : Option JobView
  observationError : Option String

def makeBatchLifecycleRecord (batchIndex : Nat) (batch : ImportDocument) (submissionState : SubmissionState)
    (jobId : Option String) (job : Option JobView) (observationError : Option String) : BatchLifecycleRecord :=
  let counts := batchDocumentCounts batch
  ⟨batchIndex, counts.resourceCount, counts.additionalCharacteristicCount, submissionState, jobId, job,
    observationError⟩

def jobObservationFailure : String := "could not observe job outcome"

section Poll
variable (isPrintable : Char → Bool) (policy : JobPollingPolicy)

lemma pollLoop_polls {ε : Type} (env : PollEnvironment ε) (jobId : String) :
    ∃ result s, pollLoop isPrintable env policy jobId ((⟨env.started, 0, []⟩ : PollState ε).read env).now
        (policy.maxFetches + 1) none ((⟨env.started, 0, []⟩ : PollState ε).read env) = some (result, s) ∧
      Polled isPrintable env policy jobId ((⟨env.started, 0, []⟩ : PollState ε).read env).now result s := by
  have hinit : Polling isPrintable env policy jobId ((⟨env.started, 0, []⟩ : PollState ε).read env).now none
      ((⟨env.started, 0, []⟩ : PollState ε).read env) := polling_init _ _ le_rfl
  exact pollLoop_polled hinit (Nat.le_add_right _ _)

lemma pollLoop_isSome {ε : Type} (env : PollEnvironment ε) (jobId : String) :
    (pollLoop isPrintable env policy jobId ((⟨env.started, 0, []⟩ : PollState ε).read env).now
      (policy.maxFetches + 1) none ((⟨env.started, 0, []⟩ : PollState ε).read env)).isSome = true := by
  obtain ⟨result, s, hrun, -⟩ := pollLoop_polls isPrintable policy env jobId
  rw [hrun]
  rfl

/-- `poll_job` of the live adapter, with passes for every fetch there is time for, and the fetches made. -/
def pollJob {ε : Type} (env : PollEnvironment ε) (jobId : String) : PollEnd ε × List (Fetch ε) :=
  if isBlank jobId then (.returned ⟨none, none, none, .uncertain, some .uncertain⟩, [])
  else
    let ended := (pollLoop isPrintable env policy jobId ((⟨env.started, 0, []⟩ : PollState ε).read env).now
      (policy.maxFetches + 1) none ((⟨env.started, 0, []⟩ : PollState ε).read env)).get
        (pollLoop_isSome isPrintable policy env jobId)
    (ended.1, ended.2.fetches)

/-- `observe_job`: a failed fetch keeps the handle, but not the outcome. -/
def observeJob (env : PollEnvironment CallFailure) (jobId : String) : Except String (Except String JobView) :=
  match (pollJob isPrintable policy env jobId).1 with
  | .returned view => .ok (.ok view)
  | .raised .adapterError => .ok (.error jobObservationFailure)
  | .raised (.raised exception) => .error exception

end Poll

/-- What differs between the two kinds of run, in their batches. -/
structure BatchRules where
  uncertain : String
  outcomePrefix : String
  summaryId : JobView → String → String

/-- How the work on one batch ends. -/
inductive BatchStep where
  | raised (exception : String)
  | stopped (record : BatchLifecycleRecord) (error : String) (importErrorSummary : Option Int)
  | confirmed (record : BatchLifecycleRecord)

/-- How the work on all of them ends. -/
inductive BatchesEnd where
  | raised (exception : String)
  | stopped (error : String) (importErrorSummary : Option Int)
  | confirmed

structure BatchesRun where
  submissions : List Submission
  records : List BatchLifecycleRecord
  applied : Nat
  ended : BatchesEnd

section Run
variable (isPrintable : Char → Bool) (policy : JobPollingPolicy) (world : JobWorld)

/-- `_best_effort_import_error_summary` -/
def bestEffortImportErrorSummary (jobId : String) : Option Int :=
  if jobId = "" then none else world.importErrors jobId

/-- One turn of the loop over the batches. -/
def submitAndPoll (rules : BatchRules) (index : Nat) (batch : ImportDocument) : BatchStep :=
  let uncertain := BatchStep.stopped (makeBatchLifecycleRecord index batch .unknown none none none) rules.uncertain none
  match world.submit index with
  | .error (.raised exception) => .raised exception
  | .error .adapterError => uncertain
  | .ok jobId =>
    if jobId = "" then uncertain
    else
      match observeJob isPrintable policy (world.polls index) jobId with
      | .error exception => .raised exception
      | .ok (.error observationError) =>
        .stopped (makeBatchLifecycleRecord index batch .submitted (some jobId) none (some observationError))
          observationError none
      | .ok (.ok view) =>
        let record := makeBatchLifecycleRecord index batch .submitted (some jobId) (some view) none
        if isTerminalSuccess view then .confirmed record
        else
          .stopped record (rules.outcomePrefix ++ view.outcomeText)
            (bestEffortImportErrorSummary world (rules.summaryId view jobId))

/-- The loop over the batches that are left. -/
def runBatches (rules : BatchRules) : Nat → List ImportDocument → BatchesRun
  | _, [] => ⟨[], [], 0, .confirmed⟩
  | index, batch :: rest =>
    match submitAndPoll isPrintable policy world rules index batch with
    | .raised exception => ⟨[.batch batch], [], 0, .raised exception⟩
    | .stopped record error summary => ⟨[.batch batch], [record], 0, .stopped error summary⟩
    | .confirmed record =>
      let later := runBatches rules (index + 1) rest
      ⟨.batch batch :: later.submissions, record :: later.records, batch.commands.length + later.applied, later.ended⟩

end Run

/-! ### The collision check -/

def importCollisionError (message : String) : CollibraAdapterError :=
  ⟨message, "import_collision_check", none, some "/rest/2.0/assets", some "core_rest", none, none⟩

/-- One turn of the check over the created assets, with the names and domains seen so far. -/
def proveAbsent (lookup : String → String → LookupAnswer) (seen : List (String × String)) (action : SyncAction) :
    Except CollibraAdapterError (List (String × String)) :=
  match (do exactImportAssetIdentifier (← requireDesiredAsset action)) with
  | .error _ => .error (importCollisionError "import_v2 CREATE collision check is ambiguous")
  | .ok key =>
    if seen.contains key then .ok seen
    else
      match lookup key.1 key.2 with
      | .collisionError error => .error error
      | .raised => .error (importCollisionError "import_v2 CREATE collision check failed")
      | .notList => .error (importCollisionError "import_v2 CREATE collision check is ambiguous")
      | .found count =>
        if count ≠ 0 then
          .error (importCollisionError "import_v2 CREATE identifier collides with an existing Collibra asset")
        else .ok (seen ++ [key])

def proveImportCreateIdentifiersAbsent (world : JobWorld) (plan : SyncPlan) : Except CollibraAdapterError Unit :=
  let creates := plan.actions.filter SyncAction.isCreateAsset
  if creates = [] then .ok ()
  else
    match world.lookup with
    | none => .error (importCollisionError "import_v2 CREATE collision check is unavailable")
    | some lookup => do
      let _ ← creates.foldlM (proveAbsent lookup) []
      return ()

/-! ### The two executions -/

/-- How an execution is abandoned. -/
inductive ExecutionFailure where
  | adapterError (error : CollibraAdapterError)
  | batching (failure : BatchingFailure)
  | valueError (message : String)
  | raised (exception : String)

/-- The result of an execution. Where a synchronization was asked for, its last three fields say how far it came. -/
structure ExecutionResult where
  plan : SyncPlan
  document : ImportDocument
  dryRun : Bool
  batchLifecycle : List BatchLifecycleRecord
  success : Bool
  appliedCount : Nat
  unchangedCount : Nat
  importErrorSummary : Option Int
  error : Option String
  finalizationSubmissionState : SubmissionState
  finalizationJobId : Option String
  finalizationJob : Option JobView

/-- A result of an execution that never came to a finalization. -/
def unfinalized (plan : SyncPlan) (document : ImportDocument) (dryRun : Bool) (records : List BatchLifecycleRecord)
    (success : Bool) (applied : Nat) (summary : Option Int) (error : Option String) : ExecutionResult :=
  ⟨plan, document, dryRun, records, success, applied, plan.unchanged.length, summary, error, .notAttempted, none, none⟩

def importRules : BatchRules where
  uncertain := "import job submission outcome=uncertain"
  outcomePrefix := "import job outcome="
  summaryId _ jobId := jobId

def syncRules : BatchRules where
  uncertain := "sync batch job submission outcome=uncertain"
  outcomePrefix := "sync batch job outcome="
  summaryId view jobId := if view.jobId.getD "" = "" then jobId else view.jobId.getD ""

/-- What was submitted, and how the execution ends. -/
abbrev Execution := List Submission × Except ExecutionFailure ExecutionResult

section Execute
variable (isPrintable : Char → Bool) (policy : JobPollingPolicy) (world : JobWorld) (plan : SyncPlan)

/-- `_execute_import_batches_lifecycle` -/
def executeImportBatchesLifecycle (document : ImportDocument) (batches : List ImportDocument) : Execution :=
  match proveImportCreateIdentifiersAbsent world plan with
  | .error error => ([], .error (.adapterError error))
  | .ok () =>
    if world.live = false then
      ([], .ok (unfinalized plan document false [] false 0 none (some "import_v2 requires job polling")))
    else
      let run := runBatches isPrintable policy world importRules 0 batches
      (run.submissions,
        match run.ended with
        | .raised exception => .error (.raised exception)
        | .stopped error summary =>
          .ok (unfinalized plan document false run.records false run.applied summary (some error))
        | .confirmed => .ok (unfinalized plan document false run.records true run.applied none none))

/-- `_execute_collibra_plan` in the mode `import_v2` -/
def executeImport (config : CollibraMappingConfig) (apply : Bool)
    (maxResources maxAdditionalCharacteristics : Option Int) : Execution :=
  match compileImportDocument plan config with
  | .error error => ([], .error (.adapterError error))
  | .ok document =>
    match partitionDocument document maxResources maxAdditionalCharacteristics with
    | .error failure => ([], .error (.batching failure))
    | .ok batches =>
      if apply = false then ([], .ok (unfinalized plan document true [] true 0 none none))
      else if batches.isEmpty then ([], .ok (unfinalized plan document false [] true 0 none none))
      else executeImportBatchesLifecycle isPrintable policy world plan document batches

def finalizationUncertain : String := "sync finalization job outcome=uncertain"
def finalizationStrategyIgnore : String := "IGNORE"

/-- The finalization, once every batch is confirmed. -/
def finalizeSync (document : ImportDocument) (run : BatchesRun) : Except ExecutionFailure ExecutionResult :=
  let result (success : Bool) (summary : Option Int) (error : Option String) (state : SubmissionState)
      (jobId : Option String) (job : Option JobView) : ExecutionResult :=
    ⟨plan, document, false, run.records, success, run.applied, plan.unchanged.length, summary, error, state, jobId, job⟩
  match world.finalize with
  | .error (.raised exception) => .error (.raised exception)
  | .error .adapterError => .ok (result false none (some finalizationUncertain) .unknown none none)
  | .ok jobId =>
    if jobId = "" then .ok (result false none (some finalizationUncertain) .unknown none none)
    else
      match observeJob isPrintable policy world.finalizePoll jobId with
      | .error exception => .error (.raised exception)
      | .ok (.error observationError) =>
        .ok (result false none (some observationError) .submitted (some jobId) none)
      | .ok (.ok view) =>
        if isTerminalSuccess view then .ok (result true none none .submitted (some jobId) (some view))
        else
          let summaryId := (run.records.getLast?.bind BatchLifecycleRecord.jobId).getD ""
          .ok (result false (bestEffortImportErrorSummary world summaryId)
            (some ("sync finalization job outcome=" ++ view.outcomeText)) .submitted (some jobId) (some view))

/-- The part of `execute_sync_v2` after its early returns. -/
def executeSyncBatches (document : ImportDocument) (batches : List ImportDocument) : Execution :=
  let run := runBatches isPrintable policy world syncRules 0 batches
  match run.ended with
  | .raised exception => (run.submissions, .error (.raised exception))
  | .stopped error summary =>
    (run.submissions, .ok (unfinalized plan document false run.records false run.applied summary (some error)))
  | .confirmed =>
    (run.submissions ++ [.finalize finalizationStrategyIgnore], finalizeSync isPrintable policy world plan document run)

/-- `execute_sync_v2`; the parser of synchronization ids is the one of the standard library. -/
def executeSyncV2 (parseUuid : String → Option String) (config : CollibraMappingConfig) (apply : Bool)
    (synchronizationId : String) (maxResources maxAdditionalCharacteristics : Option Int) : Execution :=
  match parseUuid synchronizationId with
  | none => ([], .error (.valueError "collibra_synchronization_id must be a UUID"))
  | some _ =>
    match compileImportDocument plan config with
    | .error error => ([], .error (.adapterError error))
    | .ok document =>
      match partitionDocument document maxResources maxAdditionalCharacteristics with
      | .error failure => ([], .error (.batching failure))
      | .ok batches =>
        if apply = false then ([], .ok (unfinalized plan document true [] true 0 none none))
        else if batches.isEmpty then ([], .ok (unfinalized plan document false [] true 0 none none))
        else if world.live = false then
          ([], .ok (unfinalized plan document false [] false 0 none (some "sync_v2 requires a live Collibra adapter")))
        else
          match proveImportCreateIdentifiersAbsent world plan with
          | .error error => ([], .error (.adapterError error))
          | .ok () => executeSyncBatches isPrintable policy world plan document batches

end Execute
end CollibraGovernance.Collibra
