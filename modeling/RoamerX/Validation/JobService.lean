import RoamerX.Lib.Rows
import RoamerX.Lib.Run
import RoamerX.Protocol.Texts

set_option autoImplicit false

/-! # Validation jobs

`ValidationJobService` of `monitoring/services/validation_service.py`: jobs wait in a queue, a runner
claims one under a lease, reports its progress with heartbeats and completes it; a lease that runs out
is reclaimed. Every call is one transaction, so a call that raises changes nothing. -/

namespace RoamerX

/-! ## Rows -/

/-- `ValidationJob.STATE_CHOICES`. -/
inductive JobState
  | queued | staging | running | analyzing | uploading | cancelling
  | completed | cancelled | infraError
  deriving DecidableEq

/-- `ValidationJob.TERMINAL_STATES`. -/
def JobState.isTerminal : JobState → Bool
  | .completed | .cancelled | .infraError => true
  | .queued | .staging | .running | .analyzing | .uploading | .cancelling => false

/-- The states `reclaim_expired` selects, and the ones a runner may report. -/
def JobState.isLeased : JobState → Bool
  | .staging | .running | .analyzing | .uploading | .cancelling => true
  | .queued | .completed | .cancelled | .infraError => false

def JobState.text : JobState → String
  | .queued => "queued"
  | .staging => "staging"
  | .running => "running"
  | .analyzing => "analyzing"
  | .uploading => "uploading"
  | .cancelling => "cancelling"
  | .completed => "completed"
  | .cancelled => "cancelled"
  | .infraError => "infra_error"

/-- The state a runner reports, if it may report it. -/
def JobState.reported? (word : String) : Option JobState :=
  [JobState.staging, .running, .analyzing, .uploading, .cancelling].find? (fun st => st.text = word)

/-- `ValidationJob.VERDICT_CHOICES`, which are also the statuses of a check. -/
inductive ValidationVerdict
  | notEvaluated | pass | warn | fail
  deriving DecidableEq

def ValidationVerdict.text : ValidationVerdict → String
  | .notEvaluated => "NOT_EVALUATED"
  | .pass => "PASS"
  | .warn => "WARN"
  | .fail => "FAIL"

def ValidationVerdict.ofText? (word : String) : Option ValidationVerdict :=
  [ValidationVerdict.pass, .warn, .fail, .notEvaluated].find? (fun v => v.text = word)

structure ValidationProfile where
  id : Uuid
  name : String := ""
  version : ℕ := 1
  mode : String := "bag_replay"
  enabled : Bool := true
  requiredTopics : Json := .arr []
  replayTopics : Json := .arr []
  outputTopics : Json := .arr []
  thresholds : Json := .obj []
  runnerConfig : Json := .obj []

/-- `ValidationRecording`: what `create_job` reads of it. -/
structure ValidationRecording where
  id : Uuid
  state : String := "ready"

structure ValidationRunner where
  id : String
  state : String := "offline"
  capabilities : Json := .arr []
  lastSeenAt : Option ℕ := none

structure ValidationJob where
  id : Uuid
  recording : Uuid
  profile : Uuid
  baselineJob : Option Uuid := none
  mode : String
  state : JobState := .queued
  verdict : ValidationVerdict := .notEvaluated
  progressPercent : ℕ := 0
  runner : Option String := none
  requestedBy : Option Uuid := none
  idempotencyKey : String := ""
  attemptCount : ℕ := 0
  leaseToken : Option Uuid := none
  leaseExpiresAt : Option ℕ := none
  requestedConfig : Json := .obj []
  resolvedConfig : Json := .obj []
  summary : Json := .obj []
  errorCode : String := ""
  errorMessage : String := ""
  stackGitSha : String := ""
  stackImageDigest : String := ""
  liveBridgeUrl : String := ""
  queuedAt : ℕ
  startedAt : Option ℕ := none
  finishedAt : Option ℕ := none
  cancelRequestedAt : Option ℕ := none

structure ValidationAttempt where
  job : Uuid
  number : ℕ
  runner : String
  state : JobState := .staging
  leaseToken : Uuid
  finishedAt : Option ℕ := none
  errorCode : String := ""
  errorMessage : String := ""
  runtimeMetrics : Json := .obj []

/-- The primary key of an attempt: `uniq_validation_attempt`. -/
def ValidationAttempt.key (a : ValidationAttempt) : Uuid × ℕ := (a.job, a.number)

structure ValidationCheckResult where
  job : Uuid
  ruleId : String
  title : String
  category : String
  status : ValidationVerdict
  severity : String
  hardFailure : Bool
  metricName : String
  actualValue : Json
  expectedValue : Json
  startTimeNs : Json
  endTimeNs : Json
  topics : Json
  evidence : Json
  message : String

structure ValidationDb where
  nextUuid : Uuid := 0
  jobs : List ValidationJob := []
  attempts : List ValidationAttempt := []
  runners : List ValidationRunner := []
  checkResults : List ValidationCheckResult := []

/-- `VALIDATION_MAX_ATTEMPTS` and `VALIDATION_RUNNER_LEASE_SECONDS`. -/
structure ValidationSettings where
  maxAttempts : ℕ := 2
  runnerLeaseSeconds : ℕ := 45

/-- How a call ends that does not return. -/
inductive ValidationRaised
  /-- `ValidationStateError(message)`. -/
  | state (message : String)
  /-- Any other exception, by its class. -/
  | other (exception : String)
  deriving DecidableEq

/-- What Python makes of texts, with `text.upper()`. -/
structure ValidationTexts extends Texts where
  upper : String → String

instance : Inhabited ValidationTexts where
  default := { (default : Texts) with upper := id }

namespace ValidationDb

/-! ## Reading and saving rows -/

/-- `ValidationJob.objects.get(id=..)`. -/
def job? (db : ValidationDb) (id : Uuid) : Option ValidationJob :=
  Rows.get? ValidationJob.id db.jobs id

/-- `job.attempts.filter(number=..).first()`. -/
def attempt? (db : ValidationDb) (job : Uuid) (number : ℕ) : Option ValidationAttempt :=
  Rows.get? ValidationAttempt.key db.attempts (job, number)

/-- `job.attempts.all()`. -/
def attemptsOf (db : ValidationDb) (job : Uuid) : List ValidationAttempt :=
  db.attempts.filter (fun a => a.job = job)

/-- `job.save()`. -/
def saveJob (db : ValidationDb) (job : ValidationJob) : ValidationDb :=
  { db with jobs := Rows.put ValidationJob.id db.jobs job }

/-- `attempt.save()`. -/
def saveAttempt (db : ValidationDb) (attempt : ValidationAttempt) : ValidationDb :=
  { db with attempts := Rows.put ValidationAttempt.key db.attempts attempt }

/-- `runner.save()`. -/
def saveRunner (db : ValidationDb) (runner : ValidationRunner) (state : String) (now : ℕ) :
    ValidationDb :=
  { db with
    runners := Rows.put ValidationRunner.id db.runners
      { runner with state := state, lastSeenAt := some now } }

end ValidationDb

/-- `str(text)[:n]`. -/
def truncated (n : ℕ) (text : String) : String := String.ofList (text.toList.take n)

/-! ## create_job -/

/-- `resolved_config` of a new job. -/
def ValidationProfile.resolvedConfig (p : ValidationProfile) : Json :=
  .obj
    [("profile_name", .str p.name), ("profile_version", .num (.int p.version)),
     ("required_topics", p.requiredTopics), ("replay_topics", p.replayTopics),
     ("output_topics", p.outputTopics), ("thresholds", p.thresholds),
     ("runner_config", p.runnerConfig)]

/-- The arguments of `create_job`. -/
structure JobRequest where
  recording : ValidationRecording
  profile : ValidationProfile
  requestedBy : Option Uuid := none
  idempotencyKey : Json := .str ""
  baselineJob : Option ValidationJob := none
  requestedConfig : Json := .null

/-- `str(idempotency_key or "").strip()[:128]`. -/
def JobRequest.key (texts : ValidationTexts) (r : JobRequest) : String :=
  truncated 128 (texts.strip (if r.idempotencyKey.truthy then texts.str r.idempotencyKey else ""))

namespace ValidationDb

def createJob (texts : ValidationTexts) (now : ℕ) (db : ValidationDb) (r : JobRequest) :
    Except ValidationRaised ValidationDb :=
  if r.recording.state ≠ "ready" then .error (.state "录制尚未上传并校验为 ready")
  else if r.profile.enabled = false then .error (.state "检查 Profile 已停用")
  else if r.baselineJob.any (fun b => b.profile ≠ r.profile.id ∨ b.verdict ∉ [.pass, .warn]) then
    .error (.state "黄金基线必须来自同一 Profile 的可用作业")
  else
    let key := r.key texts
    if key ≠ "" ∧ db.jobs.any (fun j => j.requestedBy = r.requestedBy ∧ j.idempotencyKey = key) then
      .ok db
    else
      .ok { db with
        nextUuid := db.nextUuid + 1
        jobs := db.jobs ++
          [{ id := db.nextUuid
             recording := r.recording.id
             profile := r.profile.id
             baselineJob := r.baselineJob.map ValidationJob.id
             mode := r.profile.mode
             requestedBy := r.requestedBy
             idempotencyKey := key
             requestedConfig := if r.requestedConfig.truthy then r.requestedConfig else .obj []
             resolvedConfig := r.profile.resolvedConfig
             queuedAt := now }] }

/-! ## reclaim_expired -/

/-- The job is put back into the queue: the fields both `reclaim_expired` and `complete` reset. -/
def requeued (job : ValidationJob) : ValidationJob :=
  { job with
    state := .queued
    runner := none
    leaseToken := none
    leaseExpiresAt := none
    progressPercent := 0 }

/-- The attempt whose lease has run out. -/
def expiredAttempt (now : ℕ) (a : ValidationAttempt) : ValidationAttempt :=
  { a with
    state := .infraError
    finishedAt := some now
    errorCode := "RUNNER_LEASE_EXPIRED"
    errorMessage := "Runner 心跳租约已过期" }

def expiredJob (settings : ValidationSettings) (now : ℕ) (job : ValidationJob) : ValidationJob :=
  if job.state = .cancelling then { job with state := .cancelled, finishedAt := some now }
  else if job.attemptCount < settings.maxAttempts then requeued job
  else
    { job with
      state := .infraError
      errorCode := "RUNNER_LEASE_EXPIRED"
      errorMessage := "Runner 心跳租约已过期，重试次数已耗尽"
      finishedAt := some now }

/-- The loop body of `reclaim_expired`. -/
def reclaim (settings : ValidationSettings) (now : ℕ) (db : ValidationDb) (job : ValidationJob) :
    ValidationDb :=
  let db :=
    match db.attempt? job.id job.attemptCount with
    | some attempt => db.saveAttempt (expiredAttempt now attempt)
    | none => db
  db.saveJob (expiredJob settings now job)

/-- The selection of `reclaim_expired`. -/
def isExpired (now : ℕ) (job : ValidationJob) : Bool :=
  job.state.isLeased && job.leaseExpiresAt.any (fun t => t < now)

def reclaimExpired (settings : ValidationSettings) (now : ℕ) (db : ValidationDb) : ValidationDb :=
  (db.jobs.filter (isExpired now)).foldl (reclaim settings now) db

/-! ## claim -/

/-- `set(runner.capabilities or ["bag_replay"])`; `none` is an exception. -/
def supportedModes (texts : ValidationTexts) (runner : ValidationRunner) : Option (List Json) :=
  if runner.capabilities.truthy then texts.list? runner.capabilities
  else some [.str "bag_replay"]

/-- `mode__in=supported_modes`. -/
def isSupported (modes : List Json) (mode : String) : Bool :=
  modes.any (fun m => match m with
    | .str word => word = mode
    | _ => false)

/-- `.order_by("queued_at").first()`. -/
def oldest : List ValidationJob → Option ValidationJob
  | [] => none
  | job :: jobs =>
    match oldest jobs with
    | none => some job
    | some other => if other.queuedAt < job.queuedAt then some other else some job

def claimedJob (settings : ValidationSettings) (now : ℕ) (runner : ValidationRunner) (lease : Uuid)
    (job : ValidationJob) : ValidationJob :=
  { job with
    runner := some runner.id
    state := .staging
    startedAt := some (job.startedAt.getD now)
    attemptCount := job.attemptCount + 1
    leaseToken := some lease
    leaseExpiresAt := some (now + seconds settings.runnerLeaseSeconds)
    errorCode := ""
    errorMessage := "" }

def claim (settings : ValidationSettings) (texts : ValidationTexts) (now : ℕ) (db : ValidationDb)
    (runner : ValidationRunner) : Except ValidationRaised ValidationDb :=
  let db := db.reclaimExpired settings now
  match supportedModes texts runner with
  | none => .error (.other "TypeError")
  | some modes =>
    match oldest (db.jobs.filter (fun j => j.state = .queued && isSupported modes j.mode)) with
    | none => .ok (db.saveRunner runner "idle" now)
    | some job =>
      let lease := db.nextUuid
      let claimed := claimedJob settings now runner lease job
      let db := ({ db with nextUuid := db.nextUuid + 1 } : ValidationDb).saveJob claimed
      let db : ValidationDb := { db with
        attempts := db.attempts ++
          [{ job := job.id
             number := claimed.attemptCount
             runner := runner.id
             leaseToken := lease }] }
      .ok (db.saveRunner runner "busy" now)

/-! ## heartbeat -/

/-- `_validate_lease`: the exception, if it raises. -/
def validateLease (texts : ValidationTexts) (job : ValidationJob) (runner : ValidationRunner)
    (leaseToken : Json) : Option ValidationRaised :=
  if job.runner ≠ some runner.id ∨
      job.leaseToken.elim "" texts.uuidText ≠
        (if leaseToken.truthy then texts.str leaseToken else "") then
    some (.state "作业租约不匹配")
  else if job.state.isTerminal then some (.state "作业已结束")
  else none

/-- `payload.get("lease_token", "")`. -/
def leaseOf (payload : List (String × Json)) : Json := (Json.get? payload "lease_token").getD (.str "")

/-- `int(payload.get("progress_percent", job.progress_percent))`. -/
def reportedProgress (texts : ValidationTexts) (job : ValidationJob)
    (payload : List (String × Json)) : Option ℤ :=
  match Json.get? payload "progress_percent" with
  | some value => texts.int? value
  | none => some job.progressPercent

/-- The word a heartbeat reports: `str(payload.get("state") or job.state)`. -/
def reportedState (texts : ValidationTexts) (job : ValidationJob)
    (payload : List (String × Json)) : String :=
  texts.str (Json.getOr payload "state" (.str job.state.text))

def beatJob (settings : ValidationSettings) (texts : ValidationTexts) (now : ℕ)
    (payload : List (String × Json)) (state : JobState) (progress : ℕ) (job : ValidationJob) :
    ValidationJob :=
  { job with
    state := if job.state = .cancelling then .cancelling else state
    progressPercent := progress
    leaseExpiresAt := some (now + seconds settings.runnerLeaseSeconds)
    liveBridgeUrl :=
      truncated 512 (texts.str (Json.getOr payload "live_bridge_url" (.str job.liveBridgeUrl)))
    stackGitSha := truncated 64 (texts.str (Json.getOr payload "stack_git_sha" (.str job.stackGitSha)))
    stackImageDigest :=
      truncated 160 (texts.str (Json.getOr payload "stack_image_digest" (.str job.stackImageDigest))) }

def heartbeat (settings : ValidationSettings) (texts : ValidationTexts) (now : ℕ) (db : ValidationDb)
    (id : Uuid) (runner : ValidationRunner) (payload : List (String × Json)) :
    Except ValidationRaised ValidationDb :=
  match db.job? id with
  | none => .error (.other "DoesNotExist")
  | some job =>
    match validateLease texts job runner (leaseOf payload) with
    | some raised => .error raised
    | none =>
      match JobState.reported? (reportedState texts job payload) with
      | none => .error (.state "Runner 上报了非法作业状态")
      | some state =>
        match reportedProgress texts job payload with
        | none => .error (.other "ValueError")
        | some progress =>
          if progress < job.progressPercent ∨ 100 < progress then
            .error (.state "作业进度必须单调且不超过 100")
          else
            match db.attempt? id job.attemptCount with
            | none => .error (.other "DoesNotExist")
            | some attempt =>
              let beat := beatJob settings texts now payload state progress.toNat job
              let db := (db.saveJob beat).saveRunner runner "busy" now
              .ok (db.saveAttempt
                { attempt with
                  state := beat.state
                  runtimeMetrics := Json.getOr payload "runtime_metrics" attempt.runtimeMetrics })

/-! ## complete -/

def computeVerdict (statuses : List ValidationVerdict) (hasBaseline : Bool) : ValidationVerdict :=
  if .fail ∈ statuses then .fail
  else if .warn ∈ statuses ∨ hasBaseline = false ∨ .notEvaluated ∈ statuses then .warn
  else .pass

def checkResult (texts : ValidationTexts) (job : Uuid) (raw : List (String × Json)) (ruleId : String)
    (status : ValidationVerdict) : ValidationCheckResult where
  job := job
  ruleId := ruleId
  title := truncated 256
    (texts.str (Json.getOr raw "title" (Json.getOr raw "rule_id" (.str "未命名检查"))))
  category := truncated 64 (texts.str (Json.getOr raw "category" (.str "general")))
  status := status
  severity := truncated 16 (texts.str (Json.getOr raw "severity" (.str "error")))
  hardFailure := ((Json.get? raw "hard_failure").getD (.bool false)).truthy
  metricName := truncated 128 (texts.str (Json.getOr raw "metric_name" (.str "")))
  actualValue := (Json.get? raw "actual_value").getD .null
  expectedValue := (Json.get? raw "expected_value").getD .null
  startTimeNs := (Json.get? raw "start_time_ns").getD .null
  endTimeNs := (Json.get? raw "end_time_ns").getD .null
  topics := Json.getOr raw "topics" (.arr [])
  evidence := Json.getOr raw "evidence" (.obj [])
  message := texts.str (Json.getOr raw "message" (.str ""))

/-- The loop of `complete` over the reported checks. -/
def normalizeChecks (texts : ValidationTexts) (job : Uuid) (seen : List String) :
    List Json → Except ValidationRaised (List ValidationCheckResult)
  | [] => .ok []
  | .obj raw :: checks =>
    let ruleId := truncated 128 (texts.str (Json.getOr raw "rule_id" (.str "unknown")))
    match ValidationVerdict.ofText? (texts.upper (texts.str (Json.getOr raw "status" (.str "NOT_EVALUATED")))) with
    | none => .error (.state "Runner 上报了非法检查状态")
    | some status =>
      if ruleId ∈ seen then .error (.state "Runner 上报了重复 rule_id")
      else
        match normalizeChecks texts job (ruleId :: seen) checks with
        | .error raised => .error raised
        | .ok rows => .ok (checkResult texts job raw ruleId status :: rows)
  | _ :: _ => .error (.state "Runner 检查结果项格式无效")

/-- `payload.get("checks") or []`, which must be a list of at most 500 items. -/
def reportedChecks (payload : List (String × Json)) : Except ValidationRaised (List Json) :=
  match Json.getOr payload "checks" (.arr []) with
  | .arr checks =>
    if 500 < checks.length then .error (.state "Runner 检查结果必须是最多 500 项的列表")
    else .ok checks
  | _ => .error (.state "Runner 检查结果必须是最多 500 项的列表")

/-- The end of `complete`: what is saved of the job, the attempt and the runner. -/
def conclude (now : ℕ) (db : ValidationDb) (runner : ValidationRunner) (job : ValidationJob)
    (attempt : ValidationAttempt) : ValidationDb :=
  let job :=
    { job with
      finishedAt := if job.state.isTerminal then some now else none
      leaseExpiresAt := if job.state.isTerminal then none else job.leaseExpiresAt }
  ((db.saveJob job).saveAttempt { attempt with finishedAt := some now }).saveRunner runner "idle" now

/-- The branch of `complete` for a job that is being cancelled or whose runner says so. -/
def completeCancelled (now : ℕ) (db : ValidationDb) (runner : ValidationRunner)
    (job : ValidationJob) (attempt : ValidationAttempt) : ValidationDb :=
  conclude now db runner { job with state := .cancelled, verdict := .notEvaluated }
    { attempt with state := .cancelled }

/-- The attempt of a runner that reports an infrastructure error. -/
def failedAttempt (texts : ValidationTexts) (payload : List (String × Json))
    (attempt : ValidationAttempt) : ValidationAttempt :=
  { attempt with
    state := .infraError
    errorCode := truncated 64 (texts.str (Json.getOr payload "error_code" (.str "RUNNER_FAILED")))
    errorMessage := texts.str (Json.getOr payload "error_message" (.str "Runner 执行失败")) }

/-- The branch of `complete` for an infrastructure error. -/
def completeInfraError (settings : ValidationSettings) (texts : ValidationTexts) (now : ℕ)
    (db : ValidationDb) (runner : ValidationRunner) (job : ValidationJob)
    (attempt : ValidationAttempt) (payload : List (String × Json)) : ValidationDb :=
  let failed := failedAttempt texts payload attempt
  if job.attemptCount < settings.maxAttempts then
    ((db.saveAttempt { failed with finishedAt := some now }).saveRunner runner "idle" now).saveJob
      (requeued job)
  else
    conclude now db runner
      { job with
        state := .infraError
        verdict := .notEvaluated
        errorCode := failed.errorCode
        errorMessage := failed.errorMessage }
      failed

def completedJob (texts : ValidationTexts) (payload : List (String × Json)) (verdict : ValidationVerdict)
    (job : ValidationJob) : ValidationJob :=
  { job with
    state := .completed
    verdict := verdict
    progressPercent := 100
    summary := Json.getOr payload "summary" (.obj [])
    stackGitSha := truncated 64 (texts.str (Json.getOr payload "stack_git_sha" (.str job.stackGitSha)))
    stackImageDigest :=
      truncated 160 (texts.str (Json.getOr payload "stack_image_digest" (.str job.stackImageDigest))) }

/-- The branch of `complete` for every other outcome. -/
def completeChecked (texts : ValidationTexts) (now : ℕ) (db : ValidationDb)
    (runner : ValidationRunner) (job : ValidationJob) (attempt : ValidationAttempt)
    (payload : List (String × Json)) : Except ValidationRaised ValidationDb :=
  match reportedChecks payload with
  | .error raised => .error raised
  | .ok checks =>
    match normalizeChecks texts job.id [] checks with
    | .error raised => .error raised
    | .ok rows =>
      let verdict := computeVerdict (rows.map ValidationCheckResult.status) job.baselineJob.isSome
      let db : ValidationDb := { db with
        checkResults := db.checkResults.filter (fun c => c.job ≠ job.id) ++ rows }
      .ok (conclude now db runner (completedJob texts payload verdict job)
        { attempt with
          state := .completed
          runtimeMetrics := Json.getOr payload "runtime_metrics" (.obj []) })

/-- `str(payload.get("outcome") or "completed")`. -/
def outcomeOf (texts : ValidationTexts) (payload : List (String × Json)) : String :=
  texts.str (Json.getOr payload "outcome" (.str "completed"))

def complete (settings : ValidationSettings) (texts : ValidationTexts) (now : ℕ) (db : ValidationDb)
    (id : Uuid) (runner : ValidationRunner) (payload : List (String × Json)) :
    Except ValidationRaised ValidationDb :=
  match db.job? id with
  | none => .error (.other "DoesNotExist")
  | some job =>
    match validateLease texts job runner (leaseOf payload) with
    | some raised => .error raised
    | none =>
      match db.attempt? id job.attemptCount with
      | none => .error (.other "DoesNotExist")
      | some attempt =>
        if outcomeOf texts payload = "cancelled" ∨ job.state = .cancelling then
          .ok (completeCancelled now db runner job attempt)
        else if outcomeOf texts payload = "infra_error" then
          .ok (completeInfraError settings texts now db runner job attempt payload)
        else completeChecked texts now db runner job attempt payload

/-! ## request_cancel -/

/-- The job whose cancellation is requested. -/
def cancelRequested (now : ℕ) (job : ValidationJob) : ValidationJob :=
  if job.state.isTerminal then job
  else if job.state = .queued then
    { job with state := .cancelled, finishedAt := some now, verdict := .notEvaluated }
  else { job with state := .cancelling, cancelRequestedAt := some now }

def requestCancel (now : ℕ) (db : ValidationDb) (id : Uuid) : Except ValidationRaised ValidationDb :=
  match db.job? id with
  | none => .error (.other "DoesNotExist")
  | some job => .ok (db.saveJob (cancelRequested now job))

end ValidationDb

/-! ## The service as a system -/

inductive ValidationCall
  | createJob (now : ℕ) (request : JobRequest)
  | claim (now : ℕ) (runner : ValidationRunner)
  | heartbeat (now : ℕ) (job : Uuid) (runner : ValidationRunner) (payload : List (String × Json))
  | complete (now : ℕ) (job : Uuid) (runner : ValidationRunner) (payload : List (String × Json))
  | requestCancel (now : ℕ) (job : Uuid)
  | reclaimExpired (now : ℕ)

namespace ValidationDb

/-- What a call returns, as far as the tables go. -/
def call (settings : ValidationSettings) (texts : ValidationTexts) (db : ValidationDb) :
    ValidationCall → Except ValidationRaised ValidationDb
  | .createJob now request => db.createJob texts now request
  | .claim now runner => db.claim settings texts now runner
  | .heartbeat now job runner payload => db.heartbeat settings texts now job runner payload
  | .complete now job runner payload => db.complete settings texts now job runner payload
  | .requestCancel now job => db.requestCancel now job
  | .reclaimExpired now => .ok (db.reclaimExpired settings now)

/-- A call that raises changes nothing. -/
def step (settings : ValidationSettings) (texts : ValidationTexts) (db : ValidationDb)
    (c : ValidationCall) : ValidationDb :=
  match db.call settings texts c with
  | .ok db' => db'
  | .error _ => db

end ValidationDb

end RoamerX
