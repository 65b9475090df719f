import RoamerX.PatrolLoop.Session

set_option autoImplicit false

/-! # The patrol-loop service

`PatrolLoopService` of `monitoring/services/patrol_loop_service.py`. `process` is the supervisor's
poll; `pause`, `resume`, `continueRecovery`, `stop` are the operator's calls and
`terminateLowBattery` the battery policy's. Each is one transaction: an exception leaves the
database as it was, so a call is a function into `Except ServiceError LoopDb`.

The branches of `process` are functions of their own, in the order of the source. A branch that
reads an execution object fetched earlier in the same call gets that row as an argument, because
`transition` saves through an object of its own and leaves the caller's object as it was. -/

namespace RoamerX

/-- The row is the recording stop of this loop. -/
def RemoteCommand.isRosbagStop (c : RemoteCommand) (session : Uuid) : Bool :=
  c.commandType = .navRosbagStop &&
    match c.payload with
    | .rosbagStop loopSessionId _ => loopSessionId = session
    | _ => false

namespace LoopDb

/-- `session.current_execution`, read from the database. -/
def currentExecution (s : LoopDb) : Option TaskExecution :=
  s.session.currentExecution.bind s.center.execution?

def withSession (s : LoopDb) (session : PatrolLoopSession) : LoopDb := { s with session := session }

def withCenter (s : LoopDb) (center : CenterDb) : LoopDb := { s with center := center }

/-! ## State changes -/

def ensureRecordingStop (s : LoopDb) (reason : String) : LoopDb :=
  if s.session.metadata.recordRosbag = false then s
  else
    let issued := s.center.commands.find? (fun c => c.isRosbagStop s.session.id)
    let (center, command) :=
      match issued with
      | some command => (s.center, command)
      | none =>
        s.center.createRobotCommand .navRosbagStop
          (.rosbagStop s.session.id (if reason ≠ "" then reason else "loop_terminal"))
          (24 * 60 * 60)
    { s with
      center := center
      session := { s.session with
        metadata := { s.session.metadata with
          recordingStopCommandId := some command.id
          recordingStopRequestedAt := some center.now } } }

/-- `_set_state`. The reason of the loop event is only used to name a recording stop. -/
def setState (s : LoopDb) (state : LoopState) (nextActionAt : Option ℕ) (terminal : Bool)
    (reasonCode : String) : LoopDb :=
  let s := s.withSession
    { s.session with
      state := state
      stateVersion := s.session.stateVersion + 1
      nextActionAt := nextActionAt.getD s.session.nextActionAt
      finishedAt := if terminal then some s.center.now else s.session.finishedAt }
  if terminal then s.ensureRecordingStop reasonCode else s

/-- `session.next_action_at = now + 1 s; session.save(...)`. -/
def reschedule (s : LoopDb) : LoopDb :=
  s.withSession { s.session with nextActionAt := s.center.now + seconds 1 }

def isDockingExecution (db : CenterDb) (execution : Option TaskExecution) : Bool :=
  match execution with
  | none => false
  | some e =>
    match (db.commandsOf e.id .taskStart).head? with
    | some { payload := .start p, .. } => p.docking.enabled
    | _ => false

def forceExitExecution (db : CenterDb) (execution : Option TaskExecution) (reason : String) :
    Except ServiceError CenterDb :=
  match execution with
  | none => .ok db
  | some e =>
    if e.state.isActive = false then .ok db
    else if isDockingExecution db (some e) then .ok db
    else if (db.commandsOf e.id .taskForceExit).any (fun c => c.status.isOpen) then .ok db
    else
      match db.createCommand e.id .taskForceExit { reason := reason } with
      | .error err => .error err
      | .ok (db', _) => .ok db'

/-! ## Operator calls -/

/-- The row `pause` saves: manually paused, polled again in a second. -/
def setManuallyPaused (s : LoopDb) : LoopDb :=
  (s.withSession { s.session with manualPaused := true }).setState .paused
    (some (s.center.now + seconds 1)) false ""

def pause (s : LoopDb) : Except ServiceError LoopDb :=
  if s.session.state.isActive = false then .error (.patrolLoop "循环已结束")
  else
    match s.currentExecution with
    | some e =>
      if e.state ∈ [ExecutionState.accepted, .running, .resuming] then
        match s.center.createCommand e.id .taskPause {} with
        | .error err => .error err
        | .ok (center, _) => .ok (s.withCenter center).setManuallyPaused
      else .ok s.setManuallyPaused
    | none => .ok s.setManuallyPaused

def continueRecovery (s : LoopDb) : Except ServiceError LoopDb :=
  if s.session.state.isTerminal then .error (.patrolLoop "循环已结束，不能继续恢复")
  else if s.session.state = .recovering then .error (.patrolLoop "循环正在自愈，请勿重复继续")
  else if s.session.state = .stopping then
    .error (.patrolLoop "正在确认机器人停车，确认完成后才能继续")
  else if s.session.state ≠ .paused ∧ s.session.state ≠ .observing then
    .error (.patrolLoop "当前循环状态无需人工继续")
  else
    let verdict := observationSafety s.center
    if verdict.safe = false then
      .error (.patrolLoop
        (if verdict.code = "MANUAL_TAKEOVER" then "先退出人工接管"
         else "安全条件未满足：" ++ verdict.message))
    else
      match s.currentExecution with
      | none => .error (.patrolLoop "当前任务没有可恢复的已保存执行上下文")
      | some e =>
        if e.state ∉ [ExecutionState.paused, .interrupted, .accepted, .running, .resuming] then
          .error (.patrolLoop "当前任务没有可恢复的已保存执行上下文")
        else
          let s := { s with
            center := { s.center with nextUuid := s.center.nextUuid + 1 }
            session := { s.session with
              manualPaused := false
              observationStartedAt := none
              recoveryEpisodeId := some s.center.nextUuid
              recoveryAttempt := 0
              recoveryReasonCode := "OPERATOR_CONTINUE"
              recoveryReasonMessage := "操作员要求继续，重新执行安全观察后恢复"
              metadata := { s.session.metadata with
                continuationRequired := false, recoveryInProgressStartedAt := none } } }
          .ok (s.setState .observing (some s.center.now) false "OPERATOR_CONTINUE")

def resume (s : LoopDb) : Except ServiceError LoopDb := s.continueRecovery

def stop (s : LoopDb) : Except ServiceError LoopDb :=
  if s.session.state.isTerminal then .ok s
  else
    match forceExitExecution s.center s.currentExecution "loop_operator_stop" with
    | .error err => .error err
    | .ok center =>
      let s := s.withCenter center
      .ok ((s.withSession { s.session with manualPaused := false }).setState .cancelled none true
        "OPERATOR_STOP")

/-! ## Battery policy -/

/-- `str(episode_key)[:128]`. -/
def episodeKey (key : String) : String := String.ofList (key.toList.take 128)

/-- The loop of `terminate_low_battery` over the active executions. -/
def forceExitExecutions (db : CenterDb) : List TaskExecution → Except ServiceError CenterDb
  | [] => .ok db
  | e :: es =>
    if isDockingExecution db (some e) then forceExitExecutions db es
    else
      match forceExitExecution db (some e) "LOW_BATTERY" with
      | .error err => .error err
      | .ok db => forceExitExecutions db es

/-- The episode row of `terminate_low_battery`: the active one, or a new one. -/
def withEpisode (s : LoopDb) (key : String) (batteryPercent : ℤ) (source : String) : LoopDb :=
  match s.center.lowBatteryEpisodes.find? (fun ep => ep.active) with
  | some _ => s
  | none =>
    s.withCenter { s.center with
      lowBatteryEpisodes := s.center.lowBatteryEpisodes ++
        [{ episodeKey := episodeKey key
           batteryPercent := max 0 (min 100 batteryPercent)
           thresholdPercent := lowBatteryPercent
           rearmPercent := lowBatteryRearmPercent
           source := source
           triggeredAt := s.center.now : RobotLowBatteryEpisode }] }

/-- What `terminate_low_battery` saves in a session it stops. -/
def batteryStopped (s : LoopDb) (batteryPercent : ℤ) : LoopDb :=
  (s.withSession { s.session with
      manualPaused := false
      lastError := "电量 " ++ toString batteryPercent ++ "% 低于巡逻阈值" }).setState
    .lowBatteryStopped none true "LOW_BATTERY"

/-- `terminate_low_battery`. The executions are listed before the session is stopped. -/
def terminateLowBattery (s : LoopDb) (key : String) (batteryPercent : ℤ) (source : String) :
    Except ServiceError LoopDb :=
  let known := s.center.lowBatteryEpisodes.find? (fun ep => ep.episodeKey = episodeKey key)
  -- a replayed alert of a cleared episode stops nothing
  if known.any (fun ep => !ep.active) then .ok s
  else
    let s₁ := s.withEpisode key batteryPercent source
    let s₂ :=
      if s₁.session.state.isActive = false then s₁
      else if isDockingExecution s₁.center s₁.currentExecution then s₁
      else s₁.batteryStopped batteryPercent
    match forceExitExecutions s₂.center s₁.center.activeExecutions with
    | .error err => .error err
    | .ok center => .ok (s₂.withCenter center)

/-- `observe_battery` up to the call of `terminate_low_battery`: the state with the sample taken,
    and whether the second sample has been reached. -/
def sampleBattery (s : LoopDb) (latest : RobotStatusLatest) : LoopDb × Bool :=
  if latest.powerAvailable = false then (s, false)
  else match latest.batteryPercent with
    | none => (s, false)
    | some percent =>
      let active := s.center.lowBatteryEpisodes.find? (fun ep => ep.active)
      if active.any (fun ep => ep.rearmPercent ≤ percent) then
        (s.withCenter { s.center with
          lowBatteryEpisodes := s.center.lowBatteryEpisodes.map (fun ep =>
            if ep.active then { ep with active := false, clearedAt := some s.center.now }
            else ep) }, false)
      else if lowBatteryPercent ≤ percent ∨ active.isSome then (s, false)
      else
        let sample := s.lowBatterySample.filter (fun x => s.center.now < x.expiresAt)
        if sample.any (fun x => x.version = latest.stateVersion) then (s, false)
        else
          let count := sample.elim 0 LowBatterySample.count + 1
          ({ s with
              lowBatterySample :=
                some ⟨count, latest.stateVersion, s.center.now + seconds 60⟩ }, 2 ≤ count)

def observeBattery (s : LoopDb) (latest : RobotStatusLatest) : Except ServiceError LoopDb :=
  let (s', reached) := s.sampleBattery latest
  if reached then
    match s'.terminateLowBattery
        ("center-" ++ toString s.center.robot.id ++ "-" ++ toString latest.stateVersion)
        (latest.batteryPercent.getD 0) "center_telemetry" with
    | .error err => .error err
    | .ok s'' => .ok { s'' with lowBatterySample := none }
  else .ok s'

/-! ## Branches of `process` -/

def ensureManualPause (s : LoopDb) : Except ServiceError LoopDb :=
  match s.currentExecution with
  | some e =>
    if e.state ∈ [ExecutionState.accepted, .running, .resuming] ∧
        (s.center.commandsOf e.id .taskPause).any (fun c => c.status.isOpen) = false then
      match s.center.createCommand e.id .taskPause {} with
      | .error err => .error err
      | .ok (center, _) => .ok (s.withCenter center).reschedule
    else .ok s.reschedule
  | none => .ok s.reschedule

/-- `force_command`: the latest force-exit of the execution. Commands are stored in the order in
    which they were issued. -/
def latestForceExit (db : CenterDb) (execution : Uuid) : Option RemoteCommand :=
  (db.commandsOf execution .taskForceExit).getLast?

/-- `force_command` has succeeded and its result says that the robot has stopped. -/
def stopConfirmed (command : RemoteCommand) : Bool :=
  command.status = .succeeded && command.resultPayload.robotStopped.getD false

/-- The branch for `stopping`. -/
def processStopping (s : LoopDb) : LoopDb :=
  let execution := s.currentExecution
  let forceCommand := execution.bind (fun e => latestForceExit s.center e.id)
  if forceCommand.any (fun c => c.status.isOpen) then s.reschedule
  else if execution.all (fun e => e.state.isActive = false) then
    let stopped := forceCommand.all stopConfirmed
    if s.session.metadata.stopScopeRound then
      if stopped = false then s.setState .failed none true "ROBOT_STOP_UNCONFIRMED"
      else
        (s.withSession s.session.clearRecoveryEpisode).setState .resting
          (some (s.center.now + seconds s.session.restSeconds)) false "RECOVERY_ATTEMPTS_EXHAUSTED"
    else
      s.setState (if stopped then .completed else .failed) none true
        (if stopped then "LOOP_DEADLINE" else "ROBOT_STOP_UNCONFIRMED")
  else s.reschedule

/-- The branch after the deadline. The execution is the row fetched with the session. -/
def processDeadline (s : LoopDb) : Except ServiceError LoopDb :=
  let execution := s.currentExecution
  match forceExitExecution s.center execution "loop_deadline" with
  | .error err => .error err
  | .ok center =>
    let s := s.withCenter center
    if execution.any (fun e => e.state.isActive) then
      .ok (s.setState .stopping (some (s.center.now + seconds 1)) false "LOOP_DEADLINE")
    else .ok (s.setState .completed none true "LOOP_DEADLINE")

def beginObservation (s : LoopDb) (code message : String) : LoopDb :=
  let renew := s.session.recoveryEpisodeId.isNone ∨ s.session.recoveryReasonCode ≠ code
  let s :=
    if renew then
      { s with
        center := { s.center with nextUuid := s.center.nextUuid + 1 }
        session := { s.session with
          recoveryEpisodeId := some s.center.nextUuid, recoveryAttempt := 0 } }
    else s
  (s.withSession { s.session with
      observationStartedAt := none
      recoveryReasonCode := if code ≠ "" then code else "TASK_INTERRUPTED"
      recoveryReasonMessage := if message ≠ "" then message else "任务异常，等待恢复" }).setState
    .observing (some s.center.now) false code

/-- `command_options` of a round's start command. -/
def roundOptions (session : PatrolLoopSession) (roundNumber : ℕ) : CommandOptions where
  recordRosbag := some session.metadata.recordRosbag
  recordRosbagFrozen := true
  continuousRosbag := true
  loopExecution := true
  loopTotal := 1
  loopDirection := some (if roundNumber % 2 = 1 then "forward" else "reverse")

/-- The execution of the next round: the one already created for it, or a new one with its start
    command. -/
def roundExecution (s : LoopDb) (roundNumber : ℕ) :
    Except ServiceError (CenterDb × TaskExecution) :=
  match s.center.findLoopExecution (some s.session.id) roundNumber with
  | some existing => .ok (s.center, existing)
  | none =>
    match s.center.createExecution s.session.task (some s.session.id) roundNumber
        (some s.session.routeSnapshot) "guard_duty" with
    | .error err => .error err
    | .ok (center, execution) =>
      match center.createCommand execution.id .taskStart (roundOptions s.session roundNumber) with
      | .error err => .error err
      | .ok (center, _) => .ok (center, execution)

def dispatchRound (s : LoopDb) : Except ServiceError LoopDb :=
  let roundNumber := s.session.currentRound + 1
  match s.roundExecution roundNumber with
  | .error err => .error err
  | .ok (center, execution) =>
    let s : LoopDb := { s with
      center := center
      session := { s.session with
        currentRound := roundNumber
        currentExecution := some execution.id
        recoveryAttempt := 0
        recoveryEpisodeId := none
        recoveryReasonCode := ""
        recoveryReasonMessage := ""
        observationStartedAt := none } }
    .ok (s.setState .running (some (s.center.now + seconds 1)) false "")

/-- The branch for `starting` and `resting`. -/
def processWaiting (s : LoopDb) : Except ServiceError LoopDb :=
  if s.center.now < s.session.nextActionAt then .ok s
  else
    let verdict := health s.center
    if verdict.safe = false then .ok (s.beginObservation verdict.code verdict.message)
    else s.dispatchRound

/-- The branch for `running`. -/
def processRunning (s : LoopDb) : Except ServiceError LoopDb :=
  match s.currentExecution with
  | none => .ok (s.beginObservation "EXECUTION_MISSING" "循环当前执行缺失")
  | some e =>
    match e.state with
    | .completed =>
      .ok ((s.withSession { s.session with recoveryAttempt := 0 }).setState .resting
        (some (s.center.now + seconds s.session.restSeconds)) false "")
    | .paused | .interrupted =>
      .ok (s.beginObservation (orText e.failureCode "TASK_INTERRUPTED")
        (orText e.failureMessage "任务暂停，准备恢复"))
    | .failed | .cancelled | .timedOut | .rejected =>
      if e.failureCode = "LOW_BATTERY" then
        s.terminateLowBattery ("execution-" ++ toString e.id) s.center.robot.batteryLevel
          "task_terminal"
      else
        .ok (s.beginObservation (orText e.failureCode "ROUND_FAILED")
          (orText e.failureMessage "本轮异常结束，准备下一轮"))
    | .created | .dispatching | .accepted | .running | .pausing | .resuming | .cancelling =>
      .ok s.reschedule

/-- The row `_begin_recovery_stop` saves when the execution is held: paused until the operator
    continues. -/
def holdForOperator (s : LoopDb) (reasonCode : String) : LoopDb :=
  (s.withSession { s.session with
      manualPaused := true
      metadata := { s.session.metadata with continuationRequired := true } }).setState .paused
    (some (s.center.now + seconds 1)) false reasonCode

def beginRecoveryStop (s : LoopDb) (reasonCode : String) : Except ServiceError LoopDb :=
  match s.currentExecution with
  | none => .ok (s.holdForOperator reasonCode)
  | some e =>
    if e.state ≠ .paused ∧ e.state ≠ .interrupted then
      match forceExitExecution s.center (some e) "recovery_attempts_exhausted" with
      | .error err => .error err
      | .ok center =>
        let s := s.withCenter center
        .ok ((s.withSession { s.session with
            metadata := { s.session.metadata with stopScopeRound := true } }).setState .stopping
          (some (s.center.now + seconds 1)) false reasonCode)
    else .ok (s.holdForOperator reasonCode)

/-- `session.recovery_episode_id or uuid.uuid4()`, with the tables after drawing the id. -/
def recoveryEpisode (s : LoopDb) : Uuid × CenterDb :=
  match s.session.recoveryEpisodeId with
  | some episode => (episode, s.center)
  | none => (s.center.nextUuid, { s.center with nextUuid := s.center.nextUuid + 1 })

/-- The dispatch at the end of the observation branch: one more attempt of the episode. -/
def dispatchRecovery (s : LoopDb) (e : TaskExecution) : LoopDb :=
  let attempt := s.session.recoveryAttempt + 1
  let issued := s.recoveryEpisode.2.createTaskRecovery e s.recoveryEpisode.1 attempt
    s.session.recoveryReasonCode s.session.recoveryReasonMessage
  ({ s with
      center := issued.1
      session := { s.session with recoveryAttempt := attempt } }).setState .recovering
    (some (s.center.now + seconds 1)) false ""

/-- The unsafe part of the observation branch: the window starts over. -/
def resetObservation (s : LoopDb) (verdict : Verdict) : LoopDb :=
  let reasonChanged := s.session.metadata.observationBlocker.map Prod.fst ≠ some verdict.code
  let s :=
    if s.session.observationStartedAt.isSome ∨ reasonChanged then
      s.withSession { s.session with
        observationStartedAt := none
        metadata := { s.session.metadata with
          observationBlocker := some (verdict.code, verdict.message) } }
    else s
  s.reschedule

/-- The branch for `observing`. -/
def processObserving (s : LoopDb) : Except ServiceError LoopDb :=
  let execution := s.currentExecution
  if execution.any (fun e => e.state ∈ [ExecutionState.accepted, .running, .resuming]) then
    .ok ((s.withSession s.session.clearRecoveryEpisode).setState .running
      (some (s.center.now + seconds 1)) false "")
  else
    let verdict := observationSafety s.center
    if verdict.safe = false then .ok (s.resetObservation verdict)
    else if s.session.recoveryReasonCode = "COMMAND_TIMED_OUT" ∧
        execution.all (fun e => e.state = .interrupted) then
      .ok (s.withSession { s.session with observationStartedAt := none }).reschedule
    else
      match s.session.observationStartedAt with
      | none =>
        .ok (s.withSession { s.session with observationStartedAt := some s.center.now }).reschedule
      | some started =>
        if s.center.now < started + seconds observationSeconds then .ok s.reschedule
        else
          match execution with
          | none =>
            let delay :=
              if s.session.recoveryReasonCode = "OPERATOR_CONTINUE" then 0
              else s.session.restSeconds
            .ok (s.setState .resting (some (s.center.now + seconds delay)) false "")
          | some e =>
            if e.state.isTerminal then
              let delay :=
                if s.session.recoveryReasonCode = "OPERATOR_CONTINUE" then 0
                else s.session.restSeconds
              .ok (s.setState .resting (some (s.center.now + seconds delay)) false "")
            else if s.session.recoveryMaxAttempts ≤ s.session.recoveryAttempt then
              s.beginRecoveryStop "RECOVERY_ATTEMPTS_EXHAUSTED"
            else .ok (s.dispatchRecovery e)

/-- Back to `observing` for a new window, as three outcomes of a recovery command do. -/
def observeAgain (s : LoopDb) (reasonCode : String) : LoopDb :=
  (s.withSession { s.session with observationStartedAt := none }).setState .observing
    (some s.center.now) false reasonCode

/-- The wait for an asynchronous recovery, in the branch for `recovering`. -/
def processInProgress (s : LoopDb) (result : ResultPayload) : LoopDb :=
  let action := (s.session.metadata.recoveryInProgressAction.filter (· ≠ "")).getD
    (result.recoveryAction.getD "")
  let timeout := recoveryInProgressTimeout action
  match s.session.metadata.recoveryInProgressStartedAt with
  | none =>
    (s.withSession { s.session with
      metadata := { s.session.metadata with
        recoveryInProgressStartedAt := some s.center.now
        recoveryInProgressAction := some action
        recoveryInProgressTimeoutSeconds := some timeout
        recoveryInProgressReasonMessage :=
          some (orText (result.reasonMessage.getD "") s.session.recoveryReasonMessage) } }).reschedule
  | some started =>
    if s.center.now < started + seconds timeout then s.reschedule
    else
      (s.withSession { s.session with
        metadata := { s.session.metadata with
          recoveryInProgressStartedAt := none
          recoveryInProgressAction := none
          recoveryInProgressTimeoutSeconds := none
          recoveryInProgressReasonMessage := none } }).observeAgain "RECOVERY_IN_PROGRESS_TIMEOUT"

/-- The recovery command of the current execution, episode and attempt. -/
def recoveryCommand (s : LoopDb) : Option RemoteCommand :=
  match s.session.currentExecution, s.session.recoveryEpisodeId with
  | some execution, some episode =>
    s.center.commands.find? (fun c => c.isRecovery execution episode s.session.recoveryAttempt)
  | _, _ => none

/-- The branch for `recovering`. -/
def processRecovering (s : LoopDb) : Except ServiceError LoopDb :=
  match s.recoveryCommand with
  | none => .ok (s.observeAgain "RECOVERY_COMMAND_MISSING")
  | some command =>
    match command.status with
    | .failed | .cancelled | .rejected | .timedOut | .expired =>
      .ok (s.observeAgain command.errorCode)
    | .created | .published | .accepted | .executing => .ok s.reschedule
    | .succeeded =>
      if s.currentExecution.any
          (fun e => e.state ∈ [ExecutionState.running, .accepted, .resuming]) then
        .ok ((s.withSession s.session.clearRecoveryEpisode).setState .running
          (some (s.center.now + seconds 1)) false "")
      else
        match command.resultPayload.recoveryStatus with
        | some .inProgress => .ok (s.processInProgress command.resultPayload)
        | some .nonRetryable =>
          s.beginRecoveryStop
            (orText (command.resultPayload.reasonCode.getD "") "RECOVERY_NON_RETRYABLE")
        | _ => .ok (s.observeAgain "")

/-- The branches after the battery sample, by the state of the session. -/
def processState (s : LoopDb) : Except ServiceError LoopDb :=
  match s.session.state with
  | .starting | .resting => s.processWaiting
  | .running => s.processRunning
  | .observing => s.processObserving
  | .recovering => s.processRecovering
  | _ => .ok s

/-- `process` gets as far as the battery sample. -/
def samplesBattery (s : LoopDb) : Bool :=
  !s.session.state.isTerminal && s.session.state ≠ .stopping && s.center.now < s.session.endsAt
    && !s.session.manualPaused && s.session.state ≠ .paused

def process (s : LoopDb) : Except ServiceError LoopDb :=
  if s.session.state.isTerminal then .ok s
  else if s.session.state = .stopping then .ok s.processStopping
  else if s.session.endsAt ≤ s.center.now then s.processDeadline
  else if s.session.manualPaused ∨ s.session.state = .paused then s.ensureManualPause
  else
    match s.center.latest with
    | none => s.processState
    | some latest =>
      match s.observeBattery latest with
      | .error err => .error err
      | .ok s' => if s'.session.state.isTerminal then .ok s' else s'.processState

/-- What a failed `process` leaves: the transaction is rolled back, the cache is not. -/
def failedProcess (s : LoopDb) : LoopDb :=
  if s.samplesBattery = false then s
  else
    match s.center.latest with
    | none => s
    | some latest =>
      match s.observeBattery latest with
      | .error _ => { s with lowBatterySample := (s.sampleBattery latest).1.lowBatterySample }
      | .ok s' => { s with lowBatterySample := s'.lowBatterySample }

/-! ## The session as a state machine -/

/-- `create_session`, on a robot without an active loop and with the session id left to
    `uuid4`. -/
def createSession (db : CenterDb) (task : PatrolTask) (durationSeconds restSeconds : ℕ)
    (selfHealEnabled : Bool) : Except ServiceError LoopDb :=
  if durationSeconds = 0 then .error (.patrolLoop "duration_seconds 必须大于 0")
  else if selfHealEnabled = false then .error (.patrolLoop "中心循环自愈功能当前未启用")
  else if db.executions.any (fun e => e.state.isActive) then
    .error (.patrolLoop "该机器人已有活动任务")
  else
    match (if task.enabled then task.route else none) with
    | none => .error (.patrolLoop "巡逻任务未启用或缺少路线")
    | some route =>
      if db.robot.effectiveConnectionStatus db.now ≠ .online then
        .error (.patrolLoop "机器狗 Edge Agent 当前离线")
      else if db.robot.localizationStatus ≠ .normal ∨ db.robot.navReady = false then
        .error (.patrolLoop "机器狗定位或导航栈未就绪")
      else if db.robot.capabilities ≠ [] ∧ "task.recover.v1" ∉ db.robot.capabilities then
        .error (.patrolLoop "当前 Edge 版本不支持中心循环自愈，请先升级 Edge")
      else
        match db.ensureBatteryAllows .taskStart false with
        | some message => .error (.permissionDenied message)
        | none =>
          match route.snapshot with
          | .error code => .error (.taskState code)
          | .ok snapshot =>
            .ok
              { center := { db with nextUuid := db.nextUuid + 1 }
                session :=
                  { id := db.nextUuid
                    task := task
                    routeSnapshot := snapshot
                    durationSeconds := durationSeconds
                    restSeconds := restSeconds
                    startedAt := db.now
                    endsAt := db.now + seconds durationSeconds
                    nextActionAt := db.now
                    recoveryMaxAttempts := maxRecoveryAttempts
                    metadata := { recordRosbag := route.recordRosbag || task.recordRosbag } } }

end LoopDb

/-- What can happen to a session: a poll, an operator call, the battery policy, the passing of
    time, and what the Edge and the other services write — the latest status, the outcome of a
    command, and the state of an execution. -/
inductive LoopLabel
  | process
  | pause
  | resume
  | continueRecovery
  | stop
  | lowBattery (episodeKey : String) (batteryPercent : ℤ) (source : String)
  | advance (microseconds : ℕ)
  | telemetry (latest : RobotStatusLatest) (robot : Robot)
  | commandOutcome (command : Uuid) (status : CommandStatus) (result : ResultPayload)
      (errorCode errorMessage : String)
  | executionState (execution : Uuid) (state : ExecutionState) (versions : ℕ)
      (failureCode failureMessage : String)

namespace LoopDb

/-- Another writer's outcome for a command. -/
def setCommandOutcome (db : CenterDb) (command : Uuid) (status : CommandStatus)
    (result : ResultPayload) (errorCode errorMessage : String) : CenterDb :=
  db.updateCommand command (fun c =>
    { c with
      status := status
      resultPayload := result
      errorCode := errorCode
      errorMessage := errorMessage })

/-- Another writer's state for an execution; its version does not decrease. -/
def setExecutionState (db : CenterDb) (execution : Uuid) (state : ExecutionState) (versions : ℕ)
    (failureCode failureMessage : String) : CenterDb :=
  match db.execution? execution with
  | none => db
  | some e =>
    db.saveExecution
      { e with
        state := state
        stateVersion := e.stateVersion + versions
        failureCode := failureCode
        failureMessage := failureMessage }

/-- The result of a call: a call that raises changes nothing. -/
def commit (s : LoopDb) (result : Except ServiceError LoopDb) : LoopDb :=
  match result with
  | .ok s' => s'
  | .error _ => s

def step (s : LoopDb) : LoopLabel → LoopDb
  | .process => s.failedProcess.commit s.process
  | .pause => s.commit s.pause
  | .resume => s.commit s.resume
  | .continueRecovery => s.commit s.continueRecovery
  | .stop => s.commit s.stop
  | .lowBattery key percent source => s.commit (s.terminateLowBattery key percent source)
  | .advance d => s.withCenter { s.center with now := s.center.now + d }
  | .telemetry latest robot => s.withCenter { s.center with latest := some latest, robot := robot }
  | .commandOutcome command status result errorCode errorMessage =>
    s.withCenter (setCommandOutcome s.center command status result errorCode errorMessage)
  | .executionState execution state versions failureCode failureMessage =>
    s.withCenter
      (setExecutionState s.center execution state versions failureCode failureMessage)

end LoopDb

end RoamerX
