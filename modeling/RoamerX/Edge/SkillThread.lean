import Mathlib.Data.List.Basic
import Mathlib.Data.Rat.Floor
import RoamerX.Protocol.Json

set_option autoImplicit false

/-! # The thread of a remote skill

A run of `TeleopSkillExecutor` on its thread: it works the steps of its plan off, reports, and ends with a zero velocity.
One step of the model is one call to the navigation adapter or to the callback, one section under the lock, or one look
at the cancel event. The numbers are exact rationals, and what the clock and the adapter answer comes with each step. -/

namespace RoamerX

namespace SkillExecutor

/-! ## Plans -/

inductive Failure
  | protocol (error : ProtocolError)
  | other (message : String)
  deriving DecidableEq

namespace Failure

def code : Failure → Option String
  | protocol error => some error.code
  | other _ => none

def message : Failure → String
  | protocol error => error.message
  | other message => message

end Failure

inductive Step
  | action (action : String)
  | speed (level : String)
  | velocity (vx vy yawRate durationSeconds : ℚ)
  | turn (angleRad yawRate : ℚ)
  | distance (axis : String) (distanceM speedMps : ℚ)
  | avoidForward (durationSeconds speedMps : ℚ)
  /-- A kind that no branch takes. -/
  | other (kind : String)
  /-- A field that is no number. -/
  | unreadable (message : String)
  deriving DecidableEq

structure Template where
  name : String
  description : String
  steps : List Step

/-- `math.pi`, and below its half and its double, as they are stored. -/
def pi : ℚ := 884279719003555 / 281474976710656
def halfPi : ℚ := pi / 2
def tau : ℚ := 2 * pi

def presetSkills : List Template :=
  [ ⟨"prone_forward_5s", "匍匐前进 5 秒", [.action "lie_down", .velocity 0.35 0 0 5]⟩,
    ⟨"prone_backward_5s", "匍匐后退 5 秒", [.action "lie_down", .velocity (-0.35) 0 0 5]⟩,
    ⟨"micro_reverse_5s", "微速后退 5 秒", [.speed "micro", .velocity (-0.35) 0 0 5]⟩,
    ⟨"micro_forward_5s", "微速前进 5 秒", [.speed "micro", .velocity 0.35 0 0 5]⟩,
    ⟨"prone_forward_5m", "匍匐前进 5 米", [.action "lie_down", .distance "forward" 5 0.35]⟩,
    ⟨"prone_backward_5m", "匍匐后退 5 米", [.action "lie_down", .distance "backward" 5 0.35]⟩,
    ⟨"micro_forward_5m", "微速前进 5 米", [.speed "micro", .distance "forward" 5 0.35]⟩,
    ⟨"micro_reverse_5m", "微速后退 5 米", [.speed "micro", .distance "backward" 5 0.35]⟩,
    ⟨"turn_left_full_circle", "原地左转一圈", [.turn tau 0.45]⟩,
    ⟨"turn_right_full_circle", "原地右转一圈", [.turn (-tau) 0.45]⟩,
    ⟨"left_two_steps_then_avoid_forward", "左移两步后避障前进",
      [.distance "left" 0.4 0.35, .avoidForward 3 0.35]⟩,
    ⟨"right_two_steps_then_avoid_forward", "右移两步后避障前进",
      [.distance "right" 0.4 0.35, .avoidForward 3 0.35]⟩,
    ⟨"turn_left_and_forward_detour", "左转并前进绕行",
      [.turn halfPi 0.45, .distance "forward" 0.8 0.4, .turn (-halfPi) 0.45, .distance "forward" 1 0.4]⟩,
    ⟨"turn_right_and_forward_detour", "右转并前进绕行",
      [.turn (-halfPi) 0.45, .distance "forward" 0.8 0.4, .turn halfPi 0.45, .distance "forward" 1 0.4]⟩,
    ⟨"turn_left_and_backward_detour", "左转并后退绕行（无后向避障）",
      [.turn halfPi 0.45, .distance "backward" 0.8 0.4, .turn (-halfPi) 0.45, .distance "backward" 1 0.4]⟩,
    ⟨"turn_right_and_backward_detour", "右转并后退绕行（无后向避障）",
      [.turn (-halfPi) 0.45, .distance "backward" 0.8 0.4, .turn halfPi 0.45, .distance "backward" 1 0.4]⟩ ]

structure Command where
  /-- Stripped. -/
  preset : String := ""
  description : String := ""
  /-- None where it is no list; an entry is none where it is no object or has no `kind`. -/
  steps : Option (List (Option Step)) := none

structure Plan where
  description : String
  steps : List Step

def normalizePlan (command : Command) : Except ProtocolError Plan :=
  if command.preset ≠ "" then
    match presetSkills.find? (·.name = command.preset) with
    | none => .error ⟨"SKILL_PRESET_UNKNOWN", s!"unknown preset {command.preset}"⟩
    | some template => .ok ⟨template.description, template.steps⟩
  else
    match command.steps with
    | none | some [] => .error ⟨"SKILL_STEPS_INVALID", "provide a preset or a non-empty steps array"⟩
    | some steps =>
      if 32 < steps.length then
        .error ⟨"SKILL_STEPS_INVALID", "at most 32 steps are supported"⟩
      else if steps.contains none then
        .error ⟨"SKILL_STEPS_INVALID", s!"step {steps.idxOf none} has no kind"⟩
      else
        .ok ⟨if command.description = "" then "AI组合动作" else command.description, steps.filterMap id⟩

/-! ## Runs -/

inductive Status
  | running | succeeded | cancelled | failed
  deriving DecidableEq

structure SkillRun where
  commandId : String
  description : String
  status : Status := .running
  completedSteps : ℕ := 0
  totalSteps : ℕ
  error : String := ""
  /-- `cancel_event` -/
  cancelled : Bool := false
  deriving DecidableEq

/-- `snapshot`, without the time elapsed. -/
structure Snapshot where
  commandId : String
  description : String
  status : Status
  completedSteps : ℕ
  totalSteps : ℕ
  error : Option String
  deriving DecidableEq

def SkillRun.snapshot (run : SkillRun) : Snapshot :=
  ⟨run.commandId, run.description, run.status, run.completedSteps, run.totalSteps,
    if run.error = "" then none else some run.error⟩

structure Report where
  status : Status
  skill : Snapshot
  errorCode : Option String := none
  errorMessage : Option String := none
  deriving DecidableEq

structure Velocity where
  vx : ℚ := 0
  vy : ℚ := 0
  yawRate : ℚ := 0
  deriving DecidableEq

structure Pose where
  x : ℚ
  y : ℚ
  yaw : ℚ

/-- A drive loop with its variables. The turn inside `_avoid_forward` keeps what that loop goes on with. -/
inductive Drive
  | driveFor (velocity : Velocity) (deadline : ℚ)
  | turnByAngle (angle yawRate previousYaw accumulated : ℚ) (avoiding : Option (ℚ × ℚ))
  | driveDistance (startX startY distance : ℚ) (velocity : Velocity)
  | avoidForward (deadline speed : ℚ)
  deriving DecidableEq

inductive Pc
  /-- The head of the loop over the steps. -/
  | head
  | runStep (step : Step)
  /-- The condition of a drive loop, and `_check_cancelled`. -/
  | loop (drive : Drive)
  /-- `latest_pose`, or `obstacle_monitor_snapshot` -/
  | look (drive : Drive)
  /-- `teleop_velocity` -/
  | send (drive : Drive)
  | avoidStop (deadline speed : ℚ)
  | avoidTurn (deadline speed : ℚ)
  /-- The callback after the last step, an exception on its way, the callback after one. -/
  | callSucceeded
  | except (failure : Failure)
  | callFailed (failure : Failure)
  /-- `finally` -/
  | zero
  | release
  | ended
  deriving DecidableEq

structure Thread where
  run : SkillRun
  remaining : List Step
  pc : Pc := .head
  deriving DecidableEq

/-- What the clock and the adapter answer to a step, and what the adapter or the callback raises. -/
structure Reading where
  now : ℚ := 0
  pose : Option Pose := none
  frontObstacleDistanceM : Option ℚ := none
  raises : Option Failure := none

inductive Entry
  | started
  | velocity (velocity : Velocity)
  | reported (report : Report)
  deriving DecidableEq

namespace Thread

def goto (pc : Pc) (thread : Thread) : Thread := { thread with pc := pc }

def fail (code message : String) (thread : Thread) : Thread := thread.goto (.except (.protocol ⟨code, message⟩))

def setStatus (status : Status) (error : String) (thread : Thread) : Thread :=
  { thread with run := { thread.run with status := status, error := error } }

def completeStep (thread : Thread) : Thread :=
  { thread with run := { thread.run with completedSteps := thread.run.completedSteps + 1 }, pc := .head }

@[simp] theorem pc_goto (pc : Pc) (thread : Thread) : (thread.goto pc).pc = pc := rfl

@[simp] theorem pc_fail (code message : String) (thread : Thread) :
    (thread.fail code message).pc = .except (.protocol ⟨code, message⟩) := rfl

@[simp] theorem pc_completeStep (thread : Thread) : thread.completeStep.pc = .head := rfl

def call (reading : Reading) (next : Thread → Thread) (thread : Thread) : Thread :=
  match reading.raises with
  | some failure => thread.goto (.except failure)
  | none => next thread

def checkCancelled (next : Thread → Thread) (thread : Thread) : Thread :=
  if thread.run.cancelled then thread.fail "SKILL_CANCELLED" "skill was cancelled" else next thread

/-- `_turn_by_angle` up to its loop -/
def turnByAngle (reading : Reading) (angle yawRate : ℚ) (avoiding : Option (ℚ × ℚ)) (thread : Thread) : Thread :=
  match reading.pose with
  | none => thread.fail "SKILL_POSE_UNAVAILABLE" "turn angle requires a current localization pose"
  | some pose =>
    if angle = 0 ∨ yawRate = 0 then thread.fail "SKILL_STEP_INVALID" "angle_rad and yaw_rate must be non-zero"
    else thread.goto (.loop (.turnByAngle angle yawRate pose.yaw 0 avoiding))

def vectors (axis : String) : Option (ℚ × ℚ) :=
  if axis = "forward" then some (1, 0)
  else if axis = "backward" then some (-1, 0)
  else if axis = "left" then some (0, 1)
  else if axis = "right" then some (0, -1)
  else none

def speedActions (level : String) : Option String :=
  if level = "micro" then some "speed_micro"
  else if level = "low" then some "speed_slow"
  else if level = "medium" then some "speed_normal"
  else if level = "high" then some "speed_fast"
  else none

/-- `_run_step` up to its loop, or the whole of it for an action or a speed -/
def runStep (reading : Reading) (thread : Thread) : Step → Thread
  | .action action =>
    if action ∈ ["stand_up", "lie_down", "passive"] then thread.call reading completeStep
    else thread.fail "SKILL_STEP_INVALID" s!"unsupported action {action}"
  | .speed level =>
    if (speedActions level).isSome then thread.call reading completeStep
    else thread.fail "SKILL_STEP_INVALID" s!"unsupported speed level {level}"
  | .velocity vx vy yawRate durationSeconds =>
    if durationSeconds ≤ 0 then thread.fail "SKILL_STEP_INVALID" "duration_seconds must be positive"
    else thread.goto (.loop (.driveFor ⟨vx, vy, yawRate⟩ (reading.now + durationSeconds)))
  | .turn angleRad yawRate => thread.call reading (turnByAngle reading angleRad yawRate none)
  | .distance axis distanceM speedMps => thread.call reading fun thread =>
    match reading.pose, vectors axis with
    | none, _ => thread.fail "SKILL_POSE_UNAVAILABLE" "distance movement requires a current localization pose"
    | some _, none =>
      thread.fail "SKILL_STEP_INVALID" "distance step has invalid axis, distance_m or speed_mps"
    | some pose, some (vx, vy) =>
      if distanceM ≤ 0 ∨ speedMps ≤ 0 then
        thread.fail "SKILL_STEP_INVALID" "distance step has invalid axis, distance_m or speed_mps"
      else
        thread.goto (.loop (.driveDistance pose.x pose.y distanceM ⟨vx * speedMps, vy * speedMps, 0⟩))
  | .avoidForward durationSeconds speedMps =>
    if durationSeconds ≤ 0 ∨ speedMps ≤ 0 then
      thread.fail "SKILL_STEP_INVALID" "avoid_forward requires positive duration_seconds and speed_mps"
    else thread.goto (.loop (.avoidForward (reading.now + durationSeconds) speedMps))
  | .other kind => thread.fail "SKILL_STEP_INVALID" s!"unsupported step kind {kind}"
  | .unreadable message => thread.goto (.except (.other message))

/-- The condition of the loop, and the look at the cancel event that its body begins with. -/
def loop (reading : Reading) (thread : Thread) : Drive → Thread
  | .driveFor velocity deadline =>
    if reading.now < deadline then thread.checkCancelled (goto (.send (.driveFor velocity deadline)))
    else thread.completeStep
  | .turnByAngle angle yawRate previousYaw accumulated avoiding =>
    if |accumulated| < |angle| then
      thread.checkCancelled (goto (.look (.turnByAngle angle yawRate previousYaw accumulated avoiding)))
    else
      match avoiding with
      | none => thread.completeStep
      | some (deadline, speed) => thread.goto (.send (.avoidForward deadline speed))
  | .driveDistance startX startY distance velocity =>
    thread.checkCancelled (goto (.look (.driveDistance startX startY distance velocity)))
  | .avoidForward deadline speed =>
    if reading.now < deadline then thread.checkCancelled (goto (.look (.avoidForward deadline speed)))
    else thread.completeStep

/-- `(a + math.pi) % math.tau - math.pi` -/
def normalizeAngle (a : ℚ) : ℚ := (a + pi) - tau * ⌊(a + pi) / tau⌋ - pi

/-- The look at the pose or at the obstacles inside a loop. -/
def look (reading : Reading) (thread : Thread) : Drive → Thread
  | .turnByAngle angle yawRate previousYaw accumulated avoiding =>
    match reading.pose with
    | none => thread.fail "SKILL_POSE_UNAVAILABLE" "localization pose disappeared during turn"
    | some latest =>
      thread.goto (.send (.turnByAngle angle yawRate latest.yaw
        (accumulated + normalizeAngle (latest.yaw - previousYaw)) avoiding))
  | .driveDistance startX startY distance velocity =>
    match reading.pose with
    | none => thread.fail "SKILL_POSE_UNAVAILABLE" "localization pose disappeared during distance step"
    | some latest =>
      -- both sides of `math.hypot(..) >= distance` are squared
      if distance ^ 2 ≤ (latest.x - startX) ^ 2 + (latest.y - startY) ^ 2 then thread.completeStep
      else thread.goto (.send (.driveDistance startX startY distance velocity))
  | .avoidForward deadline speed =>
    match reading.frontObstacleDistanceM with
    | none => thread.goto (.send (.avoidForward deadline speed))
    | some distance =>
      if distance ≤ 0.8 then thread.goto (.avoidStop deadline speed)
      else thread.goto (.send (.avoidForward deadline speed))
  | .driveFor velocity deadline => thread.goto (.send (.driveFor velocity deadline))

end Thread

def Drive.velocity : Drive → Velocity
  | .driveFor velocity _ => velocity
  | .turnByAngle angle yawRate _ _ _ => { yawRate := (if 0 < angle then 1 else -1) * |yawRate| }
  | .driveDistance _ _ _ velocity => velocity
  | .avoidForward _ speed => { vx := speed }

/-- The status that an exception leaves. -/
def Failure.status (failure : Failure) : Status :=
  if failure.code = some "SKILL_CANCELLED" then .cancelled else .failed

namespace Thread

def successReport (thread : Thread) : Report := { status := .succeeded, skill := thread.run.snapshot }

def failureReport (failure : Failure) (thread : Thread) : Report where
  status := thread.run.status
  skill := thread.run.snapshot
  errorCode := some (failure.code.getD "SKILL_EXECUTION_FAILED")
  errorMessage := some failure.message

/-- A step of `_run`, but for the section under the lock at its end. -/
def advance (reading : Reading) (thread : Thread) : Thread × List Entry :=
  match thread.pc with
  | .head =>
    match thread.remaining with
    | [] => ((thread.setStatus .succeeded thread.run.error).goto .callSucceeded, [])
    | step :: rest => ({ thread with remaining := rest }.checkCancelled (goto (.runStep step)), [])
  | .runStep step => (thread.runStep reading step, [])
  | .loop drive => (thread.loop reading drive, [])
  | .look drive => (thread.call reading (look reading · drive), [])
  | .send drive => (thread.call reading (goto (.loop drive)), [.velocity drive.velocity])
  | .avoidStop deadline speed => (thread.call reading (goto (.avoidTurn deadline speed)), [.velocity {}])
  | .avoidTurn deadline speed =>
    (thread.call reading (turnByAngle reading halfPi 0.45 (some (deadline, speed))), [])
  -- the callback is called inside the guarded block
  | .callSucceeded => (thread.call reading (goto .zero), [.reported thread.successReport])
  | .except failure => ((thread.setStatus failure.status failure.message).goto (.callFailed failure), [])
  -- an exception out of the callback passes through `finally` here
  | .callFailed failure => (thread.goto .zero, [.reported (thread.failureReport failure)])
  -- one out of the adapter leaves `finally` before its section under the lock
  | .zero => (thread.goto (if reading.raises.isSome then .ended else .release), [.velocity {}])
  | .release => (thread.goto .ended, [])
  | .ended => (thread, [])

end Thread

/-! ## What a step does -/

def Entry.report? : Entry → Option Report
  | .reported report => some report
  | _ => none

def Entry.velocity? : Entry → Option Velocity
  | .velocity sent => some sent
  | _ => none

def reports (entries : List Entry) : List Report := entries.filterMap Entry.report?

def velocities (entries : List Entry) : List Velocity := entries.filterMap Entry.velocity?

inductive Phase
  | working
  /-- The status is set, the callback still to come. -/
  | succeeded | failed
  /-- The zero velocity is still to come. -/
  | reported
  | closed
  deriving DecidableEq

def Pc.phase : Pc → Phase
  | .callSucceeded => .succeeded
  | .callFailed _ => .failed
  | .zero => .reported
  | .release | .ended => .closed
  | _ => .working

/-- The thread goes on within its steps. -/
structure Works (thread next : Thread) : Prop where
  phase : next.pc.phase = .working
  status : next.run.status = thread.run.status
  commandId : next.run.commandId = thread.run.commandId
  cancelled : next.run.cancelled = thread.run.cancelled

variable {thread : Thread} {reading : Reading} {next : Thread → Thread}

theorem works_goto {pc : Pc} (hpc : pc.phase = .working) (thread : Thread) : Works thread (thread.goto pc) :=
  ⟨hpc, rfl, rfl, rfl⟩

theorem works_fail (code message : String) (thread : Thread) : Works thread (thread.fail code message) :=
  works_goto rfl thread

theorem works_completeStep (thread : Thread) : Works thread thread.completeStep := ⟨rfl, rfl, rfl, rfl⟩

theorem works_call (hnext : Works thread (next thread)) : Works thread (thread.call reading next) := by
  unfold Thread.call
  split
  · exact works_goto rfl thread
  · exact hnext

theorem works_checkCancelled (hnext : Works thread (next thread)) : Works thread (thread.checkCancelled next) := by
  unfold Thread.checkCancelled
  split_ifs
  · exact works_fail _ _ thread
  · exact hnext

theorem works_turnByAngle (reading : Reading) (angle yawRate : ℚ) (avoiding : Option (ℚ × ℚ)) (thread : Thread) :
    Works thread (thread.turnByAngle reading angle yawRate avoiding) := by
  unfold Thread.turnByAngle
  split
  · exact works_fail _ _ thread
  · split_ifs
    · exact works_fail _ _ thread
    · exact works_goto rfl thread

theorem works_runStep (reading : Reading) (thread : Thread) (step : Step) :
    Works thread (thread.runStep reading step) := by
  cases step with
  | action action =>
    simp only [Thread.runStep]
    split_ifs
    · exact works_call (works_completeStep thread)
    · exact works_fail _ _ thread
  | speed level =>
    simp only [Thread.runStep]
    split_ifs
    · exact works_call (works_completeStep thread)
    · exact works_fail _ _ thread
  | velocity vx vy yawRate durationSeconds =>
    simp only [Thread.runStep]
    split_ifs
    · exact works_fail _ _ thread
    · exact works_goto rfl thread
  | turn angleRad yawRate => exact works_call (works_turnByAngle reading angleRad yawRate none thread)
  | distance axis distanceM speedMps =>
    simp only [Thread.runStep]
    refine works_call ?_
    split
    · exact works_fail _ _ thread
    · exact works_fail _ _ thread
    · split_ifs
      · exact works_fail _ _ thread
      · exact works_goto rfl thread
  | avoidForward durationSeconds speedMps =>
    simp only [Thread.runStep]
    split_ifs
    · exact works_fail _ _ thread
    · exact works_goto rfl thread
  | other kind => exact works_fail _ _ thread
  | unreadable message => exact works_goto rfl thread

theorem works_loop (reading : Reading) (thread : Thread) (drive : Drive) :
    Works thread (thread.loop reading drive) := by
  cases drive with
  | driveFor velocity deadline =>
    simp only [Thread.loop]
    split_ifs
    · exact works_checkCancelled (works_goto rfl thread)
    · exact works_completeStep thread
  | turnByAngle angle yawRate previousYaw accumulated avoiding =>
    simp only [Thread.loop]
    split_ifs
    · exact works_checkCancelled (works_goto rfl thread)
    · cases avoiding with
      | none => exact works_completeStep thread
      | some goesOn => exact works_goto rfl thread
  | driveDistance startX startY distance velocity => exact works_checkCancelled (works_goto rfl thread)
  | avoidForward deadline speed =>
    simp only [Thread.loop]
    split_ifs
    · exact works_checkCancelled (works_goto rfl thread)
    · exact works_completeStep thread

theorem works_look (reading : Reading) (thread : Thread) (drive : Drive) :
    Works thread (thread.look reading drive) := by
  cases drive with
  | driveFor velocity deadline => exact works_goto rfl thread
  | turnByAngle angle yawRate previousYaw accumulated avoiding =>
    simp only [Thread.look]
    split
    · exact works_fail _ _ thread
    · exact works_goto rfl thread
  | driveDistance startX startY distance velocity =>
    simp only [Thread.look]
    split
    · exact works_fail _ _ thread
    · split_ifs
      · exact works_completeStep thread
      · exact works_goto rfl thread
  | avoidForward deadline speed =>
    simp only [Thread.look]
    split
    · exact works_goto rfl thread
    · split_ifs
      all_goals exact works_goto rfl thread

/-- What a step of a thread does: it goes on within its steps, sets the status, reports, sends the zero velocity or
leaves. -/
inductive Advance (thread : Thread) (reading : Reading) : Thread → List Entry → Prop
  | work {next : Thread} {entries : List Entry} : thread.pc.phase = .working → Works thread next →
      reports entries = [] → Advance thread reading next entries
  | succeed : thread.pc = .head →
      Advance thread reading ((thread.setStatus .succeeded thread.run.error).goto .callSucceeded) []
  | fail (failure : Failure) : thread.pc = .except failure →
      Advance thread reading ((thread.setStatus failure.status failure.message).goto (.callFailed failure)) []
  | reportSuccess : thread.pc = .callSucceeded →
      Advance thread reading (thread.call reading (Thread.goto .zero)) [.reported thread.successReport]
  | reportFailure (failure : Failure) : thread.pc = .callFailed failure →
      Advance thread reading (thread.goto .zero) [.reported (thread.failureReport failure)]
  | zero {pc : Pc} : thread.pc = .zero → pc.phase = .closed → Advance thread reading (thread.goto pc) [.velocity {}]
  | leave : thread.pc.phase = .closed → Advance thread reading (thread.goto .ended) []

theorem advance_cases (reading : Reading) (thread : Thread) :
    Advance thread reading (thread.advance reading).1 (thread.advance reading).2 := by
  unfold Thread.advance
  split
  case h_1 hpc =>
    split
    · exact .succeed hpc
    · refine .work (by rw [hpc]; rfl) ?_ rfl
      unfold Thread.checkCancelled
      split_ifs
      all_goals exact ⟨rfl, rfl, rfl, rfl⟩
  case h_2 step hpc => exact .work (by rw [hpc]; rfl) (works_runStep reading thread step) rfl
  case h_3 drive hpc => exact .work (by rw [hpc]; rfl) (works_loop reading thread drive) rfl
  case h_4 drive hpc =>
    have hcall : Works thread (thread.call reading (Thread.look reading · drive)) :=
      works_call (works_look reading thread drive)
    exact .work (by rw [hpc]; rfl) hcall rfl
  case h_5 drive hpc => exact .work (by rw [hpc]; rfl) (works_call (works_goto rfl thread)) rfl
  case h_6 deadline speed hpc => exact .work (by rw [hpc]; rfl) (works_call (works_goto rfl thread)) rfl
  case h_7 deadline speed hpc =>
    exact .work (by rw [hpc]; rfl) (works_call (works_turnByAngle reading halfPi 0.45 _ thread)) rfl
  case h_8 hpc => exact .reportSuccess hpc
  case h_9 failure hpc => exact .fail failure hpc
  case h_10 failure hpc => exact .reportFailure failure hpc
  case h_11 hpc => exact .zero hpc (by split_ifs <;> rfl)
  case h_12 hpc => exact .leave (by rw [hpc]; rfl)
  case h_13 hpc =>
    have hleave : Advance thread reading (thread.goto .ended) [] := .leave (by rw [hpc]; rfl)
    have hsame : thread.goto .ended = thread := by rw [← hpc]; rfl
    exact hsame ▸ hleave

variable {after : Thread} {done : List Entry}

theorem Advance.commandId (h : Advance thread reading after done) :
    after.run.commandId = thread.run.commandId := by
  cases h with
  | work _ hworks _ => exact hworks.commandId
  | reportSuccess _ =>
    unfold Thread.call
    split
    all_goals rfl
  | _ => rfl

/-- How far a thread is, what its status is and what it has done go together. -/
def Thread.Inv (thread : Thread) (entries : List Entry) : Prop :=
  match thread.pc.phase with
  | .working => thread.run.status = .running ∧ reports entries = []
  | .succeeded => thread.run.status = .succeeded ∧ reports entries = []
  | .failed => thread.run.status ≠ .running ∧ reports entries = []
  | .reported => thread.run.status ≠ .running ∧ (reports entries).map Report.status = [thread.run.status]
  | .closed =>
    thread.run.status ≠ .running ∧ (reports entries).map Report.status = [thread.run.status] ∧
      (velocities entries).getLast? = some {}

theorem reports_append (entries others : List Entry) :
    reports (entries ++ others) = reports entries ++ reports others := List.filterMap_append

theorem velocities_append (entries others : List Entry) :
    velocities (entries ++ others) = velocities entries ++ velocities others := List.filterMap_append

theorem Failure.status_ne_running (failure : Failure) : failure.status ≠ .running := by
  unfold Failure.status
  split_ifs
  all_goals decide

theorem Thread.Inv.advance {entries : List Entry} (h : thread.Inv entries)
    (hadvance : Advance thread reading after done) (hclear : thread.pc = .callSucceeded → reading.raises.isNone) :
    after.Inv (entries ++ done) := by
  unfold Thread.Inv at h ⊢
  cases hadvance with
  | work hphase hworks hreports =>
    rw [hphase] at h
    rw [hworks.phase]
    exact ⟨hworks.status.trans h.1, by rw [reports_append, h.2, hreports, List.append_nil]⟩
  | succeed hpc =>
    rw [hpc] at h
    exact ⟨rfl, by rw [List.append_nil]; exact h.2⟩
  | fail failure hpc =>
    rw [hpc] at h
    exact ⟨failure.status_ne_running, by rw [List.append_nil]; exact h.2⟩
  | reportSuccess hpc =>
    -- the callback returns
    obtain hraises : reading.raises = none := Option.isNone_iff_eq_none.mp (hclear hpc)
    rw [hpc] at h
    simp only [Thread.call, hraises]
    refine ⟨?_, ?_⟩
    · show thread.run.status ≠ .running
      rw [h.1]
      decide
    · show (reports (entries ++ [.reported thread.successReport])).map Report.status = [thread.run.status]
      rw [reports_append, h.2, h.1]
      rfl
  | reportFailure failure hpc =>
    rw [hpc] at h
    refine ⟨h.1, ?_⟩
    rw [reports_append, h.2]
    rfl
  | zero hpc hclosed =>
    rw [hpc] at h
    have hphase : (thread.goto _).pc.phase = .closed := hclosed
    rw [hphase]
    refine ⟨h.1, ?_, ?_⟩
    · rw [reports_append]
      exact (congrArg (List.map Report.status) (List.append_nil _)).trans h.2
    · rw [velocities_append]
      exact List.getLast?_concat
  | leave hclosed =>
    rw [hclosed] at h
    rw [List.append_nil]
    exact h

theorem Advance.working (h : Advance thread reading after done)
    (hclear : thread.pc = .callSucceeded → reading.raises.isNone) (hafter : after.pc.phase = .working) :
    thread.pc.phase = .working := by
  cases h with
  | work hphase _ _ => exact hphase
  | reportSuccess hpc =>
    have hraises : reading.raises = none := Option.isNone_iff_eq_none.mp (hclear hpc)
    simp only [Thread.call, hraises] at hafter
    exact absurd hafter nofun
  | zero _ hclosed => exact absurd (hclosed.symm.trans hafter) (by decide)
  | _ => exact absurd hafter nofun

theorem closed_advance (reading : Reading) (h : thread.pc.phase = .closed) :
    (thread.advance reading).1.pc.phase = .closed ∧ (thread.advance reading).2 = [] ∧
      (thread.advance reading).1.pc ≠ .release := by
  cases hpc : thread.pc with
  | release => simp [Thread.advance, hpc, Thread.goto, Pc.phase]
  | ended => simp [Thread.advance, hpc, Pc.phase]
  | _ => exact absurd h (by rw [hpc]; simp [Pc.phase])

end SkillExecutor

end RoamerX
