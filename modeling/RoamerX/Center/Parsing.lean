import RoamerX.Center.Protocol
import RoamerX.Protocol.Fields
import RoamerX.Protocol.RawMessage

set_option autoImplicit false

/-! # What the center parses

`parse_message` of `monitoring/protocol.py`, from a message as it arrives, with `validate_payload` for
every type of message. -/

namespace RoamerX

namespace CenterProtocol

open Excepts

/-! ## Types -/

def commandTypes : List String :=
  ["task.start", "task.pause", "task.resume", "task.resume_forward", "task.cancel",
    "task.force_exit", "task.recover.v1",
    "mapping.start", "mapping.save", "mapping.cancel", "mapping.status", "mapping.scene_semantics",
    "mapping.origin_start", "mapping.origin_cancel", "mapping.origin_extract_global",
    "mapping.slam_start", "mapping.begin",
    "nav.status", "nav.start", "nav.restart", "nav.recover", "nav.stop", "nav.initial_pose",
    "nav.single_goal", "nav.relocalize",
    "diagnostics.log_config", "diagnostics.nav_rosbag_stop",
    "map.activate", "map.boundary_apply", "map.optimize", "sensor.restart", "charge.start",
    "charge.stop", "motion.start", "motion.stop", "audio.volume",
    "teleop.takeover_enter", "teleop.takeover_exit", "teleop.stand_up", "teleop.lie_down",
    "teleop.shake_hand", "teleop.two_leg_stand", "teleop.crawl_forward", "teleop.speed_micro",
    "teleop.speed_slow", "teleop.speed_normal", "teleop.speed_fast", "teleop.move_forward",
    "teleop.move_backward", "teleop.move_left", "teleop.move_right", "teleop.turn_left",
    "teleop.turn_right", "teleop.move_velocity", "teleop.move_stop", "teleop.passive",
    "teleop.skill", "teleop.skill_list", "teleop.skill_status", "teleop.skill_cancel",
    "teleop.person_follow_start", "teleop.person_follow_stop", "teleop.person_follow_status"]

/-- `UPLINK_MESSAGE_TYPES`. -/
def uplinkTypes : List String :=
  ["presence.online", "presence.heartbeat", "presence.offline", "telemetry.status",
    "telemetry.pose", "trajectory.batch", "command.ack", "command.progress", "command.result",
    "task.progress", "task.navigation_stage", "task.round_started", "task.obstacle_speech",
    "task.obstacle_stage", "navigation.obstacle_recovery", "task.accepted", "task.started",
    "task.pausing", "task.paused", "task.resuming", "task.resumed", "task.cancelling",
    "task.completed", "task.failed", "task.cancelled", "task.interrupted",
    "task.arrival_pending_settle", "task.arrival_nav2_stopping", "task.arrival_zero_confirming",
    "task.arrival_zero_confirmed", "task.arrival_zero_timeout", "task.arrival_check",
    "task.arrival_confirmed", "task.arrival_degraded_accepted", "task.arrival_correcting",
    "task.arrival_heading_aligning", "task.arrival_heading_aligned", "task.recovery_active",
    "task.safe_hold", "task.waypoint_actions", "task.waypoint_degraded",
    "task.waypoint_postprocess_completed", "alert.event", "system.log.batch", "sync.request"]

/-- `message_type.startswith("task.")`. -/
def isTaskType (messageType : String) : Bool := decide ("task.".toList <+: messageType.toList)

/-- `value not in choices`, for a value that is there; a list and an object have no hash. -/
def checkMember (choices : List String) (message : String) : Json → Except Raised Unit
  | .str text => if text ∈ choices then .ok () else invalidMessage message
  | .arr _ | .obj _ => .error (.other "TypeError")
  | _ => invalidMessage message

section Payload

-- `text.upper()` is asked for in one place only
variable (texts : Texts) (upper : String → String)

/-! ## `validate_payload` -/

def validateNavSingleGoal (command : List (String × Json)) : Except Raised Unit :=
  checkAll
    ((["x", "y", "yaw"].map fun coordinate =>
        (isNumeric (Json.get? command coordinate),
          "nav.single_goal " ++ coordinate ++ " must be numeric")) ++
      [(isChoice texts globalControllers
          (orElse (Json.get? command "global_controller") (.str "theta_star")),
        "nav.single_goal global_controller must be theta_star, navfn or smac_hybrid")])

def validateObject (messageType : String) (command : List (String × Json)) : Except Raised Unit :=
  if messageType = "task.start" then validateTaskStart texts command
  else if messageType = "diagnostics.nav_rosbag_stop" then do
    let _ ← parseUuid texts (← required command "loop_session_id") "loop_session_id"
    return ()
  else if messageType = "nav.single_goal" then validateNavSingleGoal texts command
  else .ok ()

def validateExecution (messageType : String) (payload : List (String × Json)) : Except Raised Unit :=
  if isTaskType messageType then do
    let _ ← parseUuid texts (← required payload "task_execution_id") "task_execution_id"
    return ()
  else .ok ()

/-- A command is issued before it expires. -/
def validateExpiry (payload : List (String × Json)) : Except Raised Unit := do
  let issuedAt ← required payload "issued_at"
  let _ ← normalizeTimestamp texts issuedAt
  let expiresAt ← normalizeTimestamp texts (← required payload "expires_at")
  if expiresAt ≤ (← normalizeTimestamp texts issuedAt) then
    invalidMessage "expires_at must be after issued_at"
  else .ok ()

/-- `command_id` of a command and of what is answered to it. -/
def validateCommandId (payload : List (String × Json)) : Except Raised Unit := do
  let _ ← parseUuid texts (← required payload "command_id") "command_id"
  return ()

def validateCommand (messageType : String) (payload : List (String × Json)) : Except Raised Unit := do
  validateCommandId texts payload
  validateExpiry texts payload
  validateExecution texts messageType payload
  match ← required payload "command" with
  | .obj command => validateObject texts messageType command
  | _ => invalidMessage "command must be an object"

/-- `command.ack`. -/
def validateAck (payload : List (String × Json)) : Except Raised Unit := do
  validateCommandId texts payload
  checkMember ["accepted", "rejected"] "ack must be accepted or rejected" (← required payload "ack")

/-- `command.progress`. -/
def validateProgress (payload : List (String × Json)) : Except Raised Unit := do
  validateCommandId texts payload
  match Json.get? payload "result" with
  | none | some .null | some (.obj _) => .ok ()
  | some _ => invalidMessage "command progress result must be an object"

/-- `command.result`. -/
def validateResult (payload : List (String × Json)) : Except Raised Unit := do
  validateCommandId texts payload
  checkMember ["succeeded", "failed", "cancelled", "timed_out"] "invalid command result status"
    (← required payload "status")

/-- `alert.event`. -/
def validateAlert (payload : List (String × Json)) : Except Raised Unit := do
  let _ ← parseUuid texts (← required payload "event_id") "event_id"
  let _ ← normalizeTimestamp texts (← required payload "occurred_at")
  let _ ← required payload "event_type"
  let _ ← required payload "severity"
  return ()

def logLevels : List String := ["DEBUG", "INFO", "WARNING", "ERROR"]

def logModules : List String :=
  ["localization", "navigation", "avoidance", "relocalization", "waypoint", "planner", "boundary",
    "system"]

/-- An entry of a `system.log.batch`. -/
def validateLogEntry : Json → Except Raised Unit
  | .obj entry => do
    let level ← required entry "level"
    if upper (texts.str level) ∈ logLevels then
      let module ← required entry "module"
      if texts.str module ∈ logModules then
        let _ ← required entry "event_code"
        let _ ← required entry "message"
        return ()
      else invalidMessage "invalid system log module"
    else invalidMessage "invalid system log level"
  | _ => invalidMessage "system log entry must be an object"

/-- `system.log.batch`. -/
def validateLogBatch (payload : List (String × Json)) : Except Raised Unit := do
  match ← required payload "entries" with
  | .arr entries =>
    if entries.length ≤ 100 then checkEach (fun _ => validateLogEntry texts upper) 0 entries
    else invalidMessage "system.log.batch entries must contain at most 100 items"
  | _ => invalidMessage "system.log.batch entries must contain at most 100 items"

/-- `validate_payload`; most types ask nothing of the payload. -/
def validatePayload (messageType : String) (payload : List (String × Json)) : Except Raised Unit :=
  if messageType ∈ commandTypes then validateCommand texts messageType payload
  else if messageType = "command.ack" then validateAck texts payload
  else if messageType = "command.progress" then validateProgress texts payload
  else if messageType = "command.result" then validateResult texts payload
  else if messageType = "trajectory.batch" then validateTrajectoryBatch texts payload
  else if messageType = "alert.event" then validateAlert texts payload
  else if messageType = "system.log.batch" then validateLogBatch texts upper payload
  else .ok ()

/-! ## `parse_message` -/

/-- `MessageEnvelope`, without the message it was read from. -/
structure MessageEnvelope where
  messageId : Uuid
  messageType : String
  robotId : String
  sessionId : String
  sentAt : ℕ
  traceId : Uuid
  sequence : Option ℕ
  payload : List (String × Json)

def checkVersion (data : List (String × Json)) : Except Raised Unit := do
  let version ← required data "protocol_version"
  if texts.str version = "1.0" then .ok ()
  else .error (.protocol
    ⟨"UNSUPPORTED_PROTOCOL_VERSION", "unsupported protocol version: " ++ texts.str version⟩)

def readType (data : List (String × Json)) : Except Raised String := do
  let value ← required data "message_type"
  if texts.str value ∈ uplinkTypes ++ commandTypes then .ok (texts.str value)
  else invalidMessage ("unsupported message_type: " ++ texts.str value)

def readRobot (data : List (String × Json)) : Except Raised String := do
  let value ← required data "robot_id"
  if texts.strip (texts.str value) ≠ "" then .ok (texts.strip (texts.str value))
  else invalidMessage "robot_id must not be empty"

def readSequence (data : List (String × Json)) : Except Raised (Option ℕ) :=
  match Json.get? data "sequence" with
  | none | some .null => .ok none
  | some (.num (.int n)) =>
    if n < 0 then invalidMessage "sequence must be a non-negative integer" else .ok (some n.toNat)
  | some _ => invalidMessage "sequence must be a non-negative integer"

def readPayload (data : List (String × Json)) : Except Raised (List (String × Json)) := do
  match ← required data "payload" with
  | .obj payload => .ok payload
  | _ => invalidMessage "payload must be an object"

/-- Only what comes up from a robot names its session by an identifier. -/
def readSession (messageType : String) (data : List (String × Json)) : Except Raised String := do
  let value ← required data "session_id"
  if messageType ∈ uplinkTypes then
    let id ← parseUuid texts value "session_id"
    return texts.uuidText id
  else return texts.str value

/-- `parse_message` of an object. -/
def parseMembers (data : List (String × Json)) : Except Raised MessageEnvelope := do
  checkVersion texts data
  let messageType ← readType texts data
  let robotId ← readRobot texts data
  let sequence ← readSequence data
  let payload ← readPayload data
  let sessionId ← readSession texts messageType data
  let messageId ← parseUuid texts (← required data "message_id") "message_id"
  let sentAt ← normalizeTimestamp texts (← required data "sent_at")
  let traceId ← parseUuid texts (← required data "trace_id") "trace_id"
  validatePayload texts upper messageType payload
  return { messageId, messageType, robotId, sessionId, sentAt, traceId, sequence, payload }

/-- `parse_message` of a message as it arrives. -/
def parseMessage (loads : String → LoadedText) (raw : RawMessage) : Except Raised MessageEnvelope := do
  let data ← raw.read loads "message is not valid JSON"
  parseMembers texts upper data

end Payload

end CenterProtocol

end RoamerX
