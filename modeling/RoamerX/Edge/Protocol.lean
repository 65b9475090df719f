import RoamerX.Protocol.TaskStart

set_option autoImplicit false

/-! # The Edge's protocol module

`roamerx_edge/protocol.py`: a message of the center is decoded and its command checked. Of
`validate_command` only the branch for `task.start` is here; the branches for commands that are no
task's, which check their command object, are left out. -/

namespace RoamerX

namespace EdgeProtocol

def taskCommandTypes : List String :=
  ["task.start", "task.pause", "task.resume", "task.resume_forward", "task.cancel",
    "task.force_exit", "task.recover.v1"]

def mappingCommandTypes : List String :=
  ["mapping.start", "mapping.save", "mapping.cancel", "mapping.status", "mapping.scene_semantics",
    "mapping.origin_start", "mapping.origin_cancel", "mapping.origin_extract_global",
    "mapping.slam_start", "mapping.begin"]

def navCommandTypes : List String :=
  ["nav.status", "nav.start", "nav.restart", "nav.recover", "nav.stop", "nav.initial_pose",
    "nav.relocalize", "nav.single_goal"]

def teleopCommandTypes : List String :=
  ["teleop.takeover_enter", "teleop.takeover_exit", "teleop.stand_up", "teleop.lie_down",
    "teleop.shake_hand", "teleop.two_leg_stand", "teleop.speed_micro", "teleop.speed_slow",
    "teleop.speed_normal", "teleop.speed_fast", "teleop.move_forward", "teleop.move_backward",
    "teleop.move_left", "teleop.move_right", "teleop.turn_left", "teleop.turn_right",
    "teleop.move_velocity", "teleop.move_stop", "teleop.passive", "teleop.skill",
    "teleop.skill_list", "teleop.skill_status", "teleop.skill_cancel",
    "teleop.person_follow_start", "teleop.person_follow_stop", "teleop.person_follow_status"]

/-- `COMMAND_TYPES`; the types of maps, diagnostics, sensors, charging, motion and sound, each a set
    of its own in the source, stand at the end. -/
def commandTypes : List String :=
  taskCommandTypes ++ mappingCommandTypes ++ navCommandTypes ++ teleopCommandTypes ++
  ["map.activate", "map.optimize", "map.boundary_apply", "diagnostics.log_config",
    "diagnostics.nav_rosbag_stop", "sensor.restart", "charge.start", "charge.stop", "motion.start",
    "motion.stop", "audio.volume"]

/-- `parse_uuid`; an absent value is `None`. -/
def parseUuid (texts : Texts) (value : Option Json) (field : String) : Except Raised Uuid :=
  match texts.uuid? (texts.str (value.getD .null)) with
  | some id => .ok id
  | none => invalidMessage (field ++ " must be UUID")

def parseTime (texts : Texts) (value : Json) : Except Raised ℕ :=
  match texts.fromIsoFormat (texts.str value) with
  | .unreadable | .impossible => invalidMessage ("invalid timestamp: " ++ texts.str value)
  | .naive => invalidMessage "timestamp must include timezone"
  | .aware instant => .ok instant

/-- A member that is there and not `None`. -/
def present (mapping : List (String × Json)) (kind key : String) : Except Raised Json :=
  match Json.get? mapping key with
  | none | some .null => invalidMessage ("missing " ++ kind ++ ": " ++ key)
  | some value => .ok value

/-- The body of the loop over the waypoints; what is no object has no `get`. -/
def validateWaypoint (texts : Texts) (index : ℕ) : Json → Except Raised Unit
  | .obj waypoint =>
    checkAll (waypointChecks texts "waypoint sequence must be contiguous" index waypoint)
  | _ => .error (.other "AttributeError")

/-- The branch of `validate_command` for `task.start`. -/
def validateTaskStart (texts : Texts) (command : List (String × Json)) : Except Raised Unit :=
  match Json.get? command "route_snapshot" with
  | some (.obj route) =>
    match Json.get? route "waypoints" with
    | some (.arr (first :: rest)) => do
      checkEach (validateWaypoint texts) 0 (first :: rest)
      checkAll (optionChecks texts
        "route global_controller must be theta_star, navfn or smac_hybrid" route command)
      if ((Json.get? command "continuous_rosbag").getD (.bool false)).truthy then
        let _ ← parseUuid texts (Json.get? command "loop_session_id") "loop_session_id"
        return ()
      else return ()
    | _ => invalidMessage "task.start requires waypoints"
  | _ => invalidMessage "task.start requires waypoints"

/-- `validate_command`, for the commands of tasks. -/
def validateCommand (texts : Texts) (messageType : String) (payload : List (String × Json)) :
    Except Raised Unit := do
  let commandId ← present payload "command field" "command_id"
  let issuedAt ← present payload "command field" "issued_at"
  let expiresAt ← present payload "command field" "expires_at"
  let command ← present payload "command field" "command"
  let _ ← parseUuid texts (some commandId) "command_id"
  if messageType ∈ taskCommandTypes then
    match Json.get? payload "task_execution_id" with
    | some execution =>
      if execution.truthy then
        let _ ← parseUuid texts (some execution) "task_execution_id"
      else invalidMessage "missing command field: task_execution_id"
    | none => invalidMessage "missing command field: task_execution_id"
  let issued ← parseTime texts issuedAt
  let expires ← parseTime texts expiresAt
  if expires ≤ issued then invalidMessage "expires_at must be after issued_at"
  else
    match command with
    | .obj command =>
      if messageType = "task.start" then validateTaskStart texts command else return ()
    | _ => invalidMessage "command must be object"

/-- `MessageEnvelope`, without the message it was read from. -/
structure MessageEnvelope where
  messageId : Uuid
  messageType : String
  robotId : String
  sessionId : String
  sentAt : ℕ
  traceId : Uuid
  sequence : Option Json
  payload : List (String × Json)

/-- `data["message_type"] in types`; a list and an object have no hash. -/
def knownType (texts : Texts) : Json → Except Raised String
  | .str messageType =>
    if messageType ∈ commandTypes ++ ["sync.response", "trajectory.ack"] then .ok messageType
    else invalidMessage ("unsupported message_type: " ++ messageType)
  | .arr _ | .obj _ => .error (.other "TypeError")
  | value => invalidMessage ("unsupported message_type: " ++ texts.str value)

/-- `decode_message`, of a JSON object. -/
def decodeMessage (texts : Texts) (data : List (String × Json)) :
    Except Raised MessageEnvelope := do
  let protocolVersion ← present data "required field" "protocol_version"
  let messageId ← present data "required field" "message_id"
  let messageType ← present data "required field" "message_type"
  let robotId ← present data "required field" "robot_id"
  let sessionId ← present data "required field" "session_id"
  let sentAt ← present data "required field" "sent_at"
  let traceId ← present data "required field" "trace_id"
  let payload ← present data "required field" "payload"
  match protocolVersion with
  | .str "1.0" =>
    let messageType ← knownType texts messageType
    match payload with
    | .obj payload =>
      let envelope : MessageEnvelope := {
        messageId := ← parseUuid texts (some messageId) "message_id"
        messageType := messageType
        robotId := texts.str robotId
        sessionId := texts.str sessionId
        sentAt := ← parseTime texts sentAt
        traceId := ← parseUuid texts (some traceId) "trace_id"
        sequence := Json.get? data "sequence"
        payload := payload }
      if messageType ∈ commandTypes then
        let _ ← validateCommand texts messageType payload
        return envelope
      else return envelope
    | _ => invalidMessage "payload must be object"
  | version => .error (.protocol ⟨"UNSUPPORTED_PROTOCOL_VERSION", texts.str version⟩)

end EdgeProtocol

end RoamerX
