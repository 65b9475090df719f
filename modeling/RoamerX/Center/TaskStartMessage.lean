import RoamerX.Center.RouteSnapshot
import RoamerX.Center.CommandService

set_option autoImplicit false

/-! # The `task.start` message

The command object that `CommandService.create` gives a `task.start`, and the message that
`build_command_message` makes of the command. -/

namespace RoamerX

namespace TaskStartMessages

/-- The fields of a `TaskExecution`, its task and its route that `create` reads. -/
structure Execution where
  id : Uuid
  taskId : ℕ
  taskName : String
  routeSnapshot : List (String × Json)
  loopSessionId : Option Uuid
  roundNumber : ℕ
  routeRecordRosbag : Bool
  taskRecordRosbag : Bool

/-- `options.get(key, default)`. -/
def optionOr (options : List (String × Json)) (key : String) (default : Json) : Json :=
  (Json.get? options key).getD default

/-- `effective_record_rosbag`, with the request as the options have it. -/
def effectiveRecordRosbag (e : Execution) (requested : Option Json) : Bool :=
  if e.routeRecordRosbag then true
  else match requested with
    | none | some .null => e.taskRecordRosbag
    | some value => value.truthy

/-- The navigation recording that `create` asks for. -/
def recordRosbag (e : Execution) (options : List (String × Json)) : Bool :=
  if (optionOr options "record_rosbag_frozen" (.bool false)).truthy then
    (optionOr options "record_rosbag" (.bool false)).truthy
  else effectiveRecordRosbag e (Json.get? options "record_rosbag")

/-- The text of an identifier, or `None`. -/
def uuidOrNull (texts : Texts) : Option Uuid → Json
  | some id => .str (texts.uuidText id)
  | none => .null

/-- `mapping[key]`. -/
def subscript (mapping : List (String × Json)) (key : String) : Except Raised Json :=
  (Json.get? mapping key).elim (.error (.other "KeyError")) .ok

/-- The command object of a `task.start`. -/
def startPayload (texts : Texts) (e : Execution) (options : List (String × Json)) :
    Except Raised (List (String × Json)) := do
  let docking ← RouteSnapshots.dictOrEmpty (Json.get? options "docking")
  let map ← subscript e.routeSnapshot "map"
  let loopTotal ← RouteSnapshots.converted
    (texts.int? (optionOr options "loop_total" (.num (.int 1))))
  return [("task_id", .str (toString e.taskId)),
    ("task_name", .str e.taskName),
    ("map", map),
    ("route_snapshot", .obj e.routeSnapshot),
    ("policy", .obj
      [("on_waypoint_failure", .str "abort"),
        ("max_duration_seconds", .num (.int taskMaxDurationSeconds)),
        ("continue_on_disconnect", .bool true)]),
    ("record_rosbag", .bool (recordRosbag e options)),
    ("continuous_rosbag", .bool (recordRosbag e options && e.loopSessionId.isSome &&
      (optionOr options "continuous_rosbag" (.bool false)).truthy)),
    ("loop_execution", .bool (optionOr options "loop_execution" (.bool false)).truthy),
    ("loop_session_id", uuidOrNull texts e.loopSessionId),
    ("round_number", .num (.int e.roundNumber)),
    ("loop_total", .num (.int (max 1 loopTotal))),
    ("smart_initialize", .bool (optionOr options "smart_initialize" (.bool true)).truthy),
    ("docking", .obj docking)]

/-- The row of a command and what `build_command_message` reads of its robot. Instants are in
    milliseconds. -/
structure Command where
  id : Uuid
  commandType : String
  taskExecution : Option Uuid
  payload : List (String × Json)
  operatorId : Option ℕ
  traceId : Uuid
  issuedAt : ℕ
  expiresAt : ℕ
  robotCode : String
  lastStateVersion : ℕ

/-- What `create` takes from elsewhere: the fresh identifiers, the clock, the operator, the robot. -/
structure Circumstances where
  commandId : Uuid
  traceId : Uuid
  now : ℕ
  operatorId : Option ℕ
  robotCode : String
  lastStateVersion : ℕ

/-- `CommandService.create` for a `task.start`, up to its row; the checks of the battery and of the
    state refuse commands only and are left out. -/
def create (texts : Texts) (e : Execution) (options : List (String × Json)) (c : Circumstances) :
    Except Raised Command := do
  let payload ← startPayload texts e options
  return {
    id := c.commandId
    commandType := "task.start"
    taskExecution := some e.id
    payload := payload
    operatorId := c.operatorId
    traceId := c.traceId
    issuedAt := c.now
    expiresAt := c.now + 1000 * taskMaxDurationSeconds
    robotCode := c.robotCode
    lastStateVersion := c.lastStateVersion }

def messagePayload (texts : Texts) (command : Command) : List (String × Json) :=
  [("command_id", .str (texts.uuidText command.id)),
    ("issued_at", .str (texts.isoText command.issuedAt)),
    ("expires_at", .str (texts.isoText command.expiresAt)),
    ("operator_id", match command.operatorId with
      | some id => .str (toString id)
      | none => .null),
    ("task_execution_id", uuidOrNull texts command.taskExecution),
    ("command", .obj command.payload)] ++
  if command.taskExecution.isSome then
    [("expected_robot_state_version", .num (.int command.lastStateVersion))]
  else []

/-- `build_command_message`, given the identifiers it draws and the clock. -/
def buildCommandMessage (texts : Texts) (command : Command) (sessionId : String)
    (messageId drawnSessionId : Uuid) (now : ℕ) : List (String × Json) :=
  [("protocol_version", .str "1.0"),
    ("message_id", .str (texts.uuidText messageId)),
    ("message_type", .str command.commandType),
    ("robot_id", .str command.robotCode),
    ("session_id", .str (orText sessionId (texts.uuidText drawnSessionId))),
    ("sent_at", .str (texts.isoText now)),
    ("trace_id", .str (texts.uuidText command.traceId)),
    ("payload", .obj (messagePayload texts command))]

end TaskStartMessages

end RoamerX
