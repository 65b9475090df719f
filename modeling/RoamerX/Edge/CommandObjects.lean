import RoamerX.Edge.Protocol
import RoamerX.Protocol.RawMessage
import Mathlib.Algebra.Order.Ring.Rat

set_option autoImplicit false

/-! # The command objects of the other commands

The branches of `validate_command` for the commands of mapping, navigation, maps, diagnostics, sensors
and sound, and `decode_message` with them, from a message as it arrives. -/

namespace RoamerX

namespace EdgeProtocol

open Excepts

variable (texts : Texts)

/-! ## Values -/

/-- `low <= value <= high`, false for what is not finite. -/
def between (low high : ℚ) : JsonNumber → Bool
  | .int n => decide (low ≤ n ∧ n ≤ high)
  | .float q => decide (low ≤ q ∧ q ≤ high)
  | .nonfinite => false

/-- A number, and no `bool`, between two bounds. -/
def numberWithin (low high : ℚ) : Option Json → Bool
  | some (.num n) => between low high n
  | _ => false

/-- The double nearest to `0.1`. -/
def oneTenth : ℚ := 3602879701896397 / 36028797018963968

/-- `value is None or isinstance(value, kind)`. -/
def noneOr (kind : Json → Bool) : Option Json → Bool
  | none | some .null => true
  | some value => kind value

def isText : Json → Bool
  | .str _ => true
  | _ => false

def isBool : Json → Bool
  | .bool _ => true
  | _ => false

def isFilledList : Option Json → Bool
  | some (.arr (_ :: _)) => true
  | _ => false

/-- `str(value or default).strip()`. -/
def strippedOr (value : Option Json) (default : String) : String :=
  texts.strip (texts.str (orElse value (.str default)))

/-- The fields of a pose that are not `None`. -/
def supplied (command : List (String × Json)) : List String :=
  ["x", "y", "yaw"].filter fun field => ((Json.get? command field).any fun value => !value.isNull)

/-- `value is not None and value not in choices`; a list and an object have no hash. -/
def checkMember (choices : List String) (message : String) : Option Json → Except Raised Unit
  | none | some .null => .ok ()
  | some (.str text) => if text ∈ choices then .ok () else invalidMessage message
  | some (.arr _) | some (.obj _) => .error (.other "TypeError")
  | some _ => invalidMessage message

/-! ## The branches -/

/-- A pose, whole or not at all. `sources` name where a seed may come from instead. -/
def poseChecks (messageType seedSource : String) (sources : List String)
    (command : List (String × Json)) : List (Bool × String) :=
  [(!(supplied command).isEmpty || decide (seedSource ∈ sources),
      messageType ++ " requires x, y and yaw or a supported seed_source"),
    ((supplied command).isEmpty || decide ((supplied command).length = 3),
      messageType ++ " requires x, y and yaw together")] ++
  (supplied command).map fun field =>
    (isNumeric (Json.get? command field), messageType ++ " " ++ field ++ " must be numeric")

/-- `nav.initial_pose`. -/
def checkInitialPose (command : List (String × Json)) : Except Raised Unit :=
  checkAll (poseChecks "nav.initial_pose" (strippedOr texts (Json.get? command "seed_source") "")
    ["mapping_start", "last_trusted", "rtk"] command)

/-- A candidate of a progressive relocalization. -/
def checkCandidate (index : ℕ) : Json → Except Raised Unit
  | .obj waypoint =>
    checkAll (["x", "y", "yaw"].map fun field =>
      (isNumeric (Json.get? waypoint field),
        "nav.relocalize waypoint " ++ toString index ++ " " ++ field ++ " must be numeric"))
  | _ => invalidMessage ("nav.relocalize waypoint " ++ toString index ++ " must be an object")

/-- `nav.relocalize`. -/
def checkRelocalize (command : List (String × Json)) : Except Raised Unit := do
  let seedSource := strippedOr texts (Json.get? command "seed_source") "last_trusted"
  checkAll (poseChecks "nav.relocalize" seedSource
    ["mapping_start", "last_trusted", "global", "progressive", "quick_then_global"] command)
  if seedSource = "progressive" then
    match orElse (Json.get? command "waypoints") (.arr []) with
    | .arr waypoints => checkEach checkCandidate 0 waypoints
    | _ => invalidMessage "nav.relocalize waypoints must be a list"

/-- `nav.single_goal`. -/
def checkSingleGoal (command : List (String × Json)) : Except Raised Unit :=
  checkAll
    ((["x", "y", "yaw"].map fun field =>
        (isNumeric (Json.get? command field), "nav.single_goal " ++ field ++ " must be numeric")) ++
      [(isChoice texts globalControllers
          (orElse (Json.get? command "global_controller") (.str "theta_star")),
        "nav.single_goal global_controller must be theta_star, navfn or smac_hybrid")])

/-- `mapping.start`, `mapping.origin_start` and `mapping.slam_start`. -/
def checkMapping (messageType : String) (command : List (String × Json)) : Except Raised Unit := do
  checkAll
    [(noneOr isText (Json.get? command "map_name"), messageType ++ " map_name must be string"),
      (noneOr isBool (Json.get? command "record_rosbag"),
        "mapping.start record_rosbag must be boolean")]
  checkMember ["indoor", "outdoor"] (messageType ++ " mapping_type must be indoor or outdoor")
    (Json.get? command "mapping_type")
  checkMember ["indoor", "transition", "outdoor"]
    (messageType ++ " scene_scope must be indoor, transition, or outdoor")
    (Json.get? command "scene_scope")

/-- `map.activate`. -/
def checkActivate (command : List (String × Json)) : Except Raised Unit :=
  checkAll (["map_id", "map_version"].map fun field =>
    (decide (texts.strip (texts.str ((Json.get? command field).getD (.str ""))) ≠ ""),
      "map.activate requires " ++ field))

/-- `map.optimize`. -/
def checkOptimize (command : List (String × Json)) : Except Raised Unit :=
  checkAll
    [(decide (strippedOr texts
          (some (orElse (Json.get? command "source_map_id")
            (orElse (Json.get? command "map_id") (.str "")))) "" ≠ ""),
        "map.optimize requires source_map_id"),
      (isFilledList (Json.get? command "selected_candidates"),
        "map.optimize requires selected_candidates")]

/-- `isinstance(revision, int) and revision > 0`; `True` is 1. -/
def isPositiveInt : Option Json → Bool
  | some (.num (.int n)) => decide (0 < n)
  | some (.bool b) => b
  | _ => false

def isPolygon : Option Json → Bool
  | some (.arr points) => decide (3 ≤ points.length)
  | _ => false

/-- `map.boundary_apply`. -/
def checkBoundary (command : List (String × Json)) : Except Raised Unit :=
  match Json.get? command "boundary" with
  | some (.obj boundary) =>
    checkAll
      [(decide (strippedOr texts (Json.get? command "map_id") "" ≠ ""),
          "map.boundary_apply requires map_id and boundary"),
        (isPositiveInt (Json.get? boundary "revision"),
          "map.boundary_apply revision must be positive"),
        (isPolygon (Json.get? boundary "outer_polygon"),
          "map.boundary_apply requires an outer polygon")]
  | _ => invalidMessage "map.boundary_apply requires map_id and boundary"

/-- `diagnostics.log_config`. -/
def checkLogConfig (command : List (String × Json)) : Except Raised Unit :=
  match Json.get? command "enabled" with
  | some (.bool true) =>
    checkAll
      [(isFilledList (Json.get? command "modules"), "diagnostics.log_config modules must be a list"),
        (numberWithin oneTenth 5 (Json.get? command "sample_hz"),
          "diagnostics.log_config sample_hz must be between 0.1 and 5")]
  | some (.bool false) => .ok ()
  | _ => invalidMessage "diagnostics.log_config enabled must be boolean"

/-- `sensor.restart`. -/
def checkSensor (command : List (String × Json)) : Except Raised Unit :=
  checkAll
    [(decide (texts.lower (strippedOr texts (Json.get? command "sensor") "") ∈
        ["lidar", "imu", "lidar_imu", "rtk"]),
      "sensor.restart requires lidar_imu or rtk")]

/-- `audio.volume`. -/
def checkVolume (command : List (String × Json)) : Except Raised Unit :=
  checkAll
    [(decide (texts.str (orElse (Json.get? command "target") (.str "")) ∈
          ["speaker_3588", "speaker_nx"]),
        "audio.volume requires a valid target"),
      (numberWithin 0 100 (Json.get? command "volume"),
        "audio.volume must be between 0 and 100")]

/-- The branches of `validate_command` after that for `task.start`; a type has one at most. -/
def checkObject (messageType : String) (command : List (String × Json)) : Except Raised Unit :=
  if messageType = "diagnostics.nav_rosbag_stop" then do
    let _ ← parseUuid texts (Json.get? command "loop_session_id") "loop_session_id"
    return ()
  else if messageType ∈ ["mapping.start", "mapping.origin_start", "mapping.slam_start"] then
    checkMapping messageType command
  else if messageType = "nav.initial_pose" then checkInitialPose texts command
  else if messageType = "nav.single_goal" then checkSingleGoal texts command
  else if messageType = "nav.relocalize" then checkRelocalize texts command
  else if messageType = "map.activate" then checkActivate texts command
  else if messageType = "map.optimize" then checkOptimize texts command
  else if messageType = "map.boundary_apply" then checkBoundary texts command
  else if messageType = "diagnostics.log_config" then checkLogConfig command
  else if messageType = "sensor.restart" then checkSensor texts command
  else if messageType = "audio.volume" then checkVolume texts command
  else .ok ()

/-- `decode_message` of an object, every branch of `validate_command` included. -/
def decodeObject (data : List (String × Json)) : Except Raised MessageEnvelope := do
  let envelope ← decodeMessage texts data
  if envelope.messageType ∈ commandTypes then
    match Json.get? envelope.payload "command" with
    | some (.obj command) => checkObject texts envelope.messageType command
    | _ => pure ()
  return envelope

/-- `decode_message` of a message as it arrives. -/
def decode (loads : String → LoadedText) (raw : RawMessage) : Except Raised MessageEnvelope := do
  let data ← raw.read loads "invalid JSON"
  decodeObject texts data

end EdgeProtocol

end RoamerX
