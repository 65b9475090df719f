import RoamerX.Protocol.TaskStart
import RoamerX.Center.Trajectory

set_option autoImplicit false

/-! # The center's protocol module

`monitoring/protocol.py`: the checks that a message passes before it is handled or sent, here those of
a `trajectory.batch` and of a `task.start`. -/

namespace RoamerX

/-! ## Members -/

def required (mapping : List (String × Json)) (key : String) : Except Raised Json :=
  match Json.get? mapping key with
  | none | some .null => invalidMessage ("missing required field: " ++ key)
  | some value => .ok value

/-- `_uuid`. -/
def parseUuid (texts : Texts) (value : Json) (field : String) : Except Raised Uuid :=
  match texts.uuid? (texts.str value) with
  | some id => .ok id
  | none => invalidMessage (field ++ " must be UUID")

def normalizeTimestamp (texts : Texts) (value : Json) : Except Raised ℕ :=
  match texts.datetime (texts.str value) with
  | .unreadable => invalidMessage ("invalid timestamp: " ++ texts.str value)
  | .impossible => .error (.other "ValueError")
  | .naive => invalidMessage "timestamp must include timezone"
  | .aware instant => .ok instant

/-! ## `trajectory.batch` -/

/-- `isinstance(value, (int, float)) and not isinstance(value, bool)`, or the error. -/
def requireNumeric (message : String) (value : Option Json) : Except Raised Unit :=
  if isNumeric value then .ok () else invalidMessage message

def trajectorySeq : Json → Except Raised ℕ
  | .num (.int n) =>
    if n < 0 then invalidMessage "trajectory seq must be non-negative integer" else .ok n.toNat
  | _ => invalidMessage "trajectory seq must be non-negative integer"

def checkKeyframe : Option Json → Except Raised Unit
  | none | some .null | some (.obj _) => .ok ()
  | some _ => invalidMessage "trajectory keyframe must be an object"

/-- The body of the loop over the points; the sequence number is what the loop keeps. -/
def validateTrajectoryPoint (texts : Texts) : Json → Except Raised ℕ
  | .obj point => do
    let seq ← trajectorySeq (← required point "seq")
    let _ ← normalizeTimestamp texts (← required point "sampled_at")
    requireNumeric "trajectory x must be numeric" (Json.get? point "x")
    requireNumeric "trajectory y must be numeric" (Json.get? point "y")
    requireNumeric "trajectory yaw must be numeric" (Json.get? point "yaw")
    checkKeyframe (Json.get? point "keyframe")
    return seq
  | _ => invalidMessage "trajectory point must be an object"

/-- The checks on the sequence numbers; there is one at least. -/
def checkSequences (payload : List (String × Json)) : List ℕ → Except Raised Unit
  | [] => .error (.other "IndexError")
  | first :: rest =>
    if first :: rest ≠ List.range' first (rest.length + 1) then
      invalidMessage "trajectory seq must be contiguous"
    else if Json.equalsInt first (Json.get? payload "first_seq") &&
        Json.equalsInt ((first :: rest).getLast (List.cons_ne_nil _ _))
          (Json.get? payload "last_seq") then
      .ok ()
    else invalidMessage "trajectory batch range does not match points"

def validateTrajectoryBatch (texts : Texts) (payload : List (String × Json)) :
    Except Raised Unit := do
  let _ ← parseUuid texts (← required payload "task_execution_id") "task_execution_id"
  let _ ← parseUuid texts (← required payload "batch_id") "batch_id"
  match ← required payload "points" with
  | .arr points =>
    if 1 ≤ points.length ∧ points.length ≤ 100 then
      checkSequences payload (← points.mapM (validateTrajectoryPoint texts))
    else invalidMessage "trajectory points must contain 1..100 items"
  | _ => invalidMessage "trajectory points must contain 1..100 items"

/-! ## `task.start` -/

/-- The body of the loop over the waypoints. -/
def validateWaypoint (texts : Texts) (index : ℕ) : Json → Except Raised Unit
  | .obj waypoint =>
    checkAll (waypointChecks texts "waypoint sequence must start at 0 and be contiguous" index
        waypoint ++
      [(snapshotOnly (Json.get? waypoint "actions"), "P0 waypoint actions only support snapshot")])
  | _ => invalidMessage "waypoint must be an object"

def validateTaskStart (texts : Texts) (command : List (String × Json)) : Except Raised Unit := do
  match ← required command "route_snapshot" with
  | .obj route =>
    match ← required route "waypoints" with
    | .arr (first :: rest) =>
      checkEach (validateWaypoint texts) 0 (first :: rest)
      checkAll (optionChecks texts
        "route_snapshot global_controller must be theta_star, navfn or smac_hybrid" route command)
      if ((Json.get? command "continuous_rosbag").getD (.bool false)).truthy then
        let _ ← parseUuid texts (← required command "loop_session_id") "loop_session_id"
        return ()
      else return ()
    | _ => invalidMessage "task.start requires at least one waypoint"
  | _ => invalidMessage "route_snapshot must be an object"

end RoamerX
