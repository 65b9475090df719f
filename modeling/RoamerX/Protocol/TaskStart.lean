import RoamerX.Protocol.Texts

set_option autoImplicit false

/-! # The checks on `task.start`

Both ends check the command object of a `task.start`, each in its own `protocol.py`. The checks on a
waypoint and on the options are word for word the same but for some messages, and stand here; what an
end does differently stands with that end. -/

namespace RoamerX

/-- `ProtocolError("INVALID_MESSAGE", message)`. -/
def invalidMessage {α : Type*} (message : String) : Except Raised α :=
  .error (.protocol ⟨"INVALID_MESSAGE", message⟩)

/-- A row of checks, each with the message of the error that is raised where it fails. -/
def checkAll : List (Bool × String) → Except Raised Unit
  | [] => .ok ()
  | (holds, message) :: rest => if holds then checkAll rest else invalidMessage message

/-- A loop over the waypoints, which ends at the first error. -/
def checkEach (check : ℕ → Json → Except Raised Unit) : ℕ → List Json → Except Raised Unit
  | _, [] => .ok ()
  | index, waypoint :: rest =>
    match check index waypoint with
    | .ok () => checkEach check (index + 1) rest
    | .error e => .error e

/-! ## Values -/

/-- `isinstance(value, (int, float)) and not isinstance(value, bool)`. -/
def isNumeric : Option Json → Bool
  | some (.num _) => true
  | _ => false

/-- `field not in mapping or isinstance(mapping[field], bool)`. -/
def absentOrBool : Option Json → Bool
  | none | some (.bool _) => true
  | some _ => false

/-- `value or default`. -/
def orElse (value : Option Json) (default : Json) : Json :=
  match value with
  | some v => if v.truthy then v else default
  | none => default

/-- `0 <= value <= 3600`, false for what is not finite. -/
def JsonNumber.inDwellRange : JsonNumber → Bool
  | .int n => decide (0 ≤ n ∧ n ≤ 3600)
  | .float q => decide (0 ≤ q ∧ q ≤ 3600)
  | .nonfinite => false

/-- `actions` is a list of nothing but `snapshot`. -/
def snapshotOnly : Option Json → Bool
  | none => true
  | some (.arr actions) => actions.all (fun action => match action with
    | .str s => decide (s = "snapshot")
    | _ => false)
  | some _ => false

section Checks

variable (texts : Texts)

/-- `str(value).lower() in choices`. -/
def isChoice (choices : List String) (value : Json) : Bool :=
  decide (texts.lower (texts.str value) ∈ choices)

/-- `field not in mapping or str(mapping[field]).lower() in choices`. -/
def absentOrChoice (choices : List String) : Option Json → Bool
  | none => true
  | some value => isChoice texts choices value

def arrivalPolicies : List String := ["pass_through", "stop_and_confirm", "precision", "dock"]
def globalControllers : List String := ["theta_star", "navfn", "smac_hybrid"]
def localControllers : List String := ["rpp", "mppi", "ilqr"]
def speedLevels : List String := ["micro", "low", "medium", "high"]
def anchorPreferences : List String := ["ndt", "rtk", "balanced"]
def speechModes : List String := ["blocking", "non_blocking", "disabled"]
def microAdjustModes : List String := ["cmd_vel", "nav2_goal"]

/-- `nav2_goal` is only allowed where the robot stops to confirm its arrival. -/
def nav2GoalAllowed (waypoint : List (String × Json)) : Bool :=
  match Json.get? waypoint "arrival_micro_adjust_mode" with
  | none => true
  | some mode =>
    !(isChoice texts ["nav2_goal"] mode &&
      isChoice texts ["pass_through", "dock"]
        (orElse (Json.get? waypoint "arrival_policy") (.str "stop_and_confirm")))

/-- The checks on the waypoint at an index; the message on its sequence differs. -/
def waypointChecks (sequenceMessage : String) (index : ℕ) (waypoint : List (String × Json)) :
    List (Bool × String) :=
  [(Json.equalsInt index (Json.get? waypoint "sequence"), sequenceMessage)] ++
  ["x", "y", "yaw"].map (fun coordinate =>
    (isNumeric (Json.get? waypoint coordinate), "waypoint " ++ coordinate ++ " must be numeric")) ++
  ["avoidance_to_next", "require_yaw", "detour_enabled", "collision_slowdown_enabled",
    "collision_stop_enabled", "force_localization_correction"].map (fun field =>
      (absentOrBool (Json.get? waypoint field), "waypoint " ++ field ++ " must be boolean")) ++
  [(absentOrChoice texts arrivalPolicies (Json.get? waypoint "arrival_policy"),
      "waypoint arrival_policy is invalid"),
    (absentOrChoice texts microAdjustModes (Json.get? waypoint "arrival_micro_adjust_mode"),
      "waypoint arrival_micro_adjust_mode is invalid"),
    (nav2GoalAllowed texts waypoint, "nav2_goal is not allowed for pass_through or dock"),
    (absentOrChoice texts anchorPreferences (Json.get? waypoint "localization_anchor_preference"),
      "waypoint localization_anchor_preference is invalid"),
    (absentOrBool (Json.get? waypoint "rtk_primary_allowed"),
      "waypoint rtk_primary_allowed must be boolean"),
    (absentOrChoice texts speechModes (Json.get? waypoint "speech_mode"),
      "waypoint speech_mode is invalid"),
    (absentOrChoice texts localControllers (Json.get? waypoint "local_controller"),
      "waypoint local_controller must be mppi, rpp or ilqr"),
    (absentOrChoice texts speedLevels (Json.get? waypoint "navigation_speed_level"),
      "waypoint navigation_speed_level must be micro, low, medium or high"),
    (absentOrChoice texts globalControllers (Json.get? waypoint "global_controller"),
      "waypoint global_controller must be theta_star, navfn or smac_hybrid"),
    (match Json.get? waypoint "dwell_seconds" with
      | none => true
      | some (.num v) => v.inDwellRange
      | some _ => false,
      "waypoint dwell_seconds must be between 0 and 3600")]

/-- The checks after the waypoints; the message on the controller of the route differs. -/
def optionChecks (controllerMessage : String) (route command : List (String × Json)) :
    List (Bool × String) :=
  let record := Json.get? command "record_rosbag"
  let continuous := (Json.get? command "continuous_rosbag").getD (.bool false)
  [(isChoice texts globalControllers
      (orElse (Json.get? route "global_controller") (.str "theta_star")), controllerMessage),
    (match record with
      | none | some .null | some (.bool _) => true
      | some _ => false,
      "task.start record_rosbag must be boolean"),
    (match continuous with
      | .bool _ => true
      | _ => false,
      "task.start continuous_rosbag must be boolean"),
    (!continuous.truthy || record.any (·.truthy), "continuous_rosbag requires record_rosbag")]

end Checks

end RoamerX
