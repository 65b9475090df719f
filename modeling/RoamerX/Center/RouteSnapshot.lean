import RoamerX.Protocol.TaskStart
import RoamerX.Center.Trajectory
import Mathlib.Data.Rat.Floor

set_option autoImplicit false

/-! # Route snapshots

`normalize_waypoints` and `build_route_snapshot` of `task_service.py`: the waypoints of a route, as an
operator stored them, become the ones that are sent to the Edge. -/

namespace RoamerX

namespace RouteSnapshots

/-- `MapData`, as far as a snapshot names it. -/
structure RouteMap where
  id : ℕ
  name : String
  localMapDir : String
  coordinateMode : String
  sceneScope : String
  localizationMode : String
  originStatus : String
  completeness : Json
  /-- `active_revision` and `boundary_payload` of the navigation boundary. -/
  boundary : Option (ℕ × Json) := none

/-- `PatrolRoute`. -/
structure Route where
  id : ℕ
  name : String
  mapData : RouteMap
  waypoints : List Json
  waypointNames : List Json
  sceneScope : String
  globalController : String
  /-- What the snapshot says of a map set. -/
  mapSet : Option Json := none

def taskStateError {α : Type*} : Except Raised α := .error (.other "TaskStateError")

section Normalize

variable (texts : Texts)

/-- `str(value or default).strip().lower()`. -/
def normalizedWord (value : Option Json) (default : String) : String :=
  texts.lower (texts.strip (texts.str (orElse value (.str default))))

/-- `normalized if normalized in choices else default`. -/
def normalizeChoice (choices : List String) (default : String) (value : Option Json) : String :=
  if normalizedWord texts value default ∈ choices then normalizedWord texts value default else default

def normalizeGlobalController : Option Json → String :=
  normalizeChoice texts globalControllers "theta_star"

def normalizeLocalController : Option Json → String := normalizeChoice texts localControllers "mppi"

def normalizeNavigationSpeedLevel : Option Json → String := normalizeChoice texts speedLevels "micro"

def normalizeAnchorPreference : Option Json → String :=
  normalizeChoice texts anchorPreferences "balanced"

/-- `_normalize_arrival_policy`; whatever is no policy becomes `stop_and_confirm`. -/
def normalizeArrivalPolicy (value : Option Json) : String :=
  if normalizedWord texts value "" ∈ arrivalPolicies then normalizedWord texts value ""
  else "stop_and_confirm"

def normalizeArrivalMicroAdjustMode (value : Option Json) (arrivalPolicy : String) : String :=
  if arrivalPolicy ∈ ["pass_through", "dock"] then "cmd_vel"
  else normalizeChoice texts microAdjustModes "cmd_vel" value

/-- The value of a conversion that may raise. -/
def converted {α : Type} (value : Option α) : Except Raised α :=
  match value with
  | some v => .ok v
  | none => .error (.other "TypeError")

/-- `value not in (None, "")`. -/
def given : Option Json → Bool
  | none | some .null => false
  | some (.str s) => decide (s ≠ "")
  | some _ => true

/-- `round(value, 1)`. -/
def roundTenth : JsonNumber → JsonNumber
  | .float q => .float (roundHalfEven (q * 10) / 10)
  | v => v

/-- What differs between the two ways a waypoint is stored: the members after the position. -/
structure WaypointFields where
  waypointId : String
  mapPointNumber : ℤ
  name : Json
  dwellSeconds : JsonNumber
  actions : List Json
  localizationMode : String
  localController : String
  navigationSpeedLevel : String
  globalController : String
  avoidanceToNext : Bool
  detourEnabled : Bool
  collisionSlowdownEnabled : Bool
  collisionStopEnabled : Bool
  requireYaw : Bool
  forceLocalizationCorrection : Bool
  arrivalPolicy : String
  arrivalMicroAdjustMode : String
  localizationAnchorPreference : String
  rtkPrimaryAllowed : Bool
  speechMode : String
  /-- `speech_template_id`, `speech_template_name` and `speech_text`, where there is a template. -/
  speech : Option (ℤ × String × String)

def waypointObject (index : ℕ) (x y yaw : JsonNumber) (w : WaypointFields) :
    List (String × Json) :=
  [("waypoint_id", .str w.waypointId),
    ("sequence", .num (.int index)),
    ("map_point_number", .num (.int w.mapPointNumber)),
    ("name", w.name),
    ("x", .num x),
    ("y", .num y),
    ("yaw", .num yaw),
    ("dwell_seconds", .num (roundTenth w.dwellSeconds)),
    ("actions", .arr w.actions),
    ("localization_mode",
      .str (if w.localizationMode ∈ ["ndt", "rtk", "ukf"] then w.localizationMode else "ndt")),
    ("local_controller", .str w.localController),
    ("navigation_speed_level", .str w.navigationSpeedLevel),
    ("global_controller", .str w.globalController),
    ("avoidance_to_next", .bool w.avoidanceToNext),
    ("detour_enabled", .bool w.detourEnabled),
    ("collision_slowdown_enabled", .bool w.collisionSlowdownEnabled),
    ("collision_stop_enabled", .bool w.collisionStopEnabled),
    ("require_yaw", .bool w.requireYaw),
    ("force_localization_correction", .bool w.forceLocalizationCorrection),
    ("arrival_policy", .str w.arrivalPolicy),
    ("arrival_micro_adjust_mode", .str w.arrivalMicroAdjustMode),
    ("localization_anchor_preference", .str w.localizationAnchorPreference),
    ("rtk_primary_allowed", .bool w.rtkPrimaryAllowed),
    ("speech_mode", .str w.speechMode)] ++
  match w.speech with
  | none => []
  | some (id, name, text) =>
    [("speech_template_id", .num (.int id)),
      ("speech_template_name", .str name),
      ("speech_text", .str text)]

/-- `names[index] if index < len(names) else f"航点 {index + 1}"`. -/
def defaultName (names : List Json) (index : ℕ) : Json :=
  names.getD index (.str ("航点 " ++ toString (index + 1)))

/-- The dwell time, between 0 and 3600 seconds. -/
def dwellSecondsOf (raw : List (String × Json)) : Except Raised JsonNumber :=
  match texts.float? (orElse (Json.get? raw "dwell_seconds") (.num (.int 0))) with
  | none => taskStateError
  | some v => if v.inDwellRange then .ok v else taskStateError

/-- `force_localization_correction`, which is not converted. -/
def forceLocalizationCorrectionOf (raw : List (String × Json)) : Except Raised Bool :=
  match (Json.get? raw "force_localization_correction").getD (.bool false) with
  | .bool b => .ok b
  | _ => taskStateError

/-- The members on speech, where there is a template. -/
def speechOf (raw : List (String × Json)) : Except Raised (Option (ℤ × String × String)) :=
  if given (Json.get? raw "speech_template_id") then do
    let id ← converted (texts.int? ((Json.get? raw "speech_template_id").getD .null))
    return some (id, texts.str (orElse (Json.get? raw "speech_template_name") (.str "")),
      texts.str (orElse (Json.get? raw "speech_text") (.str "")))
  else return none

/-- The fields of a waypoint that is stored as an object. -/
def objectFields (route : Route) (index : ℕ) (raw : List (String × Json)) :
    Except Raised WaypointFields := do
  let routeController := normalizeGlobalController texts (some (.str route.globalController))
  let mapPointNumber ← converted (texts.int?
    (orElse (Json.get? raw "map_point_number") (.num (.int (index + 1)))))
  let dwellSeconds ← dwellSecondsOf texts raw
  let actions ← converted (texts.list? (orElse (Json.get? raw "actions") (.arr [])))
  let avoidanceToNext := ((Json.get? raw "avoidance_to_next").getD (.bool true)).truthy
  let forceLocalizationCorrection ← forceLocalizationCorrectionOf raw
  let arrivalPolicy := normalizeArrivalPolicy texts (Json.get? raw "arrival_policy")
  let speechMode := normalizedWord texts (Json.get? raw "speech_mode") ""
  let speech ← speechOf texts raw
  return {
    waypointId := texts.str
      (orElse (Json.get? raw "waypoint_id") (.str ("wp-" ++ toString (index + 1))))
    mapPointNumber := mapPointNumber
    name := orElse (Json.get? raw "name") (defaultName route.waypointNames index)
    dwellSeconds := dwellSeconds
    actions := actions
    localizationMode :=
      texts.lower (texts.str (orElse (Json.get? raw "localization_mode") (.str "ndt")))
    localController := normalizeLocalController texts (Json.get? raw "local_controller")
    navigationSpeedLevel :=
      normalizeNavigationSpeedLevel texts (Json.get? raw "navigation_speed_level")
    globalController := normalizeGlobalController texts
      (some (orElse (Json.get? raw "global_controller") (.str routeController)))
    avoidanceToNext := avoidanceToNext
    detourEnabled := ((Json.get? raw "detour_enabled").getD (.bool avoidanceToNext)).truthy
    collisionSlowdownEnabled :=
      ((Json.get? raw "collision_slowdown_enabled").getD (.bool avoidanceToNext)).truthy
    collisionStopEnabled := ((Json.get? raw "collision_stop_enabled").getD (.bool true)).truthy
    requireYaw := ((Json.get? raw "require_yaw").getD (.bool false)).truthy
    forceLocalizationCorrection := forceLocalizationCorrection
    arrivalPolicy := arrivalPolicy
    arrivalMicroAdjustMode := normalizeArrivalMicroAdjustMode texts
      (Json.get? raw "arrival_micro_adjust_mode") arrivalPolicy
    localizationAnchorPreference :=
      normalizeAnchorPreference texts (Json.get? raw "localization_anchor_preference")
    rtkPrimaryAllowed := ((Json.get? raw "rtk_primary_allowed").getD (.bool false)).truthy
    speechMode :=
      if speechMode ∈ speechModes then speechMode
      else if given (Json.get? raw "speech_template_id") then "non_blocking" else "disabled"
    speech := speech }

/-- The fields of a waypoint that is stored as an array of coordinates. -/
def arrayFields (route : Route) (index : ℕ) : WaypointFields where
  waypointId := "wp-" ++ toString (index + 1)
  mapPointNumber := index + 1
  name := defaultName route.waypointNames index
  dwellSeconds := .int 0
  actions := []
  localizationMode := "ndt"
  localController := "mppi"
  navigationSpeedLevel := "micro"
  globalController := normalizeGlobalController texts (some (.str route.globalController))
  avoidanceToNext := true
  detourEnabled := true
  collisionSlowdownEnabled := true
  collisionStopEnabled := true
  requireYaw := false
  forceLocalizationCorrection := false
  arrivalPolicy := normalizeArrivalPolicy texts none
  arrivalMicroAdjustMode := "cmd_vel"
  localizationAnchorPreference := "balanced"
  rtkPrimaryAllowed := false
  speechMode := "disabled"
  speech := none

/-- The body of the loop of `normalize_waypoints`. -/
def normalizeWaypoint (route : Route) (index : ℕ) (raw : Json) :
    Except Raised (List (String × Json)) :=
  match raw with
  | .obj raw => do
    let w ← objectFields texts route index raw
    let x ← converted (texts.float? ((Json.get? raw "x").getD .null))
    let y ← converted (texts.float? ((Json.get? raw "y").getD .null))
    let yaw ← converted (texts.float? ((Json.get? raw "yaw").getD (.num (.float 0))))
    return waypointObject index x y yaw w
  | .arr (x :: y :: rest) => do
    let x ← converted (texts.float? x)
    let y ← converted (texts.float? y)
    let yaw ← converted (texts.float? (rest.headD (.num (.float 0))))
    return waypointObject index x y yaw (arrayFields texts route index)
  | _ => taskStateError

def normalizeFrom (route : Route) : ℕ → List Json → Except Raised (List (List (String × Json)))
  | _, [] => .ok []
  | index, raw :: rest => do
    let waypoint ← normalizeWaypoint texts route index raw
    let others ← normalizeFrom route (index + 1) rest
    return waypoint :: others

def normalizeWaypoints (route : Route) : Except Raised (List (List (String × Json))) := do
  let normalized ← normalizeFrom texts route 0 route.waypoints
  if normalized = [] then taskStateError else return normalized

/-- The member `map` of a snapshot. -/
def mapObject (m : RouteMap) : List (String × Json) :=
  [("map_id", .str (toString m.id)),
    ("map_version", .str ("legacy-mapdata-" ++ toString m.id)),
    ("sha256", .null),
    ("map_name", .str m.name),
    ("local_map_dir", .str m.localMapDir),
    ("coordinate_mode", .str m.coordinateMode),
    ("scene_scope", .str m.sceneScope),
    ("localization_mode", .str m.localizationMode),
    ("origin_status", .str m.originStatus),
    ("completeness", m.completeness)]

/-- The members of the boundary, once a revision of it is active. -/
def boundaryMembers (m : RouteMap) : List (String × Json) :=
  match m.boundary with
  | some (activeRevision, payload) =>
    if 0 < activeRevision then
      [("boundary_revision", .num (.int activeRevision)), ("boundary", payload)]
    else []
  | none => []

def buildRouteSnapshot (route : Route) : Except Raised (List (String × Json)) := do
  let waypoints ← normalizeWaypoints texts route
  return [("route_id", .str (toString route.id)),
      ("route_name", .str route.name),
      ("frame_id", .str "map"),
      ("map", .obj (mapObject route.mapData)),
      ("scene_scope", .str (orText (orText route.mapData.sceneScope route.sceneScope) "indoor")),
      ("global_controller",
        .str (normalizeGlobalController texts (some (.str route.globalController)))),
      ("waypoints", .arr (waypoints.map .obj))] ++
    boundaryMembers route.mapData ++
    match route.mapSet with
    | some mapSet => [("map_set", mapSet)]
    | none => []

end Normalize

/-- `dict(value or {})`. -/
def dictOrEmpty (value : Option Json) : Except Raised (List (String × Json)) :=
  match value with
  | some (.obj members) => .ok members
  | some v => if v.truthy then .error (.other "TypeError") else .ok []
  | none => .ok []

/-- `create_execution`: the snapshot an execution stores, which is the given one or the route's own,
    with the fields of localization taken from the map. What refuses a route is left out. -/
def storedSnapshot (texts : Texts) (route : Route) (given : Option (List (String × Json)))
    (executionSource : String) : Except Raised (List (String × Json)) := do
  let snapshot ← given.elim (buildRouteSnapshot texts route) .ok
  let scene := orElse (some (.str route.mapData.sceneScope))
    (orElse (Json.get? snapshot "scene_scope") (.str "indoor"))
  let snapshotMap ← dictOrEmpty (Json.get? snapshot "map")
  let coordinateMode := orElse (some (.str route.mapData.coordinateMode))
    (orElse (Json.get? snapshotMap "coordinate_mode") (.str "local_only"))
  let snapshotMap := Json.set (Json.set snapshotMap "scene_scope" scene)
    "coordinate_mode" coordinateMode
  return Json.set (Json.set (Json.set snapshot "scene_scope" scene) "map" (.obj snapshotMap))
    "execution_source" (.str (orText executionSource "task_center"))

end RouteSnapshots

end RoamerX
