import RoamerX.Boundary.FilterMask
import Mathlib.Data.Finset.Image

set_option autoImplicit false

/-! # The boundary on the Edge

`NavigationBoundaryManager` of `navigation_boundary.py`: the boundary the center applied, the check
of a goal or a route against it, and the watch over the pose while the robot drives. -/

namespace RoamerX

variable {𝕜 : Type*} [Field 𝕜] [LinearOrder 𝕜]

open Polygon

/-! ## State -/

/-- The events of `observe_pose`. -/
inductive BoundaryEvent
  | entered | exited | approaching | approachCleared
  deriving DecidableEq

/-- `NavigationBoundaryManager`; `active` is `none` for the empty dictionary. -/
structure NavigationBoundaryManager (𝕜 : Type*) where
  active : Option (NavigationBoundary 𝕜) := none
  /-- The value stored under `METADATA_KEY`. -/
  stored : Option (NavigationBoundary 𝕜) := none
  /-- `mask_dir` is set; with the map of `map_yaml_path`, if there is one. -/
  mask : Option (Option (GridMap 𝕜)) := none
  lastRegionKeys : Finset String := ∅
  lastWarningNearKeys : Finset String := ∅
  lastViolation : String := ""
  /-- `none` is the fresh `object()` of `retry_speed_application`. -/
  lastSpeedLimit : Option (Option 𝕜) := some none

/-- The command object of `map.boundary_apply`. -/
structure BoundaryCommand (𝕜 : Type*) where
  mapId : String
  mapVersion : String := ""
  revision : ℤ
  outerPolygon : List (𝕜 × 𝕜)
  safetyMarginM : 𝕜
  zones : List (Zone 𝕜)
  map : Option (GridMap 𝕜) := none
  deriving DecidableEq

/-- The dictionary that `apply` makes active. -/
def BoundaryCommand.boundary (command : BoundaryCommand 𝕜) : NavigationBoundary 𝕜 where
  mapId := command.mapId
  mapVersion := command.mapVersion
  revision := command.revision
  outerPolygon := command.outerPolygon
  safetyMarginM := command.safetyMarginM
  zones := command.zones.filter (·.active)
  map := command.map

/-- What `apply` answers. -/
structure BoundaryApplied (𝕜 : Type*) where
  mapId : String
  activeRevision : ℤ
  zoneCount : ℕ
  enforcement : String
  keepoutMask : Option (BoundaryFilterMask.Mask 𝕜)

/-- A route as `validate_route` reads it. -/
structure BoundaryRoute (𝕜 : Type*) where
  mapId : String
  boundaryRevision : Option ℤ := none
  waypoints : List (𝕜 × 𝕜)
  deriving DecidableEq

/-- What `observe_pose` answers. -/
structure PoseObservation (𝕜 : Type*) where
  violation : String := ""
  violationChanged : Bool := false
  speedLimitMps : Option 𝕜 := none
  speedChanged : Bool := false
  events : Finset (BoundaryEvent × String) := ∅

/-- `str(zone.get("id") or zone.get("name") or "zone")`. -/
def Zone.key (zone : Zone 𝕜) : String :=
  match zone.id with
  | some (n + 1) => toString (n + 1)
  | _ => if zone.name = "" then "zone" else zone.name

def pointInPolygon (x y : 𝕜) (polygon : List (𝕜 × 𝕜)) : Bool :=
  if polygon.length < 3 then false else scanAll (fun _ _ => false) x y polygon

/-- The least natural number that is no less than the square root of `q`: `math.ceil` of a distance
    whose square is `q`. -/
def ceilSqrt [FloorSemiring 𝕜] (q : 𝕜) : ℕ :=
  let m := ⌈q⌉₊
  if m.sqrt * m.sqrt = m then m.sqrt else m.sqrt + 1

namespace NavigationBoundaryManager

/-! ## Applying a boundary -/

/-- `str(self.active.get("map_id") or "")`. -/
def activeMapId (m : NavigationBoundaryManager 𝕜) : String := (m.active.map (·.mapId)).getD ""

/-- `int(self.active.get("revision") or 0)`. -/
def activeRevision (m : NavigationBoundaryManager 𝕜) : ℤ := (m.active.map (·.revision)).getD 0

/-- `apply`. The boundary is active already when the mask cannot be written. -/
def apply (cos sin : 𝕜 → 𝕜) (m : NavigationBoundaryManager 𝕜) (command : BoundaryCommand 𝕜) :
    NavigationBoundaryManager 𝕜 × Except ProtocolError (BoundaryApplied 𝕜) :=
  if command.mapId = "" ∨ command.revision ≤ 0 ∨ command.outerPolygon.length < 3 then
    (m, .error ⟨"BOUNDARY_INVALID", "导航边界缺少地图、版本或外边界"⟩)
  else
    let active := command.boundary
    let m := { m with active := some active }
    let applied := fun keepoutMask enforcement =>
      ({ m with stored := some active },
        Except.ok
          { mapId := command.mapId
            activeRevision := command.revision
            zoneCount := active.zones.length
            enforcement := enforcement
            keepoutMask := keepoutMask })
    match m.mask with
    | none => applied none "edge_admission_and_runtime_watchdog"
    | some localMap =>
      match BoundaryFilterMask.writeKeepoutMask cos sin localMap active with
      | .error e => (m, .error e)
      | .ok mask => applied (some mask) "nav2_keepout_filter_and_edge_watchdog"

/-- `activate_map`, without the permissive mask it writes. -/
def activateMap (m : NavigationBoundaryManager 𝕜) (mapId : String) : NavigationBoundaryManager 𝕜 :=
  if m.activeMapId = mapId then m
  else
    { m with
      active := none
      stored := none
      lastRegionKeys := ∅
      lastWarningNearKeys := ∅
      lastViolation := ""
      lastSpeedLimit := some none }

/-! ## Checking a point or a route -/

def validateExpected (m : NavigationBoundaryManager 𝕜) (mapId : String) (expected : Option ℤ) :
    Except ProtocolError Unit :=
  match expected with
  | none => .ok ()
  | some revision =>
    if revision = 0 then .ok ()
    else if m.activeMapId ≠ mapId ∨ m.activeRevision ≠ revision then
      let current := m.activeRevision
      .error ⟨"BOUNDARY_REVISION_MISMATCH",
        s!"导航边界版本不一致，期望 {revision}，Edge 为 {current}"⟩
    else .ok ()

def margin (active : NavigationBoundary 𝕜) : 𝕜 := max 0 active.safetyMarginM

/-- The point is not inside the outer polygon, or within the margin of its outline. -/
def outsideOuter (active : NavigationBoundary 𝕜) (x y : 𝕜) : Bool :=
  !pointInPolygon x y active.outerPolygon ||
    nearer (distanceToPolygon x y active.outerPolygon) (margin active)

/-- A zone `validate_point` refuses the point for. -/
def forbids (active : NavigationBoundary 𝕜) (x y : 𝕜) (zone : Zone 𝕜) : Bool :=
  decide (zone.zoneType = .forbidden) && (pointInPolygon x y zone.polygon ||
    nearer (distanceToPolygon x y zone.polygon) (margin active))

/-- `validate_point` for a point of the map the boundary is of. -/
def checkPoint (active : NavigationBoundary 𝕜) (x y : 𝕜) : Except ProtocolError Unit :=
  if active.outerPolygon ≠ [] ∧ outsideOuter active x y = true then
    .error ⟨"GOAL_OUTSIDE_NAVIGATION_BOUNDARY", "导航目标位于可行驶外边界之外"⟩
  else
    match active.zones.find? (forbids active x y) with
    | none => .ok ()
    | some zone =>
      let name := zone.name
      .error ⟨"GOAL_IN_FORBIDDEN_ZONE", s!"导航目标位于禁入区“{name}”内"⟩

def validatePoint (m : NavigationBoundaryManager 𝕜) (mapId : String) (x y : 𝕜)
    (expected : Option ℤ := none) : Except ProtocolError Unit := do
  m.validateExpected mapId expected
  match m.active with
  | none => .ok ()
  | some active => if m.activeMapId ≠ mapId then .ok () else checkPoint active x y

/-- The number of steps in which `validate_route` walks a leg. -/
def samples [FloorSemiring 𝕜] (start stop : 𝕜 × 𝕜) : ℕ :=
  min 2000 (max 1 (ceilSqrt (hypotSq (stop.1 - start.1) (stop.2 - start.2) * 400)))

/-- The point at `ratio` of a leg. -/
def along (start stop : 𝕜 × 𝕜) (ratio : 𝕜) : 𝕜 × 𝕜 :=
  (start.1 + ratio * (stop.1 - start.1), start.2 + ratio * (stop.2 - start.2))

/-- `validate_route`: the waypoints, then the points `index / samples` along each leg. -/
def validateRoute [FloorSemiring 𝕜] (m : NavigationBoundaryManager 𝕜) (route : BoundaryRoute 𝕜) :
    Except ProtocolError Unit := do
  m.validateExpected route.mapId route.boundaryRevision
  route.waypoints.forM (fun w => m.validatePoint route.mapId w.1 w.2 route.boundaryRevision)
  (route.waypoints.zip route.waypoints.tail).forM (fun leg =>
    (List.range' 1 (samples leg.1 leg.2 - 1)).forM (fun index =>
      let point := along leg.1 leg.2 ((index : 𝕜) / (samples leg.1 leg.2 : 𝕜))
      m.validatePoint route.mapId point.1 point.2 route.boundaryRevision))

/-! ## Watching the pose -/

def retrySpeedApplication (m : NavigationBoundaryManager 𝕜) : NavigationBoundaryManager 𝕜 :=
  { m with lastSpeedLimit := none }

def retryViolationStop (m : NavigationBoundaryManager 𝕜) : NavigationBoundaryManager 𝕜 :=
  { m with lastViolation := "" }

/-- `violation` after the loop over the zones: the last forbidden zone the pose is in, else what it
    was before. -/
def enteredZone (x y : 𝕜) (violation : String) (zones : List (Zone 𝕜)) : String :=
  zones.foldl (fun violation zone =>
    if pointInPolygon x y zone.polygon && decide (zone.zoneType = .forbidden) then
      "forbidden:" ++ zone.key
    else violation) violation

/-- A forbidden zone the pose is within the margin of. -/
def nearForbidden (active : NavigationBoundary 𝕜) (x y : 𝕜) (zone : Zone 𝕜) : Bool :=
  decide (zone.zoneType = .forbidden) &&
    nearer (distanceToPolygon x y zone.polygon) (margin active)

/-- The `violation` that `observe_pose` reports. -/
def violation (active : NavigationBoundary 𝕜) (x y : 𝕜) : String :=
  let violation := enteredZone x y
    (if outsideOuter active x y then "outside_boundary" else "") active.zones
  if violation ≠ "" then violation
  else
    match active.zones.find? (nearForbidden active x y) with
    | some zone => "forbidden:" ++ zone.key
    | none => ""

def currentRegions (active : NavigationBoundary 𝕜) (x y : 𝕜) : Finset String :=
  ((active.zones.filter (fun zone => pointInPolygon x y zone.polygon)).map Zone.key).toFinset

/-- The warning zones the pose is near. -/
def warningNear (active : NavigationBoundary 𝕜) (x y : 𝕜) : Finset String :=
  ((active.zones.filter (fun zone => decide (zone.zoneType = .warning) &&
    !pointInPolygon x y zone.polygon &&
    within (distanceToPolygon x y zone.polygon) (max 0 zone.warningDistanceM))).map
      Zone.key).toFinset

/-- The smallest limit of the restricted zones the pose is in. -/
def speedLimit (active : NavigationBoundary 𝕜) (x y : 𝕜) : Option 𝕜 :=
  (active.zones.filterMap (fun zone =>
    if pointInPolygon x y zone.polygon && decide (zone.zoneType = .restricted) then
      zone.speedLimitMps
    else none)).min?

def observePose (m : NavigationBoundaryManager 𝕜) (mapId : String) (x y : 𝕜) :
    NavigationBoundaryManager 𝕜 × PoseObservation 𝕜 :=
  match m.active with
  | none => (m, {})
  | some active =>
    if m.activeMapId ≠ mapId then (m, {})
    else
      let violation := violation active x y
      let regions := currentRegions active x y
      let near := warningNear active x y
      let limit := speedLimit active x y
      let label := fun event (keys : Finset String) =>
        keys.image (fun key => ((event : BoundaryEvent), key))
      ({ m with
          lastRegionKeys := regions
          lastWarningNearKeys := near
          lastViolation := violation
          lastSpeedLimit := some limit },
        { violation := violation
          violationChanged := decide (violation ≠ m.lastViolation)
          speedLimitMps := limit
          speedChanged := decide (some limit ≠ m.lastSpeedLimit)
          events := label .entered (regions \ m.lastRegionKeys) ∪
            label .exited (m.lastRegionKeys \ regions) ∪
            label .approaching (near \ m.lastWarningNearKeys) ∪
            label .approachCleared ((m.lastWarningNearKeys \ near) \ regions) })

end NavigationBoundaryManager

end RoamerX
