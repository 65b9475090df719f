import Mathlib
import RoamerX.Boundary.Polygon
import RoamerX.Protocol.Json
import RoamerX.Lib.Numerals

set_option autoImplicit false

/-! # The keep-out mask

`boundary_filter_mask.py`: the active boundary as a raster for the Nav2 keep-out filter. The files
are left out; `math.cos` and `math.sin` are parameters. -/

namespace RoamerX

open scoped Numerals

variable {𝕜 : Type*} [Field 𝕜] [LinearOrder 𝕜]

/-! ## Boundaries -/

/-- `Zone.ZONE_TYPE_CHOICES`. -/
inductive ZoneType
  | forbidden | warning | restricted
  deriving DecidableEq

/-- An entry of `zones`. -/
structure Zone (𝕜 : Type*) where
  id : Option ℕ := none
  name : String := ""
  zoneType : ZoneType
  polygon : List (𝕜 × 𝕜)
  active : Bool := true
  speedLimitMps : Option 𝕜 := none
  warningDistanceM : 𝕜
  deriving DecidableEq

/-- The `map` entry, with its `origin` as `x`, `y` and yaw. -/
structure GridMap (𝕜 : Type*) where
  width : ℤ
  height : ℤ
  resolution : 𝕜
  origin : 𝕜 × 𝕜 × 𝕜
  deriving DecidableEq

/-- The dictionary `NavigationBoundaryManager.active`, when it is not empty. -/
structure NavigationBoundary (𝕜 : Type*) where
  mapId : String
  mapVersion : String := ""
  revision : ℤ
  outerPolygon : List (𝕜 × 𝕜)
  safetyMarginM : 𝕜
  zones : List (Zone 𝕜)
  map : Option (GridMap 𝕜) := none
  deriving DecidableEq

namespace BoundaryFilterMask

open Polygon

def inside (x y : 𝕜) (polygon : List (𝕜 × 𝕜)) : Bool := scanAll (fun _ _ => false) x y polygon

/-- The square of `_segment_distance`. -/
def segmentDistance (x y : 𝕜) (start stop : 𝕜 × 𝕜) : 𝕜 :=
  if hypotSq (stop.1 - start.1) (stop.2 - start.2) ≤ 1 / 10 ^ 18 then
    hypotSq (x - start.1) (y - start.2)
  else
    hypotSq (x - start.1 - nearestRatio x y start stop * (stop.1 - start.1))
      (y - start.2 - nearestRatio x y start stop * (stop.2 - start.2))

/-- The square of `_polygon_distance`. -/
def polygonDistance (x y : 𝕜) (polygon : List (𝕜 × 𝕜)) : WithTop 𝕜 :=
  minOverEdges (segmentDistance x y) polygon

def cellCentre (cosYaw sinYaw : 𝕜) (map : GridMap 𝕜) (row column : ℕ) : 𝕜 × 𝕜 :=
  let localY := ((map.height : 𝕜) - row - 1 / 2) * map.resolution
  let localX := ((column : 𝕜) + 1 / 2) * map.resolution
  (map.origin.1 + cosYaw * localX - sinYaw * localY,
    map.origin.2.1 + sinYaw * localX + cosYaw * localY)

/-- Whether `write_keepout_mask` blocks the cell around `(x, y)`. -/
def blocked (boundary : NavigationBoundary 𝕜) (x y : 𝕜) : Bool :=
  let forbidden := (boundary.zones.filter
    (fun zone => zone.active && decide (zone.zoneType = .forbidden))).map (·.polygon)
  let margin := max 0 boundary.safetyMarginM
  let blocked := !inside x y boundary.outerPolygon ||
    nearer (polygonDistance x y boundary.outerPolygon) margin
  if !blocked then
    forbidden.any (fun polygon => inside x y polygon ||
      nearer (polygonDistance x y polygon) margin)
  else blocked

structure Mask (𝕜 : Type*) where
  mapId : String
  revision : ℤ
  width : ℕ
  height : ℕ
  resolution : 𝕜
  origin : 𝕜 × 𝕜 × 𝕜
  /-- black = occupied, white = free -/
  pixels : List ℕ
  occupiedCells : ℕ
  deriving DecidableEq

/-- The two maps are not the same raster. -/
def mapMismatch (here map : GridMap 𝕜) : Bool :=
  decide ((here.width, here.height) ≠ (map.width, map.height)) ||
    decide (1 / 10 ^ 9 < |here.resolution - map.resolution|) ||
    decide (1 / 10 ^ 6 < |here.origin.1 - map.origin.1|) ||
    decide (1 / 10 ^ 6 < |here.origin.2.1 - map.origin.2.1|) ||
    decide (1 / 10 ^ 6 < |here.origin.2.2 - map.origin.2.2|)

/-- `write_keepout_mask`. `localMap` is what the file `source_map_yaml` says, if there is one. -/
def writeKeepoutMask (cos sin : 𝕜 → 𝕜) (localMap : Option (GridMap 𝕜))
    (boundary : NavigationBoundary 𝕜) : Except ProtocolError (Mask 𝕜) :=
  match boundary.map with
  | none => .error ⟨"BOUNDARY_MAP_METADATA_INVALID", "导航边界缺少栅格地图尺寸、分辨率或原点"⟩
  | some map =>
    if map.width ≤ 0 ∨ map.height ≤ 0 ∨ map.resolution ≤ 0 ∨
        100000000 < map.width * map.height then
      .error ⟨"BOUNDARY_MAP_METADATA_INVALID", "导航边界栅格地图尺寸无效或过大"⟩
    else if localMap.any (fun here => mapMismatch here map) then
      .error ⟨"BOUNDARY_MAP_METADATA_MISMATCH",
        "云端边界所用地图与机器人当前栅格地图尺寸、分辨率或原点不一致"⟩
    else
      let width := map.width.toNat
      let height := map.height.toNat
      let cell := fun i => cellCentre (cos map.origin.2.2) (sin map.origin.2.2) map (i / width)
        (i % width)
      let cells := (List.range (width * height)).map
        (fun i => blocked boundary (cell i).1 (cell i).2)
      .ok
        { mapId := boundary.mapId
          revision := boundary.revision
          width := width
          height := height
          resolution := map.resolution
          origin := map.origin
          pixels := cells.map (fun b => if b then 0 else 255)
          occupiedCells := cells.count true }

end BoundaryFilterMask

end RoamerX
