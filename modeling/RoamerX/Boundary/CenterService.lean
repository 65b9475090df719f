import Mathlib
import RoamerX.Boundary.Manager
import RoamerX.Lib.Numerals

set_option autoImplicit false

/-! # The boundary at the center

The geometry of `navigation_boundary_service.py`. Its `point_in_polygon` takes a point within a
small tolerance of an edge to be inside. -/

namespace RoamerX

open scoped Numerals

namespace NavigationBoundaryService

variable {𝕜 : Type*} [Field 𝕜] [LinearOrder 𝕜]

open Polygon

/-- The three values of `_orientation`. -/
inductive Orientation
  | collinear | clockwise | counterclockwise
  deriving DecidableEq

def orientation (a b c : 𝕜 × 𝕜) : Orientation :=
  let value := (b.2 - a.2) * (c.1 - b.1) - (b.1 - a.1) * (c.2 - b.2)
  if |value| < 1 / 10 ^ 9 then .collinear
  else if 0 < value then .clockwise
  else .counterclockwise

def onSegment (a b c : 𝕜 × 𝕜) : Bool :=
  decide (min a.1 c.1 - 1 / 10 ^ 9 ≤ b.1) && decide (b.1 ≤ max a.1 c.1 + 1 / 10 ^ 9) &&
    decide (min a.2 c.2 - 1 / 10 ^ 9 ≤ b.2) && decide (b.2 ≤ max a.2 c.2 + 1 / 10 ^ 9)

/-- The test under which `point_in_polygon` returns early. -/
def touches (point previous current : 𝕜 × 𝕜) : Bool :=
  decide (orientation previous point current = .collinear) && onSegment previous point current

def pointInPolygon (point : 𝕜 × 𝕜) (polygon : List (𝕜 × 𝕜)) : Bool :=
  if polygon.length < 3 then false else scanAll (touches point) point.1 point.2 polygon

/-- The square of `point_to_segment_distance`. -/
def pointToSegmentDistance (point start stop : 𝕜 × 𝕜) : 𝕜 :=
  Polygon.pointToSegmentDistance point.1 point.2 start stop

/-- The square of `distance_to_polygon`. -/
def distanceToPolygon (point : 𝕜 × 𝕜) (polygon : List (𝕜 × 𝕜)) : WithTop 𝕜 :=
  minOverEdges (pointToSegmentDistance point) polygon

/-- `point_allowed_by_boundary`, on the payload that `map.boundary_apply` carries. -/
def pointAllowedByBoundary (point : 𝕜 × 𝕜) (payload : BoundaryCommand 𝕜) : Bool × String :=
  let outer := payload.outerPolygon
  let margin := max 0 payload.safetyMarginM
  if outer ≠ [] ∧ (!pointInPolygon point outer ||
      nearer (distanceToPolygon point outer) margin) = true then
    (false, "outside")
  else if payload.zones.any (fun zone => zone.active && decide (zone.zoneType = .forbidden) &&
      (pointInPolygon point zone.polygon ||
        nearer (distanceToPolygon point zone.polygon) margin)) then
    (false, "forbidden")
  else (true, "")

/-- Some edge of the polygon passes for the place of the point. -/
def TakenOnEdge (point : 𝕜 × 𝕜) (polygon : List (𝕜 × 𝕜)) : Prop :=
  ∃ e ∈ EvenOdd.edges polygon, touches point e.1 e.2 = true

theorem pointInPolygon_eq {point : 𝕜 × 𝕜} {polygon : List (𝕜 × 𝕜)}
    (h : ¬TakenOnEdge point polygon) :
    pointInPolygon point polygon = RoamerX.pointInPolygon point.1 point.2 polygon := by
  have hnone : (EvenOdd.edges polygon).any (fun e => touches point e.1 e.2) = false := by
    rw [List.any_eq_false]
    exact fun e he htouch => h ⟨e, he, htouch⟩
  unfold pointInPolygon RoamerX.pointInPolygon
  rw [scanAll_eq_or, hnone, Bool.false_or, scanAll_eq_inside]

end NavigationBoundaryService

end RoamerX
