import RoamerX.Lib.EvenOdd
import Mathlib.Algebra.Order.Floor.Ring
import Mathlib.Data.Nat.Sqrt
import Mathlib.Order.WithBot

set_option autoImplicit false

/-! # The geometry of the boundary checks

`navigation_boundary.py` and `boundary_filter_mask.py` on the Edge and
`navigation_boundary_service.py` at the center each have a copy of the same helpers. Coordinates
are elements of an ordered field; `math.hypot` is represented by its square, which a comparison
with a nonnegative margin cannot tell apart. -/

namespace RoamerX

namespace Polygon

variable {𝕜 : Type*} [Field 𝕜] [LinearOrder 𝕜]

/-! ## The loop over the edges -/

/-- `(yj - yi) or 1e-12`. -/
def orTiny (d : 𝕜) : 𝕜 := if d = 0 then 1 / 10 ^ 12 else d

/-- The condition under which the loop flips `inside`. -/
def flips (x y : 𝕜) (previous current : 𝕜 × 𝕜) : Bool :=
  (decide (y < current.2) ^^ decide (y < previous.2)) &&
    decide (x < (previous.1 - current.1) * (y - current.2) / orTiny (previous.2 - current.2) +
      current.1)

/-- The loop itself. The copy of the center returns early from an edge it `touches`. -/
@[simp] def scan (touches : 𝕜 × 𝕜 → 𝕜 × 𝕜 → Bool) (x y : 𝕜) (previous : 𝕜 × 𝕜) (inside : Bool) :
    List (𝕜 × 𝕜) → Bool
  | [] => inside
  | current :: rest =>
    if touches previous current then true
    else
      scan touches x y current (if flips x y previous current then !inside else inside) rest

/-- The loop from its start, with `previous = len(polygon) - 1`. -/
def scanAll (touches : 𝕜 × 𝕜 → 𝕜 × 𝕜 → Bool) (x y : 𝕜) (polygon : List (𝕜 × 𝕜)) : Bool :=
  match polygon.getLast? with
  | none => false
  | some last => scan touches x y last false polygon

/-! ## Distances -/

/-- The square of `math.hypot(dx, dy)`. -/
def hypotSq (dx dy : 𝕜) : 𝕜 := dx * dx + dy * dy

/-- The parameter of the point of the segment that is nearest to `(x, y)`. -/
def nearestRatio (x y : 𝕜) (start stop : 𝕜 × 𝕜) : 𝕜 :=
  max 0 (min 1 (((x - start.1) * (stop.1 - start.1) + (y - start.2) * (stop.2 - start.2)) /
    hypotSq (stop.1 - start.1) (stop.2 - start.2)))

/-- The square of `_point_to_segment_distance`. -/
def pointToSegmentDistance (x y : 𝕜) (start stop : 𝕜 × 𝕜) : 𝕜 :=
  if hypotSq (stop.1 - start.1) (stop.2 - start.2) ≤ 1 / 10 ^ 18 then
    hypotSq (x - start.1) (y - start.2)
  else
    hypotSq (x - (start.1 + nearestRatio x y start stop * (stop.1 - start.1)))
      (y - (start.2 + nearestRatio x y start stop * (stop.2 - start.2)))

/-- `min` over the edges `(polygon[i], polygon[(i + 1) % len(polygon)])`; `math.inf` for fewer than
    two points. -/
def minOverEdges (distance : 𝕜 × 𝕜 → 𝕜 × 𝕜 → 𝕜) (polygon : List (𝕜 × 𝕜)) : WithTop 𝕜 :=
  if polygon.length < 2 then ⊤
  else
    ((polygon.zip (polygon.rotate 1)).map (fun e => (distance e.1 e.2 : WithTop 𝕜))).foldr min ⊤

/-- The square of `_distance_to_polygon`. -/
def distanceToPolygon (x y : 𝕜) (polygon : List (𝕜 × 𝕜)) : WithTop 𝕜 :=
  minOverEdges (pointToSegmentDistance x y) polygon

/-- `distance < margin`, from the square of the distance. -/
def nearer (distance : WithTop 𝕜) (margin : 𝕜) : Bool :=
  decide (distance < ((margin * margin : 𝕜) : WithTop 𝕜))

/-- `distance <= limit`, from the square of the distance. -/
def within (distance : WithTop 𝕜) (limit : 𝕜) : Bool :=
  decide (distance ≤ ((limit * limit : 𝕜) : WithTop 𝕜))

/-! ## The loop is the even-odd rule -/

theorem flips_eq_hit (x y : 𝕜) (previous current : 𝕜 × 𝕜) :
    flips x y previous current = EvenOdd.hit (x, y) (previous, current) := by
  have htiny : (decide (y < current.2) ^^ decide (y < previous.2)) = true →
      orTiny (previous.2 - current.2) = previous.2 - current.2 := by
    intro h
    refine if_neg fun h0 => ?_
    rw [sub_eq_zero.1 h0, Bool.xor_self] at h
    exact absurd h (by simp)
  cases hs : decide (y < current.2) ^^ decide (y < previous.2) with
  | false => simp only [flips, EvenOdd.hit, hs, Bool.xor_comm (decide (y < previous.2)),
      Bool.false_and]
  | true => simp only [flips, EvenOdd.hit, hs, htiny hs, Bool.xor_comm (decide (y < previous.2)),
      Bool.true_and]

theorem scan_cons {touches : 𝕜 × 𝕜 → 𝕜 × 𝕜 → Bool} {x y : 𝕜} {previous current : 𝕜 × 𝕜}
    (h : touches previous current = false) {inside : Bool} {rest : List (𝕜 × 𝕜)} :
    scan touches x y previous inside (current :: rest) =
      scan touches x y current (if flips x y previous current then !inside else inside) rest := by
  rw [scan, if_neg (by simp [h])]

theorem scan_eq_oddly (x y : 𝕜) (polygon : List (𝕜 × 𝕜)) (previous : 𝕜 × 𝕜) (inside : Bool) :
    scan (fun _ _ => false) x y previous inside polygon =
      (inside ^^ EvenOdd.oddly (EvenOdd.hit (x, y)) ((previous :: polygon).zip polygon)) := by
  induction polygon generalizing previous inside with
  | nil => simp [scan]
  | cons current rest ih =>
    rw [List.zip_cons_cons, EvenOdd.oddly_cons, scan_cons rfl, ih, ← flips_eq_hit]
    cases flips x y previous current <;> simp

theorem scanAll_eq_inside (x y : 𝕜) (polygon : List (𝕜 × 𝕜)) :
    scanAll (fun _ _ => false) x y polygon = EvenOdd.inside polygon (x, y) := by
  simp only [scanAll, EvenOdd.inside, EvenOdd.edges]
  cases polygon.getLast? with
  | none => rfl
  | some last => simp [scan_eq_oddly]

theorem scan_eq_or (touches : 𝕜 × 𝕜 → 𝕜 × 𝕜 → Bool) (x y : 𝕜) (polygon : List (𝕜 × 𝕜))
    (previous : 𝕜 × 𝕜) (inside : Bool) :
    scan touches x y previous inside polygon =
      (((previous :: polygon).zip polygon).any (fun e => touches e.1 e.2) ||
        scan (fun _ _ => false) x y previous inside polygon) := by
  induction polygon generalizing previous inside with
  | nil => simp [scan]
  | cons current rest ih =>
    rw [List.zip_cons_cons, List.any_cons]
    cases ht : touches previous current with
    | true => rw [scan, if_pos ht, Bool.true_or, Bool.true_or]
    | false => rw [scan_cons ht, ih, scan_cons rfl, Bool.false_or]

theorem scanAll_eq_or (touches : 𝕜 × 𝕜 → 𝕜 × 𝕜 → Bool) (x y : 𝕜) (polygon : List (𝕜 × 𝕜)) :
    scanAll touches x y polygon =
      ((EvenOdd.edges polygon).any (fun e => touches e.1 e.2) || EvenOdd.inside polygon (x, y)) := by
  rw [← scanAll_eq_inside]
  simp only [scanAll, EvenOdd.edges]
  cases polygon.getLast? with
  | none => rfl
  | some last => exact scan_eq_or touches x y polygon last false

theorem inside_of_length_lt [IsStrictOrderedRing 𝕜] (polygon : List (𝕜 × 𝕜)) (h : polygon.length < 3) (p : 𝕜 × 𝕜) :
    EvenOdd.inside polygon p = false := by
  match polygon with
  | [] => rfl
  | [a] => simp [EvenOdd.inside, EvenOdd.edges, EvenOdd.hit]
  | [a, b] =>
    have hswap := EvenOdd.hit_swap p a b
    simp [EvenOdd.inside, EvenOdd.edges, hswap]

end Polygon

end RoamerX
