import RoamerX.Lib.FarthestSplit
import RoamerX.Lib.PlaneTurns
import RoamerX.Protocol.Json
import Mathlib
import RoamerX.Lib.Numerals

set_option autoImplicit false

/-! # Straightening a route

`straighten_pass_through_waypoints` of `task_executor.py`. Clicks along a corridor are rarely on one line; those that
are nearly so are moved onto it, so that the robot does not weave. Arithmetic is exact, so the definitions are about
real numbers and not computable. -/

noncomputable section

namespace RoamerX

open scoped Numerals

namespace Straightening

/-- What a waypoint has for a coordinate: a number, or anything else with what `float` makes of it. -/
inductive Coordinate
  | number (value : ℝ)
  | other (value : Json) (float? : Option ℝ)

/-- A waypoint; `rest` are its members other than the coordinates. -/
structure Waypoint where
  x : Coordinate
  y : Coordinate
  rest : List (String × Json)

/-- `float(value)`, where it is finite. -/
def Coordinate.read : Coordinate → Option ℝ
  | .number value => some value
  | .other _ float? => float?

def waypointXy (waypoint : Waypoint) : Option (ℝ × ℝ) := do
  let x ← waypoint.x.read
  let y ← waypoint.y.read
  pure (x, y)

/-- `hypot(px - qx, py - qy)` -/
def gap (p q : ℝ × ℝ) : ℝ := Plane.radius (p.1 - q.1, p.2 - q.2)

/-- The point of `_segment_projection`. -/
def projection (p a b : ℝ × ℝ) : ℝ × ℝ :=
  let dx := b.1 - a.1
  let dy := b.2 - a.2
  let length2 := dx * dx + dy * dy
  if length2 < 1e-12 then a
  else
    let t := max 0 (min 1 (((p.1 - a.1) * dx + (p.2 - a.2) * dy) / length2))
    (a.1 + t * dx, a.2 + t * dy)

/-- `_segment_projection`: the distance and the point. -/
def segmentProjection (p a b : ℝ × ℝ) : ℝ × ℝ × ℝ := (gap p (projection p a b), projection p a b)

/-- How far a point is off a chord of the route. -/
def offChord (points : List (ℝ × ℝ)) (start stop index : ℕ) : ℝ :=
  (segmentProjection (points.getD index 0) (points.getD start 0) (points.getD stop 0)).1

/-- `keep` before the loop. -/
def keepEnds (count : ℕ) : List Bool := ((List.replicate count false).set 0 true).set (count - 1) true

def douglasPeuckerIndices (points : List (ℝ × ℝ)) (epsilon : ℝ) : List ℕ :=
  if points.length < 3 then List.range points.length
  else
    let keep := FarthestSplit.markSplits (offChord points) (-1) epsilon [(0, points.length - 1)]
      (keepEnds points.length)
    (List.range points.length).filter fun index => keep.getD index false

/-- `points`; `none` where a waypoint has no readable place. -/
def readPoints : List Waypoint → Option (List (ℝ × ℝ))
  | [] => some []
  | waypoint :: waypoints => do
    let xy ← waypointXy waypoint
    let points ← readPoints waypoints
    pure (xy :: points)

/-- A waypoint that is not kept, moved onto the chord between the kept ones around it. -/
def moved (points : List (ℝ × ℝ)) (kept : List ℕ) (waypoint : Waypoint) (index : ℕ) : Waypoint :=
  let prevKeep := ((kept.filter fun k => k ≤ index).max?).getD 0
  let nextKeep := ((kept.filter fun k => index ≤ k).min?).getD 0
  let q := (segmentProjection (points.getD index 0) (points.getD prevKeep 0) (points.getD nextKeep 0)).2
  { waypoint with
    x := .number q.1
    y := .number q.2 }

def straightenPassThroughWaypoints (waypoints : List Waypoint) (epsilon : ℝ) : List Waypoint :=
  if waypoints.length < 3 then waypoints
  else
    match readPoints waypoints with
    | none => waypoints
    | some points =>
      let kept := douglasPeuckerIndices points epsilon
      if kept.length = points.length then waypoints
      else waypoints.mapIdx fun index waypoint => if index ∈ kept then waypoint else moved points kept waypoint index

/-- The waypoints of the simplified route: all, where nothing is straightened. -/
def keptIndices (waypoints : List Waypoint) (epsilon : ℝ) : List ℕ :=
  match readPoints waypoints with
  | none => List.range waypoints.length
  | some points => douglasPeuckerIndices points epsilon

/-! ## Chords -/

variable {p a b : ℝ × ℝ}

theorem projection_mem_segment (p a b : ℝ × ℝ) : projection p a b ∈ segment ℝ a b := by
  unfold projection
  dsimp only
  split
  · exact left_mem_segment ℝ a b
  · -- the parameter is clamped to the segment
    have hlow := le_max_left (0 : ℝ) (min 1 (((p.1 - a.1) * (b.1 - a.1) + (p.2 - a.2) * (b.2 - a.2)) /
      ((b.1 - a.1) * (b.1 - a.1) + (b.2 - a.2) * (b.2 - a.2))))
    have hhigh := max_le zero_le_one (min_le_left (1 : ℝ) (((p.1 - a.1) * (b.1 - a.1) + (p.2 - a.2) * (b.2 - a.2)) /
      ((b.1 - a.1) * (b.1 - a.1) + (b.2 - a.2) * (b.2 - a.2))))
    refine ⟨1 - _, _, sub_nonneg.mpr hhigh, hlow, sub_add_cancel _ _, ?_⟩
    ext
    · simp only [Prod.fst_add, Prod.smul_fst, smul_eq_mul]
      ring
    · simp only [Prod.snd_add, Prod.smul_snd, smul_eq_mul]
      ring

/-! ## What is kept -/

variable {points : List (ℝ × ℝ)} {epsilon : ℝ} {index : ℕ} {waypoints : List Waypoint} {waypoint : Waypoint}

theorem length_keepEnds (count : ℕ) : (keepEnds count).length = count := by
  simp [keepEnds]

theorem getD_keepEnds {count : ℕ} (hindex : index < count) :
    (keepEnds count).getD index false = true ↔ index = 0 ∨ index = count - 1 := by
  unfold keepEnds
  rw [List.getD_eq_getElem?_getD, List.getElem?_set, List.getElem?_set]
  by_cases hlast : count - 1 = index
  · simp [hlast, hindex]
  · by_cases hfirst : 0 = index
    · subst hfirst
      simp [hlast, hindex]
    · simp [hlast, hfirst, Ne.symm hlast, Ne.symm hfirst, hindex]

def KeptPoint (points : List (ℝ × ℝ)) (epsilon : ℝ) (index : ℕ) : Prop :=
  FarthestSplit.Kept (offChord points) (-1) epsilon 0 (points.length - 1) index

theorem mem_douglasPeuckerIndices (hlength : ¬ points.length < 3) :
    index ∈ douglasPeuckerIndices points epsilon ↔ index < points.length ∧ KeptPoint points epsilon index := by
  unfold douglasPeuckerIndices
  rw [if_neg hlength]
  dsimp only
  rw [List.mem_filter, List.mem_range]
  refine and_congr_right fun hindex => ?_
  have hkeep : index < (keepEnds points.length).length := by rw [length_keepEnds]; exact hindex
  have hmarked := (@FarthestSplit.getD_markSplits _ _ (offChord points) (-1) epsilon _
    [(0, points.length - 1)] (keepEnds points.length) hkeep).1
  rw [hmarked, getD_keepEnds hindex, KeptPoint, FarthestSplit.Kept, or_assoc]
  simp only [List.mem_singleton, exists_eq_left]

theorem keptPoint_lt (hlength : ¬ points.length < 3) (h : KeptPoint points epsilon index) : index < points.length := by
  rcases h with rfl | rfl | h
  · omega
  · omega
  · have hlt := (FarthestSplit.mem_splits h).2
    omega

/-! ## Moved waypoints -/

theorem moved_eq {kept : List ℕ} {left right : ℕ} (hleft : left ∈ kept) (hright : right ∈ kept) (hl : left < index)
    (hr : index < right) (hnext : ∀ k, left < k → k < right → k ∉ kept) :
    moved points kept waypoint index =
      { waypoint with
        x := .number (projection (points.getD index 0) (points.getD left 0) (points.getD right 0)).1
        y := .number (projection (points.getD index 0) (points.getD left 0) (points.getD right 0)).2 } := by
  have hprev : (kept.filter fun k => decide (k ≤ index)).max? = some left := by
    refine List.max?_eq_some_iff.mpr ⟨List.mem_filter.mpr ⟨hleft, decide_eq_true hl.le⟩, fun k hk => ?_⟩
    obtain ⟨hk, hle⟩ := List.mem_filter.mp hk
    have hle := of_decide_eq_true hle
    by_contra hgt
    exact hnext k (not_le.mp hgt) (hle.trans_lt hr) hk
  have hafter : (kept.filter fun k => decide (index ≤ k)).min? = some right := by
    refine List.min?_eq_some_iff.mpr ⟨List.mem_filter.mpr ⟨hright, decide_eq_true hr.le⟩, fun k hk => ?_⟩
    obtain ⟨hk, hle⟩ := List.mem_filter.mp hk
    have hle := of_decide_eq_true hle
    by_contra hlt
    exact hnext k (hl.trans_le hle) (not_le.mp hlt) hk
  unfold moved
  rw [hprev, hafter]
  rfl

/-! ## Reading -/

theorem getElem?_readPoints (h : readPoints waypoints = some points) :
    points.length = waypoints.length ∧ ∀ index : ℕ, points[index]? = waypoints[index]?.bind waypointXy := by
  induction waypoints generalizing points with
  | nil =>
    cases h
    exact ⟨rfl, fun _ => rfl⟩
  | cons waypoint waypoints ih =>
    simp only [readPoints, Option.bind_eq_bind, Option.bind_eq_some_iff] at h
    obtain ⟨xy, hxy, rest, hrest, h⟩ := h
    cases h
    obtain ⟨hlength, hget⟩ := ih hrest
    refine ⟨congrArg (· + 1) hlength, fun index => ?_⟩
    cases index with
    | zero => exact hxy.symm
    | succ index => exact hget index

/-! ## The straightened route -/

/-- The place of a waypoint of the route. -/
def placeOf (waypoints : List Waypoint) (index : ℕ) : Option (ℝ × ℝ) := waypoints[index]?.bind waypointXy

/-- A waypoint was moved onto the simplified route, near to where it was. -/
structure OnSimplified (waypoints : List Waypoint) (epsilon : ℝ) (index : ℕ) (old new : ℝ × ℝ) : Prop where
  near : gap old new ≤ epsilon
  segment : ∃ left right a b, left < index ∧ index < right ∧ left ∈ keptIndices waypoints epsilon ∧
    right ∈ keptIndices waypoints epsilon ∧ (∀ k, left < k → k < right → k ∉ keptIndices waypoints epsilon) ∧
    placeOf waypoints left = some a ∧ placeOf waypoints right = some b ∧ new ∈ segment ℝ a b

/-- What a straightened route has of the route. -/
structure Straightened (waypoints : List Waypoint) (epsilon : ℝ) (result : List Waypoint) : Prop where
  length : result.length = waypoints.length
  /-- The first and the last waypoint are kept. -/
  ends : waypoints ≠ [] → 0 ∈ keptIndices waypoints epsilon ∧ waypoints.length - 1 ∈ keptIndices waypoints epsilon
  kept : ∀ index ∈ keptIndices waypoints epsilon, result[index]? = waypoints[index]?
  rest : result.map Waypoint.rest = waypoints.map Waypoint.rest
  moved : ∀ index w w', waypoints[index]? = some w → result[index]? = some w' → w' = w ∨
    ∃ old new, waypointXy w = some old ∧ waypointXy w' = some new ∧ OnSimplified waypoints epsilon index old new

theorem Straightened.same (hends : waypoints ≠ [] → 0 ∈ keptIndices waypoints epsilon ∧
    waypoints.length - 1 ∈ keptIndices waypoints epsilon) : Straightened waypoints epsilon waypoints where
  length := rfl
  ends := hends
  kept _ _ := rfl
  rest := rfl
  moved _ _ _ hw hw' := Or.inl (Option.some.inj (hw'.symm.trans hw))

theorem ends_range {count : ℕ} (h : 0 < count) : 0 ∈ List.range count ∧ count - 1 ∈ List.range count :=
  ⟨List.mem_range.mpr h, List.mem_range.mpr (Nat.sub_lt h one_pos)⟩

theorem ends_kept (epsilon : ℝ) (hne : waypoints ≠ []) :
    0 ∈ keptIndices waypoints epsilon ∧ waypoints.length - 1 ∈ keptIndices waypoints epsilon := by
  have hpos := List.length_pos_iff.mpr hne
  unfold keptIndices
  cases hread : readPoints waypoints with
  | none => exact ends_range hpos
  | some points =>
    have hlength := (getElem?_readPoints hread).1
    dsimp only
    rw [← hlength] at hpos ⊢
    by_cases hshort : points.length < 3
    · rw [douglasPeuckerIndices, if_pos hshort]
      exact ends_range hpos
    · rw [mem_douglasPeuckerIndices hshort, mem_douglasPeuckerIndices hshort]
      exact ⟨⟨hpos, Or.inl rfl⟩, Nat.sub_lt hpos one_pos, Or.inr (Or.inl rfl)⟩

theorem getD_points {w : Waypoint} (hread : readPoints waypoints = some points) (hw : waypoints[index]? = some w) :
    waypointXy w = some (points.getD index 0) := by
  obtain ⟨hlength, hget⟩ := getElem?_readPoints hread
  have hindex : index < points.length := by
    rw [hlength]
    exact (List.getElem?_eq_some_iff.mp hw).1
  have hpoint := hget index
  rw [hw, Option.bind_some, List.getElem?_eq_getElem hindex] at hpoint
  rw [List.getD_eq_getElem _ _ hindex]
  exact hpoint.symm

theorem placeOf_eq (hread : readPoints waypoints = some points) (hindex : index < points.length) :
    placeOf waypoints index = some (points.getD index 0) := by
  rw [placeOf, ← (getElem?_readPoints hread).2, List.getElem?_eq_getElem hindex, List.getD_eq_getElem _ _ hindex]

theorem moved_onSimplified {w : Waypoint} (hepsilon : 0 ≤ epsilon) (hread : readPoints waypoints = some points)
    (hlong : ¬ points.length < 3) (hw : waypoints[index]? = some w)
    (hdropped : index ∉ douglasPeuckerIndices points epsilon) :
    ∃ old new, waypointXy w = some old ∧
      waypointXy (moved points (douglasPeuckerIndices points epsilon) w index) = some new ∧
      OnSimplified waypoints epsilon index old new := by
  have hkept : keptIndices waypoints epsilon = douglasPeuckerIndices points epsilon := by
    unfold keptIndices
    rw [hread]
  have hindex : index < points.length := by
    rw [(getElem?_readPoints hread).1]
    exact (List.getElem?_eq_some_iff.mp hw).1
  rw [mem_douglasPeuckerIndices hlong] at hdropped
  obtain ⟨hfirst, hlast, hsplit⟩ : index ≠ 0 ∧ index ≠ points.length - 1 ∧
      index ∉ FarthestSplit.splits (offChord points) (-1) epsilon 0 (points.length - 1) :=
    ⟨fun h => hdropped ⟨hindex, Or.inl h⟩, fun h => hdropped ⟨hindex, Or.inr (Or.inl h)⟩,
      fun h => hdropped ⟨hindex, Or.inr (Or.inr h)⟩⟩
  have hlow : (-1 : ℝ) ≤ epsilon := by linarith
  obtain ⟨left, right, hl, hr, hchord⟩ :=
    FarthestSplit.exists_chord hlow (Nat.pos_of_ne_zero hfirst) (by omega) hsplit
  have hltleft := keptPoint_lt hlong hchord.left_kept
  have hltright := keptPoint_lt hlong hchord.right_kept
  have hleft := (mem_douglasPeuckerIndices hlong).mpr ⟨hltleft, hchord.left_kept⟩
  have hright := (mem_douglasPeuckerIndices hlong).mpr ⟨hltright, hchord.right_kept⟩
  have hnext : ∀ k, left < k → k < right → k ∉ douglasPeuckerIndices points epsilon :=
    fun k hk hk' hmem => hchord.next k hk hk' ((mem_douglasPeuckerIndices hlong).mp hmem).2
  rw [moved_eq hleft hright hl hr hnext]
  refine ⟨_, projection (points.getD index 0) (points.getD left 0) (points.getD right 0), getD_points hread hw, rfl,
    hchord.near index hl hr, left, right, _, _, hl, hr, ?_, ?_, ?_, placeOf_eq hread hltleft,
    placeOf_eq hread hltright, projection_mem_segment _ _ _⟩
  · rw [hkept]
    exact hleft
  · rw [hkept]
    exact hright
  · rw [hkept]
    exact hnext

/-- **Straightening keeps the ends and what is off the line, and moves the rest onto it, by no more than the
tolerance.** -/
theorem straightened (waypoints : List Waypoint) (hepsilon : 0 ≤ epsilon) :
    Straightened waypoints epsilon (straightenPassThroughWaypoints waypoints epsilon) := by
  have hsame : Straightened waypoints epsilon waypoints := Straightened.same (ends_kept epsilon)
  unfold straightenPassThroughWaypoints
  split
  · exact hsame
  next hshort =>
  split
  · exact hsame
  next points hread =>
  dsimp only
  split
  · exact hsame
  obtain ⟨hlength, hget⟩ := getElem?_readPoints hread
  have hkept : keptIndices waypoints epsilon = douglasPeuckerIndices points epsilon := by
    unfold keptIndices
    rw [hread]
  have hlong : ¬ points.length < 3 := by rw [hlength]; exact hshort
  refine ⟨List.length_mapIdx, ends_kept epsilon, fun index hindex => ?_, ?_, ?_⟩
  · rw [hkept] at hindex
    rw [List.getElem?_mapIdx]
    cases waypoints[index]? with
    | none => rfl
    | some w => exact congrArg some (if_pos hindex)
  · refine List.ext_getElem? fun index => ?_
    rw [List.getElem?_map, List.getElem?_map, List.getElem?_mapIdx]
    cases waypoints[index]? with
    | none => rfl
    | some w =>
      simp only [Option.map_some]
      split
      · rfl
      · rfl
  · intro index w w' hw hw'
    rw [List.getElem?_mapIdx, hw, Option.map_some, Option.some.injEq] at hw'
    by_cases hmem : index ∈ douglasPeuckerIndices points epsilon
    · rw [if_pos hmem] at hw'
      exact Or.inl hw'.symm
    · rw [if_neg hmem] at hw'
      rw [← hw']
      exact Or.inr (moved_onSimplified hepsilon hread hlong hw hmem)

/-! ## One waypoint a goal -/

/-- `_batch_end_index`, for a segment that ends at `segmentEnd`. -/
def batchEndIndex (startIndex segmentEnd total : ℕ) : ℕ := min (startIndex + 1) (min segmentEnd total)

/-- The goal for a waypoint, as `_dispatch_navigation` makes it. -/
def batch (waypoints : List Waypoint) (startIndex segmentEnd : ℕ) : List Waypoint :=
  (waypoints.take (batchEndIndex startIndex segmentEnd waypoints.length)).drop startIndex

theorem straighten_batch (waypoints : List Waypoint) (startIndex segmentEnd : ℕ) (epsilon : ℝ) :
    straightenPassThroughWaypoints (batch waypoints startIndex segmentEnd) epsilon =
      batch waypoints startIndex segmentEnd := by
  have hlength : (batch waypoints startIndex segmentEnd).length < 3 := by
    unfold batch batchEndIndex
    rw [List.length_drop, List.length_take]
    omega
  unfold straightenPassThroughWaypoints
  rw [if_pos hlength]

/-! ## A stop between two clicks of a corridor -/

def click (x y : ℝ) (arrivalPolicy : String) : Waypoint :=
  ⟨.number x, .number y, [("arrival_policy", .str arrivalPolicy)]⟩

/-- Three clicks, of which the middle one is a stop a quarter of a metre off the line. -/
def corridor : List Waypoint :=
  [click 0 0 "pass_through", click 10 (1 / 4) "stop_and_confirm", click 20 0 "pass_through"]

theorem straightened_corridor :
    Straightened corridor (2 / 5) (straightenPassThroughWaypoints corridor (2 / 5)) :=
  straightened corridor (by norm_num)

theorem projection_corridor : projection (10, 1 / 4) (0, 0) (20, 0) = (10, 0) := by
  norm_num [projection]

theorem split?_corridor :
    FarthestSplit.split? (offChord [(0, 0), (10, 1 / 4), (20, 0)]) (-1) (2 / 5 : ℝ) 0 2 = none := by
  have hdistance : offChord [(0, 0), (10, 1 / 4), (20, 0)] 0 2 1 = 1 / 4 := by
    change gap (10, 1 / 4) (projection (10, 1 / 4) (0, 0) (20, 0)) = 1 / 4
    rw [projection_corridor]
    have hsquare : (10 - 10 : ℝ) ^ 2 + (1 / 4 - 0) ^ 2 = (1 / 4) ^ 2 := by norm_num
    unfold gap Plane.radius
    rw [hsquare]
    exact Real.sqrt_sq (by norm_num)
  have hfound : FarthestSplit.farthest (offChord [(0, 0), (10, 1 / 4), (20, 0)] 0 2) (-1) 0 2 = (some 1, 1 / 4) := by
    have hscan : FarthestSplit.farthest (offChord [(0, 0), (10, 1 / 4), (20, 0)] 0 2) (-1) 0 2 =
        if (-1 : ℝ) < offChord [(0, 0), (10, 1 / 4), (20, 0)] 0 2 1 then
          (some 1, offChord [(0, 0), (10, 1 / 4), (20, 0)] 0 2 1) else (none, -1) := rfl
    rw [hscan, hdistance, if_pos (by norm_num)]
  unfold FarthestSplit.split?
  rw [hfound]
  exact if_neg (by norm_num)

theorem keptIndices_corridor :
    douglasPeuckerIndices [(0, 0), (10, 1 / 4), (20, 0)] (2 / 5) = [0, 2] := by
  have hmarks : FarthestSplit.markSplits (offChord [(0, 0), (10, 1 / 4), (20, 0)]) (-1) (2 / 5 : ℝ) [(0, 2)]
      (keepEnds 3) = [true, false, true] := by
    rw [FarthestSplit.markSplits]
    split
    · next found hfound => exact absurd (split?_corridor.symm.trans hfound) (Option.some_ne_none found).symm
    · rw [FarthestSplit.markSplits]
      rfl
  unfold douglasPeuckerIndices
  rw [if_neg (by decide)]
  change (List.range 3).filter (fun index => (FarthestSplit.markSplits _ _ _ [(0, 2)] (keepEnds 3)).getD index false) =
    [0, 2]
  rw [hmarks]
  rfl

/-- The stop is moved: the flags of the waypoints are not looked at. -/
theorem stop_moved : corridor[1]? = some (click 10 (1 / 4) "stop_and_confirm") ∧
    Json.get? (click 10 (1 / 4) "stop_and_confirm").rest "arrival_policy" = some (.str "stop_and_confirm") ∧
    (straightenPassThroughWaypoints corridor (2 / 5))[1]? = some (click 10 0 "stop_and_confirm") ∧
    click 10 0 "stop_and_confirm" ≠ click 10 (1 / 4) "stop_and_confirm" := by
  refine ⟨rfl, rfl, ?_, fun h => ?_⟩
  · have hread : readPoints corridor = some [(0, 0), (10, 1 / 4), (20, 0)] := rfl
    unfold straightenPassThroughWaypoints
    rw [if_neg (by decide), hread]
    dsimp only
    rw [keptIndices_corridor, if_neg (by decide), List.getElem?_mapIdx]
    change some (if 1 ∈ [0, 2] then click 10 (1 / 4) "stop_and_confirm" else
      moved [(0, 0), (10, 1 / 4), (20, 0)] [0, 2] (click 10 (1 / 4) "stop_and_confirm") 1) = _
    have hnext : ∀ k, 0 < k → k < 2 → k ∉ [0, 2] := by
      intro k hk hk' hmem
      simp only [List.mem_cons, List.not_mem_nil, or_false] at hmem
      omega
    have hfirst : 0 ∈ [0, 2] := by decide
    have hlast : 2 ∈ [0, 2] := by decide
    rw [if_neg (by decide), moved_eq hfirst hlast (by decide) (by decide) hnext]
    change some (⟨.number (projection (10, 1 / 4) (0, 0) (20, 0)).1, .number (projection (10, 1 / 4) (0, 0) (20, 0)).2,
      _⟩ : Waypoint) = _
    rw [projection_corridor]
    rfl
  · have hy : (0 : ℝ) = 1 / 4 := Coordinate.number.inj (congrArg Waypoint.y h)
    norm_num at hy

end Straightening

end RoamerX

end
