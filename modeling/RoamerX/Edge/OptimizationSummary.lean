import RoamerX.Center.LoopDistance
import RoamerX.Lib.Excepts
import RoamerX.Lib.Floats
import RoamerX.Lib.Keyed
import RoamerX.Protocol.Json
import Mathlib.Data.List.Sort

set_option autoImplicit false

/-! # The verdict on an optimised trajectory

`build_optimization_summary` of `map_optimization_summary.py`: the corrections of the keyframes that both trajectories
have are measured, and the optimised trajectory is accepted only within the limits. -/

namespace RoamerX

namespace OptimizationSummary

open Floats

inductive MappingType
  | indoor
  | outdoor
  deriving DecidableEq

/-- The functions of `math`; a quarter of the arguments of `atan2` are infinite, and it is not said here what it gives
for them. -/
structure Maths where
  hypot : ℚ → ℚ → ℚ
  sin : ℚ → ℚ
  cos : ℚ → ℚ
  atan2 : ℚ → ℚ → ℚ
  atan2Infinite : Number → Number → Number
  degrees : ℚ → ℚ
  radians : ℚ → ℚ

/-- `float` and `int` of a text and of a JSON value; `none` is an exception. -/
structure Conversions where
  floatText : String → Option Number
  intText : String → Option ℤ
  float? : Json → Option Number
  int? : Json → Option ℤ

/-- A row of a CSV file with the names of its fields. -/
abbrev Row := List (String × String)

structure Pose where
  x : Number
  y : Number
  z : Number
  yaw : Number
  stamp : Option ℚ

abbrev Trajectory := List (ℤ × Pose)

/-- The files of the map directory that are read; a file that is missing or unreadable is empty. -/
structure Files where
  raw : List Row
  optimized : List Row
  covariance : List (String × Json)
  loops : List Row

variable (maths : Maths) (conversions : Conversions)

/-! ## The functions of `math` -/

def hypot (a b : Number) : Number :=
  match a, b with
  | .infinite _, _ | _, .infinite _ => .infinite false
  | .finite p, .finite q => .finite (maths.hypot p q)
  | _, _ => .nan

def atan2 (y x : Number) : Number :=
  match y, x with
  | .finite p, .finite q => .finite (maths.atan2 p q)
  | .nan, _ | _, .nan => .nan
  | y, x => maths.atan2Infinite y x

def normalizeAngle : Number → Except String Number
  | .finite q => .ok (.finite (maths.atan2 (maths.sin q) (maths.cos q)))
  | .nan => .ok .nan
  | .infinite _ => .error "ValueError"

/-- `round(value, digits)` -/
def roundTo (digits : ℕ) (q : ℚ) : ℚ := roundHalfEven (q * 10 ^ digits) / 10 ^ digits

def rounded (digits : ℕ) : Number → Number := Number.map (roundTo digits)

/-! ## The trajectories -/

/-- `row.get(a) or row.get(b)` -/
def field (row : Row) (names : List String) : Option String :=
  names.findSome? fun name => (row.lookup name).filter (· ≠ "")

def floatField (row : Row) (names : List String) (default : ℚ) : Option Number :=
  match field row names with
  | some text => conversions.floatText text
  | none => some (.finite default)

def finiteNumber : Option Number → Option ℚ
  | some (.finite q) => some q
  | _ => none

def quaternionYaw (x y z w : Number) : Number :=
  atan2 maths ((Number.finite 2).mul ((w.mul z).add (x.mul y)))
    ((Number.finite 1).sub ((Number.finite 2).mul ((y.mul y).add (z.mul z))))

/-- The index and the pose of a row, if its fields can be read. -/
def readPose (row : Row) (count : ℕ) : Option (ℤ × Pose) := do
  let index ← match field row ["index"] with
    | some text => conversions.intText text
    | none => some count
  let qx ← floatField conversions row ["world_qx", "qx"] 0
  let qy ← floatField conversions row ["world_qy", "qy"] 0
  let qz ← floatField conversions row ["world_qz", "qz"] 0
  let qw ← floatField conversions row ["world_qw", "qw"] 1
  let x ← floatField conversions row ["world_x", "x"] 0
  let y ← floatField conversions row ["world_y", "y"] 0
  let z ← floatField conversions row ["world_z", "z"] 0
  let stamp := finiteNumber ((field row ["timestamp", "stamp"]).bind conversions.floatText)
  return (index, { x, y, z, yaw := quaternionYaw maths qx qy qz qw, stamp })

def loadTrajectory (rows : List Row) : Trajectory :=
  rows.foldl (fun result row =>
    match readPose maths conversions row result.length with
    | some entry => Keyed.put Prod.fst (fun _ new => new) result entry
    | none => result) []

def Trajectory.pose (trajectory : Trajectory) (index : ℤ) : Option Pose :=
  (Keyed.get Prod.fst index trajectory).map Prod.snd

/-! ## The corrections -/

/-- The rounded `delta` of a keyframe, with its stamp. -/
structure Correction where
  index : ℤ
  stamp : Option ℚ
  x : Number
  y : Number
  z : Number
  positionM : Number
  yawDeg : Number

def correction (index : ℤ) (before after : Pose) : Except String Correction := do
  let dx := after.x.sub before.x
  let dy := after.y.sub before.y
  let dz := after.z.sub before.z
  let yawDelta ← normalizeAngle maths (after.yaw.sub before.yaw)
  return {
    index
    stamp := after.stamp.or before.stamp
    x := rounded 5 dx
    y := rounded 5 dy
    z := rounded 5 dz
    positionM := rounded 5 (hypot maths dx dy)
    yawDeg := rounded 4 (yawDelta.map maths.degrees) }

/-- `sorted(set(raw).intersection(optimized))` -/
def commonIndexes (raw optimized : Trajectory) : List ℤ :=
  (((raw.map Prod.fst).dedup).filter fun index => (optimized.pose index).isSome).mergeSort fun a b => decide (a ≤ b)

def correctionAt (raw optimized : Trajectory) (index : ℤ) : Except String Correction :=
  match raw.pose index, optimized.pose index with
  | some before, some after => correction maths index before after
  | _, _ => .error "KeyError"

def corrections (raw optimized : Trajectory) : Except String (List Correction) :=
  (commonIndexes raw optimized).mapM (correctionAt maths raw optimized)

/-- How the correction changes from one keyframe to the next. -/
structure Step where
  xyStep : Number
  rate : Option Number

def step (previous current : Correction) : Step :=
  let xyStep := hypot maths (current.x.sub previous.x) (current.y.sub previous.y)
  let deltaT := (previous.stamp.bind fun a => current.stamp.map fun b => b - a).filter fun deltaT => decide (0 < deltaT)
  { xyStep := rounded 5 xyStep
    rate := deltaT.map fun deltaT => rounded 5 (xyStep.map (· / deltaT)) }

/-- `adjacent_yaw_values` -/
def yawStep (previous current : Correction) : Except String Number := do
  let step ← normalizeAngle maths ((current.yawDeg.sub previous.yawDeg).map maths.radians)
  return (step.map maths.degrees).abs

/-! ## The limits -/

structure Limits where
  lioCoverage : ℚ
  imuCoverage : ℚ
  xyCorrectionM : ℚ
  absZCorrectionM : ℚ
  yawCorrectionDeg : ℚ
  adjacentXyStepM : ℚ
  adjacentXyRateMps : ℚ
  adjacentYawStepDeg : ℚ

/-- `inertial_limits` -/
def limits (outdoorRtk : Bool) : Limits where
  lioCoverage := 95 / 100
  imuCoverage := 80 / 100
  xyCorrectionM := if outdoorRtk then 25 else 1 / 2
  absZCorrectionM := if outdoorRtk then 3 / 2 else 6 / 10
  yawCorrectionDeg := if outdoorRtk then 15 else 3
  adjacentXyStepM := if outdoorRtk then 1 / 2 else 15 / 100
  adjacentXyRateMps := if outdoorRtk then 1 else 35 / 100
  adjacentYawStepDeg := if outdoorRtk then 10 else 1

structure Factors where
  total : ℤ
  lioBetween : ℤ
  imu : ℤ
  rtkPosition : ℤ
  rtkHeading : ℤ
  loopClosure : ℤ

def intOf (value : Json) : Except String ℤ :=
  match conversions.int? value with
  | some n => .ok n
  | none => .error "TypeError or ValueError"

/-- `int(covariance.get(key) or 0)` -/
def count (covariance : List (String × Json)) (key : String) : Except String ℤ :=
  intOf conversions (Json.getOr covariance key (.num (.int 0)))

def factors (covariance : List (String × Json)) : Except String Factors := do
  let legacyNdt ← count conversions covariance "ndt_factor_count"
  let lioBetween ← match (Json.get? covariance "lio_between_factor_count").filter fun value => !value.isNull with
    | some value => intOf conversions value
    | none => .ok legacyNdt
  return {
    total := ← count conversions covariance "factor_count"
    lioBetween
    imu := ← count conversions covariance "imu_factor_count"
    rtkPosition := ← count conversions covariance "rtk_position_factor_count"
    rtkHeading := ← count conversions covariance "rtk_heading_factor_count"
    loopClosure := ← count conversions covariance "loop_closure_factor_count" }

def coverage (count : ℤ) (keyframes : ℕ) : ℚ :=
  let expected := keyframes - 1
  if expected = 0 then 1 else min 1 (count / expected)

structure Measurements where
  lioCoverage : ℚ
  imuCoverage : ℚ
  xyCorrectionM : Number
  absZCorrectionM : Number
  yawCorrectionDeg : Number
  adjacentXyStepM : Number
  adjacentXyRateMps : Number
  adjacentYawStepDeg : Number
  graphErrorNonIncreasing : Option Bool

/-- `round(max(values, default=0.0), 5)` -/
def worst (values : List Number) : Number := rounded 5 (Number.maximum (.finite 0) values)

def graphErrorNonIncreasing (before after : Option ℚ) : Option Bool :=
  match before, after with
  | some before, some after => some (decide (after ≤ before + max (1 / 10 ^ 6) (|before| * (1 / 10 ^ 6))))
  | _, _ => none

/-- `inertial_measurements` -/
def measure (factors : Factors) (errorBefore errorAfter : Option ℚ) (corrections : List Correction)
    (yawSteps : List Number) : Measurements :=
  let steps := (corrections.zip corrections.tail).map fun pair => step maths pair.1 pair.2
  { lioCoverage := roundTo 4 (coverage factors.lioBetween corrections.length)
    imuCoverage := roundTo 4 (coverage factors.imu corrections.length)
    xyCorrectionM := worst (corrections.map (·.positionM))
    absZCorrectionM := worst (corrections.map (·.z.abs))
    yawCorrectionDeg := worst (corrections.map (·.yawDeg.abs))
    adjacentXyStepM := worst (steps.map (·.xyStep))
    adjacentXyRateMps := worst (steps.filterMap (·.rate))
    adjacentYawStepDeg := worst yawSteps
    graphErrorNonIncreasing := graphErrorNonIncreasing errorBefore errorAfter }

/-- `inertial_guard_reasons` of a candidate. -/
def guardReasons (outdoorRtk : Bool) (measured : Measurements) : List String :=
  let limits := limits outdoorRtk
  let below := [("lio_between_coverage", measured.lioCoverage, limits.lioCoverage)] ++
    if outdoorRtk then [] else [("imu_coverage", measured.imuCoverage, limits.imuCoverage)]
  let above :=
    [("max_xy_correction_m", measured.xyCorrectionM, limits.xyCorrectionM),
      ("max_abs_z_correction_m", measured.absZCorrectionM, limits.absZCorrectionM),
      ("max_yaw_correction_deg", measured.yawCorrectionDeg, limits.yawCorrectionDeg),
      ("max_adjacent_xy_step_m", measured.adjacentXyStepM, limits.adjacentXyStepM),
      ("max_adjacent_xy_correction_rate_mps", measured.adjacentXyRateMps, limits.adjacentXyRateMps),
      ("max_adjacent_yaw_step_deg", measured.adjacentYawStepDeg, limits.adjacentYawStepDeg)]
  (below.filter fun check => decide (check.2.1 < check.2.2)).map (·.1 ++ "_below_limit") ++
    (above.filter fun check => (Number.finite check.2.2).lt check.2.1).map (·.1 ++ "_above_limit") ++
    if measured.graphErrorNonIncreasing = some false then ["graph_error_increased"] else []

/-! ## The verdict -/

inductive Stage
  | fallback
  | noValidLoop
  | completed
  | qualityRejected
  deriving DecidableEq

structure EnuGuard where
  startTranslationM : Number
  globalYawDeg : Number
  passed : Bool

def enuGuard (mappingType : MappingType) (corrections : List Correction) : EnuGuard :=
  let startTranslationM : Number := (corrections.head?.map Correction.positionM).getD (.finite 0)
  let globalYawDeg : Number := ((corrections.head?.map Correction.yawDeg).getD (.finite 0)).abs
  { startTranslationM, globalYawDeg
    passed := decide (mappingType ≠ .outdoor) ||
      (startTranslationM.le (.finite (20 / 100)) && globalYawDeg.le (.finite 2)) }

structure Summary where
  stage : Stage
  applied : Bool
  candidateApplied : Bool
  fallbackError : String
  factors : Factors
  errorBefore : Option ℚ
  errorAfter : Option ℚ
  corrections : List Correction
  measurements : Measurements
  reasons : List String
  enu : EnuGuard

/-- The candidate before the guards: its stage, and whether there is one at all. -/
structure Candidate where
  stage : Stage
  fallbackError : String
  applied : Bool

def candidate (files : Files) (mappingType : MappingType) (fallbackError : String) (factors : Factors)
    (corrections : List Correction) : Candidate :=
  let applied := !files.covariance.isEmpty && !corrections.isEmpty && decide (0 < factors.total)
  if mappingType = .indoor ∧ (0 < factors.rtkPosition ∨ 0 < factors.rtkHeading) then
    ⟨.fallback, "indoor useGPS=false gate violated: RTK factors were present", false⟩
  else if fallbackError ≠ "" then ⟨.fallback, fallbackError, applied⟩
  else if files.loops.isEmpty then ⟨.noValidLoop, fallbackError, applied⟩
  else if applied then ⟨.completed, fallbackError, applied⟩
  else ⟨.fallback, "accepted loops exist but no optimized factor-graph output was produced", applied⟩

def isOutdoorRtk (mappingType : MappingType) (factors : Factors) : Bool :=
  decide (mappingType = .outdoor) && decide (0 < factors.rtkPosition)

def errorOf (covariance : List (String × Json)) (key : String) : Option ℚ :=
  finiteNumber ((Json.get? covariance key).bind conversions.float?)

def buildOptimizationSummary (files : Files) (mappingType : MappingType) (fallbackError : String) :
    Except String Summary := do
  let raw := loadTrajectory maths conversions files.raw
  let optimized := loadTrajectory maths conversions files.optimized
  let factors ← factors conversions files.covariance
  let corrections ← corrections maths raw optimized
  let yawSteps ← (corrections.zip corrections.tail).mapM fun pair => yawStep maths pair.1 pair.2
  let candidate := candidate files mappingType fallbackError factors corrections
  let errorBefore := errorOf conversions files.covariance "error_before"
  let errorAfter := errorOf conversions files.covariance "error_after"
  let measurements := measure maths factors errorBefore errorAfter corrections yawSteps
  let reasons := if candidate.applied then guardReasons (isOutdoorRtk mappingType factors) measurements else []
  let enu := enuGuard mappingType corrections
  let applied := candidate.applied && reasons.isEmpty && enu.passed && decide (candidate.stage ≠ .fallback)
  let rejected := candidate.applied && !applied && decide (candidate.stage ≠ .fallback)
  return {
    stage := if rejected then .qualityRejected else candidate.stage
    applied
    candidateApplied := candidate.applied
    fallbackError :=
      if rejected then "optimized trajectory rejected: " ++
        ", ".intercalate (reasons ++ if enu.passed then [] else ["enu_guard_failed"])
      else candidate.fallbackError
    factors, errorBefore, errorAfter, corrections, measurements, reasons, enu }

/-! ## What an accepted trajectory satisfies -/

/-- A keyframe has a pose in both trajectories. -/
def Shared (raw optimized : Trajectory) (index : ℤ) (before after : Pose) : Prop :=
  raw.pose index = some before ∧ optimized.pose index = some after

structure Move where
  dx : ℚ
  dy : ℚ
  dz : ℚ
  yawDeg : ℚ

def difference : Number → Number → Option ℚ
  | .finite p, .finite q => some (q - p)
  | _, _ => none

/-- A turn between minus and plus half a circle. -/
def turned (angle : ℚ) : ℚ := maths.atan2 (maths.sin angle) (maths.cos angle)

/-- The move between two poses that are finite. -/
def moveOf (before after : Pose) : Option Move :=
  match difference before.x after.x, difference before.y after.y, difference before.z after.z,
    difference before.yaw after.yaw with
  | some dx, some dy, some dz, some dyaw => some ⟨dx, dy, dz, maths.degrees (turned maths dyaw)⟩
  | _, _, _, _ => none

/-- All poses that are compared are finite. -/
def AllFinite (raw optimized : Trajectory) : Prop :=
  ∀ index before after, Shared raw optimized index before after → (moveOf maths before after).isSome = true

/-- No keyframe of both trajectories lies between two of them. -/
structure Consecutive (raw optimized : Trajectory) (first second : ℤ) : Prop where
  lt : first < second
  between : ∀ index ∈ commonIndexes raw optimized, index ≤ first ∨ second ≤ index

/-- The correction of a keyframe is within the limits, up to the rounding. -/
structure KeyframeWithin (limits : Limits) (move : Move) : Prop where
  xy : maths.hypot move.dx move.dy ≤ limits.xyCorrectionM + 1 / 10 ^ 5
  z : |move.dz| ≤ limits.absZCorrectionM + 1 / 10 ^ 5
  yaw : |move.yawDeg| ≤ limits.yawCorrectionDeg + 1 / 10 ^ 4

/-- How far the rounded corrections of two keyframes lie apart. -/
def stepLength (previous current : Move) : ℚ :=
  maths.hypot (roundTo 5 current.dx - roundTo 5 previous.dx) (roundTo 5 current.dy - roundTo 5 previous.dy)

def stepTurn (previous current : Move) : ℚ :=
  |maths.degrees (turned maths (maths.radians (roundTo 4 current.yawDeg - roundTo 4 previous.yawDeg)))|

structure StepWithin (limits : Limits) (previous current : Move) : Prop where
  xy : stepLength maths previous current ≤ limits.adjacentXyStepM + 1 / 10 ^ 5
  yaw : stepTurn maths previous current ≤ limits.adjacentYawStepDeg + 1 / 10 ^ 5

/-- What every accepted trajectory satisfies. -/
structure Guarded (mappingType : MappingType) (files : Files) (raw optimized : Trajectory) (summary : Summary) :
    Prop where
  stage : summary.stage = .completed ∨ files.loops = [] ∧ summary.stage = .noValidLoop
  lioCoverage : (95 : ℚ) / 100 ≤ coverage summary.factors.lioBetween (commonIndexes raw optimized).length + 1 / 10 ^ 4
  imuCoverage : isOutdoorRtk mappingType summary.factors = false →
    (80 : ℚ) / 100 ≤ coverage summary.factors.imu (commonIndexes raw optimized).length + 1 / 10 ^ 4
  graphError : ∀ before after, summary.errorBefore = some before → summary.errorAfter = some after →
    after ≤ before + max (1 / 10 ^ 6) (|before| * (1 / 10 ^ 6))
  noRtk : mappingType = .indoor → summary.factors.rtkPosition ≤ 0 ∧ summary.factors.rtkHeading ≤ 0
  enu : mappingType = .outdoor → ∀ index before after move,
    (commonIndexes raw optimized).head? = some index → Shared raw optimized index before after →
    moveOf maths before after = some move →
    maths.hypot move.dx move.dy ≤ 20 / 100 + 1 / 10 ^ 5 ∧ |move.yawDeg| ≤ 2 + 1 / 10 ^ 4
  keyframes : AllFinite maths raw optimized → ∀ index before after move,
    Shared raw optimized index before after → moveOf maths before after = some move →
    KeyframeWithin maths (limits (isOutdoorRtk mappingType summary.factors)) move
  steps : AllFinite maths raw optimized → ∀ first second before after before' after' move move',
    Consecutive raw optimized first second → Shared raw optimized first before after →
    Shared raw optimized second before' after' → moveOf maths before after = some move →
    moveOf maths before' after' = some move' →
    StepWithin maths (limits (isOutdoorRtk mappingType summary.factors)) move move' ∧
    ∀ time time', after.stamp.or before.stamp = some time → after'.stamp.or before'.stamp = some time' →
      time < time' → stepLength maths move move' / (time' - time) ≤
        (limits (isOutdoorRtk mappingType summary.factors)).adjacentXyRateMps + 1 / 10 ^ 5

section Rounding

theorem abs_roundTo_sub (digits : ℕ) (q : ℚ) : |roundTo digits q - q| ≤ 1 / (2 * 10 ^ digits) := by
  have hpos : (0 : ℚ) < 10 ^ digits := by positivity
  have hround := TrajectoryDb.abs_roundHalfEven_sub (q * 10 ^ digits)
  have hquot : roundTo digits q - q = (roundHalfEven (q * 10 ^ digits) - q * 10 ^ digits) / 10 ^ digits := by
    unfold roundTo
    field_simp
  rw [hquot, abs_div, abs_of_pos hpos, div_le_iff₀ hpos]
  calc |(roundHalfEven (q * 10 ^ digits) : ℚ) - q * 10 ^ digits| ≤ 1 / 2 := hround
    _ = 1 / (2 * 10 ^ digits) * 10 ^ digits := by field_simp

@[simp] theorem rounded_finite (digits : ℕ) (q : ℚ) : rounded digits (.finite q) = .finite (roundTo digits q) := rfl

theorem le_of_worst {values : List Number} {limit : ℚ} (hworst : (Number.finite limit).lt (worst values) = false)
    (hfinite : ∀ value ∈ values, ∃ q, value = .finite q) {q : ℚ} (hq : .finite q ∈ values) :
    q ≤ limit + 1 / (2 * 10 ^ 5) := by
  obtain ⟨m, hm, hbound⟩ := Number.exists_maximum hfinite (.finite 0) (List.ne_nil_of_mem hq)
  unfold worst at hworst
  rw [hm, rounded_finite, Number.lt_finite, decide_eq_false_iff_not, not_lt] at hworst
  have hround := abs_le.mp (abs_roundTo_sub 5 m)
  have hle := hbound q hq
  linarith [hround.1]

end Rounding

section Keyframes

variable {maths} {raw optimized : Trajectory} {index : ℤ} {before after : Pose} {move : Move}

/-- The rounded correction of a finite move. -/
def correctionOf (index : ℤ) (before after : Pose) (move : Move) : Correction where
  index
  stamp := after.stamp.or before.stamp
  x := .finite (roundTo 5 move.dx)
  y := .finite (roundTo 5 move.dy)
  z := .finite (roundTo 5 move.dz)
  positionM := .finite (roundTo 5 (maths.hypot move.dx move.dy))
  yawDeg := .finite (roundTo 4 move.yawDeg)

theorem difference_eq_some {a b : Number} {d : ℚ} (h : difference a b = some d) : b.sub a = .finite d := by
  unfold difference at h
  split at h
  · cases h
    exact Number.sub_finite _ _
  · cases h

theorem correction_of_move (h : moveOf maths before after = some move) :
    correction maths index before after = .ok (@correctionOf maths index before after move) := by
  unfold moveOf at h
  split at h
  · rename_i dx dy dz dyaw hdx hdy hdz hdyaw
    cases h
    unfold correction
    dsimp only
    rw [difference_eq_some hdx, difference_eq_some hdy, difference_eq_some hdz, difference_eq_some hdyaw]
    rfl
  · cases h

theorem pose_isSome_iff (trajectory : Trajectory) (index : ℤ) :
    (trajectory.pose index).isSome = true ↔ index ∈ trajectory.map Prod.fst := by
  unfold Trajectory.pose Keyed.get
  rw [Option.isSome_map, List.find?_isSome, List.mem_map]
  simp only [decide_eq_true_eq]

theorem mem_commonIndexes :
    index ∈ commonIndexes raw optimized ↔ ∃ before after, Shared raw optimized index before after := by
  unfold commonIndexes Shared
  rw [List.mem_mergeSort, List.mem_filter, List.mem_dedup, ← pose_isSome_iff, Option.isSome_iff_exists,
    Option.isSome_iff_exists]
  simp only [exists_and_left, exists_and_right]

theorem pairwise_commonIndexes (raw optimized : Trajectory) :
    (commonIndexes raw optimized).Pairwise (· < ·) := by
  have hsorted : (commonIndexes raw optimized).Pairwise (· ≤ ·) := List.pairwise_mergeSort' (· ≤ ·) _
  have hnodup : (commonIndexes raw optimized).Nodup :=
    (List.mergeSort_perm _ _).nodup_iff.mpr ((List.nodup_dedup _).filter _)
  exact (hsorted.and hnodup).imp fun h => lt_of_le_of_ne h.1 h.2

theorem exists_adjacent {l : List ℤ} (hsorted : l.Pairwise (· < ·)) {first second : ℤ} (hfirst : first ∈ l)
    (hsecond : second ∈ l) (hlt : first < second) (hbetween : ∀ index ∈ l, index ≤ first ∨ second ≤ index) :
    ∃ n, l[n]? = some first ∧ l[n + 1]? = some second := by
  induction l with
  | nil => cases hfirst
  | cons a l ih =>
    obtain ⟨ha, hl⟩ := List.pairwise_cons.mp hsorted
    have hbetween' : ∀ index ∈ l, index ≤ first ∨ second ≤ index := fun i hi => hbetween i (List.mem_cons_of_mem _ hi)
    have hsecond' : second ∈ l := by
      rcases List.mem_cons.mp hsecond with rfl | h
      · rcases List.mem_cons.mp hfirst with rfl | h
        · exact absurd hlt (lt_irrefl _)
        · exact absurd (ha first h) (not_lt.mpr hlt.le)
      · exact h
    rcases List.mem_cons.mp hfirst with rfl | hfirst'
    · -- the first one is the head, so the second one is the head of the rest
      match l, hsecond', ha, hl, hbetween' with
      | b :: l, hsecond', ha, hl, hbetween' =>
        refine ⟨0, rfl, ?_⟩
        have hb := ha b List.mem_cons_self
        have hle : second ≤ b := (hbetween' b List.mem_cons_self).resolve_left (not_le.mpr hb)
        rcases List.mem_cons.mp hsecond' with rfl | hrest
        · rfl
        · exact absurd ((List.pairwise_cons.mp hl).1 second hrest) (not_lt.mpr hle)
    · obtain ⟨n, hn, hn'⟩ := ih hl hfirst' hsecond' hbetween'
      exact ⟨n + 1, hn, hn'⟩

end Keyframes

section Guards

variable {maths conversions}

/-- What holds of the measurements of a candidate that no guard objects to. -/
structure Passes (outdoorRtk : Bool) (measured : Measurements) : Prop where
  lio : (limits outdoorRtk).lioCoverage ≤ measured.lioCoverage
  imu : outdoorRtk = false → (limits outdoorRtk).imuCoverage ≤ measured.imuCoverage
  xy : (Number.finite (limits outdoorRtk).xyCorrectionM).lt measured.xyCorrectionM = false
  z : (Number.finite (limits outdoorRtk).absZCorrectionM).lt measured.absZCorrectionM = false
  yaw : (Number.finite (limits outdoorRtk).yawCorrectionDeg).lt measured.yawCorrectionDeg = false
  xyStep : (Number.finite (limits outdoorRtk).adjacentXyStepM).lt measured.adjacentXyStepM = false
  xyRate : (Number.finite (limits outdoorRtk).adjacentXyRateMps).lt measured.adjacentXyRateMps = false
  yawStep : (Number.finite (limits outdoorRtk).adjacentYawStepDeg).lt measured.adjacentYawStepDeg = false
  graphError : measured.graphErrorNonIncreasing ≠ some false

theorem passes_of_guardReasons {outdoorRtk : Bool} {measured : Measurements}
    (h : guardReasons outdoorRtk measured = []) : Passes outdoorRtk measured := by
  unfold guardReasons at h
  dsimp only at h
  obtain ⟨hchecks, hgraph⟩ := List.append_eq_nil_iff.mp h
  obtain ⟨hbelow, habove⟩ := List.append_eq_nil_iff.mp hchecks
  rw [List.map_eq_nil_iff, List.filter_eq_nil_iff] at hbelow habove
  have habove' : ∀ name measurement limit, (name, measurement, limit) ∈
      [("max_xy_correction_m", measured.xyCorrectionM, (limits outdoorRtk).xyCorrectionM),
        ("max_abs_z_correction_m", measured.absZCorrectionM, (limits outdoorRtk).absZCorrectionM),
        ("max_yaw_correction_deg", measured.yawCorrectionDeg, (limits outdoorRtk).yawCorrectionDeg),
        ("max_adjacent_xy_step_m", measured.adjacentXyStepM, (limits outdoorRtk).adjacentXyStepM),
        ("max_adjacent_xy_correction_rate_mps", measured.adjacentXyRateMps, (limits outdoorRtk).adjacentXyRateMps),
        ("max_adjacent_yaw_step_deg", measured.adjacentYawStepDeg, (limits outdoorRtk).adjacentYawStepDeg)] →
      (Number.finite limit).lt measurement = false :=
    fun name measurement limit hmem => Bool.eq_false_iff.mpr (habove _ hmem)
  refine ⟨?_, fun hrtk => ?_, habove' "max_xy_correction_m" _ _ (by simp), habove' "max_abs_z_correction_m" _ _ (by simp),
    habove' "max_yaw_correction_deg" _ _ (by simp), habove' "max_adjacent_xy_step_m" _ _ (by simp),
    habove' "max_adjacent_xy_correction_rate_mps" _ _ (by simp), habove' "max_adjacent_yaw_step_deg" _ _ (by simp),
    fun hsome => ?_⟩
  · have hlio := hbelow ("lio_between_coverage", measured.lioCoverage, (limits outdoorRtk).lioCoverage) (by simp)
    simpa only [decide_eq_true_eq, not_lt] using hlio
  · have himu := hbelow ("imu_coverage", measured.imuCoverage, (limits outdoorRtk).imuCoverage) (by simp [hrtk])
    simpa only [decide_eq_true_eq, not_lt] using himu
  · rw [if_pos hsome] at hgraph
    cases hgraph

/-- What a run has read and decided when it accepts the optimised trajectory. -/
structure Accepts (maths : Maths) (conversions : Conversions) (files : Files) (mappingType : MappingType)
    (summary : Summary) : Prop where
  corrections : OptimizationSummary.corrections maths (loadTrajectory maths conversions files.raw)
    (loadTrajectory maths conversions files.optimized) = .ok summary.corrections
  yawSteps : ∃ yawSteps,
    ((summary.corrections.zip summary.corrections.tail).mapM fun pair => yawStep maths pair.1 pair.2) = .ok yawSteps ∧
    Passes (isOutdoorRtk mappingType summary.factors)
      (measure maths summary.factors summary.errorBefore summary.errorAfter summary.corrections yawSteps)
  enu : (enuGuard mappingType summary.corrections).passed = true
  noRtk : ¬ (mappingType = .indoor ∧ (0 < summary.factors.rtkPosition ∨ 0 < summary.factors.rtkHeading))
  stage : summary.stage = .completed ∨ files.loops = [] ∧ summary.stage = .noValidLoop

theorem candidate_stage {files : Files} {mappingType : MappingType} {fallbackError : String} {factors : Factors}
    {corrections : List Correction}
    (hstage : (candidate files mappingType fallbackError factors corrections).stage ≠ .fallback) :
    ¬ (mappingType = .indoor ∧ (0 < factors.rtkPosition ∨ 0 < factors.rtkHeading)) ∧
      ((candidate files mappingType fallbackError factors corrections).stage = .completed ∨
        files.loops = [] ∧ (candidate files mappingType fallbackError factors corrections).stage = .noValidLoop) := by
  unfold candidate at *
  dsimp only at *
  split at hstage
  · exact absurd rfl hstage
  rename_i hviolation
  refine ⟨hviolation, ?_⟩
  rw [if_neg hviolation]
  split at hstage
  · exact absurd rfl hstage
  rename_i herror
  rw [if_neg herror]
  split at hstage
  · rename_i hloops
    rw [if_pos hloops]
    exact Or.inr ⟨List.isEmpty_iff.mp hloops, rfl⟩
  rename_i hloops
  rw [if_neg hloops]
  split at hstage
  · rename_i hcandidate
    rw [if_pos hcandidate]
    exact Or.inl rfl
  · exact absurd rfl hstage

theorem accepts_of_applied {files : Files} {mappingType : MappingType} {fallbackError : String} {summary : Summary}
    (h : buildOptimizationSummary maths conversions files mappingType fallbackError = .ok summary)
    (happlied : summary.applied = true) : Accepts maths conversions files mappingType summary := by
  unfold buildOptimizationSummary at h
  dsimp only at h
  obtain ⟨factors, -, h⟩ := Excepts.bind_eq_ok h
  obtain ⟨corrections, hcorrections, h⟩ := Excepts.bind_eq_ok h
  obtain ⟨yawSteps, hyawSteps, h⟩ := Excepts.bind_eq_ok h
  cases h
  dsimp only at happlied
  simp only [Bool.and_eq_true, decide_eq_true_eq, List.isEmpty_iff] at happlied
  obtain ⟨⟨⟨hcandidate, hreasons⟩, henu⟩, hstage⟩ := happlied
  obtain ⟨hviolation, hstages⟩ := candidate_stage hstage
  rw [if_pos hcandidate] at hreasons
  refine ⟨hcorrections, ⟨yawSteps, hyawSteps, passes_of_guardReasons hreasons⟩, henu, hviolation, ?_⟩
  dsimp only
  rw [if_neg]
  · exact hstages
  · simp [hcandidate, hreasons, henu, hstage]

end Guards

section Measured

variable {maths} {raw optimized : Trajectory}

/-- The corrections are those of the common keyframes, in their order. -/
def Measures (maths : Maths) (raw optimized : Trajectory) (corrections : List Correction) : Prop :=
  OptimizationSummary.corrections maths raw optimized = .ok corrections

variable {corrections : List Correction} (hmeasures : Measures maths raw optimized corrections)

include hmeasures

theorem length_of_measures : corrections.length = (commonIndexes raw optimized).length :=
  (Excepts.forall₂_of_mapM hmeasures).length_eq.symm

theorem getElem?_of_measures {n : ℕ} {index : ℤ} {before after : Pose} {move : Move}
    (hn : (commonIndexes raw optimized)[n]? = some index) (hshared : Shared raw optimized index before after)
    (hmove : moveOf maths before after = some move) :
    corrections[n]? = some (@correctionOf maths index before after move) := by
  obtain ⟨found, hfound, hat⟩ := Excepts.getElem?_of_mapM hmeasures hn
  unfold correctionAt at hat
  rw [hshared.1, hshared.2] at hat
  dsimp only at hat
  rw [correction_of_move hmove] at hat
  rw [hfound, ← Except.ok.inj hat]

theorem finite_of_measures (hfinite : AllFinite maths raw optimized) {found : Correction} (hfound : found ∈ corrections) :
    ∃ index before after move, found = @correctionOf maths index before after move := by
  obtain ⟨index, -, hat⟩ := Excepts.exists_of_mem_mapM hmeasures hfound
  unfold correctionAt at hat
  split at hat
  · rename_i before after hbefore hafter
    obtain ⟨move, hmove⟩ := Option.isSome_iff_exists.mp (hfinite index before after ⟨hbefore, hafter⟩)
    rw [correction_of_move hmove] at hat
    exact ⟨index, before, after, move, (Except.ok.inj hat).symm⟩
  · cases hat

theorem mem_of_measures {index : ℤ} {before after : Pose} {move : Move} (hshared : Shared raw optimized index before after)
    (hmove : moveOf maths before after = some move) :
    @correctionOf maths index before after move ∈ corrections := by
  obtain ⟨n, hn⟩ := List.getElem?_of_mem (mem_commonIndexes.mpr ⟨before, after, hshared⟩)
  exact List.mem_of_getElem? (getElem?_of_measures hmeasures hn hshared hmove)

theorem le_of_passes (hfinite : AllFinite maths raw optimized) (value : Correction → Number) (size : Move → ℚ)
    (hvalue : ∀ index before after move,
      value (@correctionOf maths index before after move) = .finite (size move))
    {limit : ℚ} (hpasses : (Number.finite limit).lt (worst (corrections.map value)) = false) {index : ℤ}
    {before after : Pose} {move : Move} (hshared : Shared raw optimized index before after)
    (hmove : moveOf maths before after = some move) : size move ≤ limit + 1 / (2 * 10 ^ 5) := by
  refine le_of_worst hpasses ?_ ?_
  · intro v hv
    obtain ⟨found, hfound, rfl⟩ := List.mem_map.mp hv
    obtain ⟨i, b, a, m, rfl⟩ := finite_of_measures hmeasures hfinite hfound
    exact ⟨_, hvalue i b a m⟩
  · rw [← hvalue index before after move]
    exact List.mem_map_of_mem (mem_of_measures hmeasures hshared hmove)

theorem mem_zip_of_measures {first second : ℤ} {before after before' after' : Pose} {move move' : Move}
    (hconsecutive : Consecutive raw optimized first second) (hshared : Shared raw optimized first before after)
    (hshared' : Shared raw optimized second before' after') (hmove : moveOf maths before after = some move)
    (hmove' : moveOf maths before' after' = some move') :
    (@correctionOf maths first before after move,
      @correctionOf maths second before' after' move') ∈ corrections.zip corrections.tail := by
  obtain ⟨n, hn, hn'⟩ := exists_adjacent (pairwise_commonIndexes raw optimized)
    (mem_commonIndexes.mpr ⟨before, after, hshared⟩) (mem_commonIndexes.mpr ⟨before', after', hshared'⟩)
    hconsecutive.lt hconsecutive.between
  have hfirst := getElem?_of_measures hmeasures hn hshared hmove
  have hsecond := getElem?_of_measures hmeasures hn' hshared' hmove'
  refine List.mem_of_getElem? (i := n) ?_
  rw [List.getElem?_zip_eq_some]
  exact ⟨hfirst, by rw [List.getElem?_tail]; exact hsecond⟩

theorem finite_of_mem_zip (hfinite : AllFinite maths raw optimized) {pair : Correction × Correction}
    (hpair : pair ∈ corrections.zip corrections.tail) :
    ∃ index before after move index' before' after' move',
      pair.1 = @correctionOf maths index before after move ∧
      pair.2 = @correctionOf maths index' before' after' move' := by
  obtain ⟨hfirst, hsecond⟩ := List.of_mem_zip hpair
  obtain ⟨index, before, after, move, heq⟩ := finite_of_measures hmeasures hfinite hfirst
  obtain ⟨index', before', after', move', heq'⟩ :=
    finite_of_measures hmeasures hfinite (List.mem_of_mem_tail hsecond)
  exact ⟨index, before, after, move, index', before', after', move', heq, heq'⟩

end Measured

section Accepted

variable {maths conversions} {files : Files} {mappingType : MappingType} {summary : Summary}

theorem coverage_of_rounded {limit value : ℚ} (h : limit ≤ roundTo 4 value) : limit ≤ value + 1 / 10 ^ 4 := by
  have hround := abs_le.mp (abs_roundTo_sub 4 value)
  linarith [hround.2]

theorem abs_le_of_rounded {digits : ℕ} {value bound : ℚ} (h : |roundTo digits value| ≤ bound) :
    |value| ≤ bound + 1 / (2 * 10 ^ digits) := by
  have hround := abs_roundTo_sub digits value
  have htriangle : |value| ≤ |roundTo digits value| + |roundTo digits value - value| := by
    have := abs_sub_abs_le_abs_sub value (roundTo digits value)
    rw [abs_sub_comm] at this
    linarith
  linarith

theorem le_of_rounded {digits : ℕ} {value bound : ℚ} (h : roundTo digits value ≤ bound) :
    value ≤ bound + 1 / (2 * 10 ^ digits) := by
  have hround := abs_le.mp (abs_roundTo_sub digits value)
  linarith [hround.1]

theorem Accepts.keyframeWithin (h : Accepts maths conversions files mappingType summary)
    (hfinite : AllFinite maths (loadTrajectory maths conversions files.raw)
      (loadTrajectory maths conversions files.optimized))
    {index : ℤ} {before after : Pose} {move : Move}
    (hshared : Shared (loadTrajectory maths conversions files.raw) (loadTrajectory maths conversions files.optimized)
      index before after) (hmove : moveOf maths before after = some move) :
    KeyframeWithin maths (limits (isOutdoorRtk mappingType summary.factors)) move := by
  obtain ⟨yawSteps, -, hpasses⟩ := h.yawSteps
  have hxy := le_of_passes h.corrections hfinite _ (fun move => roundTo 5 (maths.hypot move.dx move.dy))
    (fun _ _ _ _ => rfl) hpasses.xy hshared hmove
  have hz := le_of_passes h.corrections hfinite (·.z.abs) (fun move => |roundTo 5 move.dz|)
    (fun _ _ _ _ => rfl) hpasses.z hshared hmove
  have hyaw := le_of_passes h.corrections hfinite (·.yawDeg.abs) (fun move => |roundTo 4 move.yawDeg|)
    (fun _ _ _ _ => rfl) hpasses.yaw hshared hmove
  refine ⟨?_, ?_, ?_⟩
  · linarith [le_of_rounded hxy]
  · linarith [abs_le_of_rounded hz]
  · linarith [abs_le_of_rounded hyaw]

theorem step_correctionOf (index index' : ℤ) (before after before' after' : Pose) (move move' : Move) :
    (step maths (@correctionOf maths index before after move)
        (@correctionOf maths index' before' after' move')).xyStep =
      .finite (roundTo 5 (stepLength maths move move')) := by
  unfold step correctionOf hypot
  simp only [Number.sub_finite]
  rfl

theorem rate_correctionOf (index index' : ℤ) (before after before' after' : Pose) (move move' : Move) {rate : Number}
    (h : (step maths (@correctionOf maths index before after move)
        (@correctionOf maths index' before' after' move')).rate = some rate) :
    ∃ q, rate = .finite q := by
  unfold step correctionOf hypot at h
  simp only [Number.sub_finite] at h
  obtain ⟨deltaT, -, rfl⟩ := Option.map_eq_some_iff.mp h
  exact ⟨_, rfl⟩

theorem rate_of_stamps {index index' : ℤ} {before after before' after' : Pose} {move move' : Move} {time time' : ℚ}
    (htime : after.stamp.or before.stamp = some time) (htime' : after'.stamp.or before'.stamp = some time')
    (hlt : time < time') :
    (step maths (@correctionOf maths index before after move)
        (@correctionOf maths index' before' after' move')).rate =
      some (.finite (roundTo 5 (stepLength maths move move' / (time' - time)))) := by
  unfold step correctionOf hypot
  simp only [Number.sub_finite, htime, htime', Option.map_some, Option.bind_some]
  rw [Option.filter_some, if_pos (decide_eq_true (sub_pos.mpr hlt))]
  rfl

theorem yawStep_correctionOf (index index' : ℤ) (before after before' after' : Pose) (move move' : Move) :
    yawStep maths (@correctionOf maths index before after move)
        (@correctionOf maths index' before' after' move') =
      .ok (.finite (stepTurn maths move move')) := by
  unfold yawStep correctionOf
  simp only [Number.sub_finite]
  rfl

theorem Accepts.stepWithin (h : Accepts maths conversions files mappingType summary)
    (hfinite : AllFinite maths (loadTrajectory maths conversions files.raw)
      (loadTrajectory maths conversions files.optimized))
    {first second : ℤ} {before after before' after' : Pose} {move move' : Move}
    (hconsecutive : Consecutive (loadTrajectory maths conversions files.raw)
      (loadTrajectory maths conversions files.optimized) first second)
    (hshared : Shared (loadTrajectory maths conversions files.raw) (loadTrajectory maths conversions files.optimized)
      first before after)
    (hshared' : Shared (loadTrajectory maths conversions files.raw) (loadTrajectory maths conversions files.optimized)
      second before' after')
    (hmove : moveOf maths before after = some move) (hmove' : moveOf maths before' after' = some move') :
    StepWithin maths (limits (isOutdoorRtk mappingType summary.factors)) move move' ∧
    ∀ time time', after.stamp.or before.stamp = some time → after'.stamp.or before'.stamp = some time' →
      time < time' → stepLength maths move move' / (time' - time) ≤
        (limits (isOutdoorRtk mappingType summary.factors)).adjacentXyRateMps + 1 / 10 ^ 5 := by
  obtain ⟨yawSteps, hyawSteps, hpasses⟩ := h.yawSteps
  have hpair := mem_zip_of_measures h.corrections hconsecutive hshared hshared' hmove hmove'
  have hxy : roundTo 5 (stepLength maths move move') ≤
      (limits (isOutdoorRtk mappingType summary.factors)).adjacentXyStepM + 1 / (2 * 10 ^ 5) := by
    refine le_of_worst hpasses.xyStep ?_ ?_
    · intro value hvalue
      obtain ⟨_, hstep, rfl⟩ := List.mem_map.mp hvalue
      obtain ⟨⟨previous, current⟩, hmem, rfl⟩ := List.mem_map.mp hstep
      obtain ⟨i, b, a, m, j, b', a', m', rfl, rfl⟩ := finite_of_mem_zip h.corrections hfinite hmem
      exact ⟨_, step_correctionOf i j b a b' a' m m'⟩
    · rw [← step_correctionOf first second before after before' after' move move']
      exact List.mem_map_of_mem (List.mem_map_of_mem hpair)
  have hyaw : stepTurn maths move move' ≤
      (limits (isOutdoorRtk mappingType summary.factors)).adjacentYawStepDeg + 1 / (2 * 10 ^ 5) := by
    refine le_of_worst hpasses.yawStep ?_ ?_
    · intro value hvalue
      obtain ⟨⟨previous, current⟩, hmem, hvalue⟩ := Excepts.exists_of_mem_mapM hyawSteps hvalue
      obtain ⟨i, b, a, m, j, b', a', m', rfl, rfl⟩ := finite_of_mem_zip h.corrections hfinite hmem
      rw [yawStep_correctionOf] at hvalue
      exact ⟨_, (Except.ok.inj hvalue).symm⟩
    · obtain ⟨n, hn⟩ := List.getElem?_of_mem hpair
      obtain ⟨value, hvalue, hstep⟩ := Excepts.getElem?_of_mapM hyawSteps hn
      rw [yawStep_correctionOf] at hstep
      exact Except.ok.inj hstep ▸ List.mem_of_getElem? hvalue
  refine ⟨⟨by linarith [le_of_rounded hxy], by linarith⟩, fun time time' htime htime' hlt => ?_⟩
  have hrate : roundTo 5 (stepLength maths move move' / (time' - time)) ≤
      (limits (isOutdoorRtk mappingType summary.factors)).adjacentXyRateMps + 1 / (2 * 10 ^ 5) := by
    refine le_of_worst hpasses.xyRate ?_ ?_
    · intro value hvalue
      obtain ⟨_, hstep, hrate⟩ := List.mem_filterMap.mp hvalue
      obtain ⟨⟨previous, current⟩, hmem, rfl⟩ := List.mem_map.mp hstep
      obtain ⟨i, b, a, m, j, b', a', m', rfl, rfl⟩ := finite_of_mem_zip h.corrections hfinite hmem
      exact rate_correctionOf i j b a b' a' m m' hrate
    · exact List.mem_filterMap.mpr ⟨_, List.mem_map_of_mem hpair, rate_of_stamps htime htime' hlt⟩
  linarith [le_of_rounded hrate]

theorem Accepts.enuWithin (h : Accepts maths conversions files mappingType summary) (hmapping : mappingType = .outdoor)
    {index : ℤ} {before after : Pose} {move : Move}
    (hfirst : (commonIndexes (loadTrajectory maths conversions files.raw)
      (loadTrajectory maths conversions files.optimized)).head? = some index)
    (hshared : Shared (loadTrajectory maths conversions files.raw) (loadTrajectory maths conversions files.optimized)
      index before after) (hmove : moveOf maths before after = some move) :
    maths.hypot move.dx move.dy ≤ 20 / 100 + 1 / 10 ^ 5 ∧ |move.yawDeg| ≤ 2 + 1 / 10 ^ 4 := by
  have hhead : summary.corrections.head? = some (@correctionOf maths index before after move) := by
    rw [List.head?_eq_getElem?] at hfirst ⊢
    exact getElem?_of_measures h.corrections hfirst hshared hmove
  have henu := h.enu
  unfold enuGuard at henu
  rw [hhead, hmapping] at henu
  simp only [Option.map_some, Option.getD_some, ne_eq, not_true_eq_false, decide_false, Bool.false_or,
    Bool.and_eq_true] at henu
  obtain ⟨hposition, hyaw⟩ := henu
  have hposition' : roundTo 5 (maths.hypot move.dx move.dy) ≤ 20 / 100 := of_decide_eq_true hposition
  have hyaw' : |roundTo 4 move.yawDeg| ≤ 2 := of_decide_eq_true hyaw
  exact ⟨by linarith [le_of_rounded hposition'], by linarith [abs_le_of_rounded hyaw']⟩

end Accepted

/-! ## A map without a loop -/

section NoLoop

/-- What would hold if only completed maps were accepted, with every keyframe optimised and finite. -/
structure CompletedAndWhole (maths : Maths) (mappingType : MappingType) (files : Files) (raw optimized : Trajectory)
    (summary : Summary) : Prop extends Guarded maths mappingType files raw optimized summary where
  completed : summary.stage = .completed
  everyKeyframe : ∀ index before, raw.pose index = some before → (optimized.pose index).isSome = true
  finite : AllFinite maths raw optimized

/-- The functions of `math` at zero turns. -/
def straightMaths : Maths where
  hypot dx dy := |dx| + |dy|
  sin _ := 0
  cos _ := 1
  atan2 _ _ := 0
  atan2Infinite _ _ := .nan
  degrees := id
  radians := id

def sampleConversions : Conversions where
  floatText text := if text = "5" then some (.finite 5) else if text = "0" then some (.finite 0) else none
  intText text := if text = "1" then some 1 else if text = "0" then some 0 else none
  float? _ := none
  int? value := match value with
    | .num (.int n) => some n
    | _ => none

/-- A straight route of two keyframes whose second one has no optimised pose; no loop was accepted. -/
def withoutLoop : Files where
  raw := [[("index", "0"), ("world_x", "0")], [("index", "1"), ("world_x", "5")]]
  optimized := [[("index", "0"), ("world_x", "0")]]
  covariance := [("factor_count", .num (.int 2))]
  loops := []

theorem exists_withoutLoop : ∃ summary,
    buildOptimizationSummary straightMaths sampleConversions withoutLoop .indoor "" = .ok summary ∧
      summary.applied = true ∧ summary.stage = .noValidLoop := by
  have hverdict : (buildOptimizationSummary straightMaths sampleConversions withoutLoop .indoor "").toOption.map
      (fun summary => (summary.stage, summary.applied)) = some (.noValidLoop, true) := by decide +kernel
  cases h : buildOptimizationSummary straightMaths sampleConversions withoutLoop .indoor "" with
  | error message =>
    rw [h] at hverdict
    cases hverdict
  | ok summary =>
    rw [h] at hverdict
    obtain ⟨hstage, happlied⟩ := Prod.mk.inj (Option.some.inj hverdict)
    exact ⟨summary, rfl, happlied, hstage⟩

end NoLoop

end OptimizationSummary

end RoamerX
