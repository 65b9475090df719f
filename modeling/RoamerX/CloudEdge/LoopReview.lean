import Mathlib
import RoamerX.DevTasks.Models
import RoamerX.Lib.Excepts
import RoamerX.Lib.Numerals

set_option autoImplicit false

/-! # The review of a loop, on the center and on the device

`audit_map_package` of `map_loop_review.py` checks the loop candidates of a map package and publishes them with rounded
fields; `optimize_reviewed_loop_closures` of `map_loop_closure.py` checks the candidates an operator has selected once
more. The numbers are those of an ordered field, with the functions of Python's `math` and the reading of texts as
parameters; a row is what `csv.DictReader` gives for it. -/

namespace RoamerX

open scoped Numerals

namespace LoopReview

/-! ## Numbers and rows -/

/-- What `float(value)` comes to. -/
inductive Parsed (K : Type*)
  | error
  | nan
  | infinite
  | finite (x : K)
  deriving DecidableEq

structure Arithmetic (K : Type*) [Field K] where
  float : String → Parsed K
  /-- `int(text)` -/
  int : String → Option ℤ
  /-- `int(x)` -/
  truncate : K → ℤ
  truncate_intCast (n : ℤ) : truncate n = n
  hypot : K → K → K
  /-- `_wrap_angle`, which is the same on both sides. -/
  wrapAngle : K → K
  degrees : K → K
  /-- `round(x, digits)` -/
  round : K → ℕ → K

/-- The cells by their columns; a short row leaves columns out. -/
abbrev Row := String → Option String

/-- A map package, as the two sides read it. -/
structure Package where
  candidateRows : List Row
  keyframeRows : List Row
  /-- The first column of the keyframe file, where a byte order mark comes before it. Only the center takes the mark off. -/
  markedColumn : Option String
  /-- `keyframe_count` of `index.json`, where it has one. -/
  keyframeCount : Option ℤ

variable {K : Type} [Field K] [LinearOrder K] (a : Arithmetic K)

def present (cell : Option String) : Option String := cell.filter (· ≠ "")

/-- `int(cell or 0)` -/
def intCell (cell : Option String) : Option ℤ :=
  match present cell with
  | none => some 0
  | some text => a.int text

/-! ## The center -/

/-- `_number`, of what `float` makes of a value. -/
def Parsed.number (default : K) : Parsed K → K
  | .finite x => x
  | _ => default

/-- `_number` of a cell. -/
def number (default : K) : Option String → K
  | none => default
  | some text => (a.float text).number default

/-- `_boolean` of a cell. -/
def boolean (cell : Option String) : Bool :=
  match cell with
  | none => false
  | some text => (stripped text).toLower ∈ ["1", "true", "yes"]

structure Thresholds (K : Type*) where
  maxRank : ℤ
  descriptorDistanceMax : K
  geometricTranslationMaxM : K
  yawConsistencyMaxDeg : K
  slamDistanceMinM : K
  slamDistanceMaxM : K
  maxSelectedLoops : ℤ
  maxPoseCorrectionM : K
  maxYawCorrectionDeg : K

/-- `normalize_thresholds`, of what `float` makes of the values that are given. -/
def normalizeThresholds (raw : String → Option (Parsed K)) : Except String (Thresholds K) :=
  let count (key : String) (default : ℤ) : ℤ :=
    match raw key with
    | none => default
    | some value => max 1 (a.truncate (value.number default))
  let bound (key : String) (default : K) : K :=
    match raw key with
    | none => default
    | some value => max 0 (value.number default)
  let result : Thresholds K :=
    { maxRank := count "max_rank" 1
      descriptorDistanceMax := bound "descriptor_distance_max" (30 / 100)
      geometricTranslationMaxM := bound "geometric_translation_max_m" (250 / 100)
      yawConsistencyMaxDeg := bound "yaw_consistency_max_deg" (3438 / 100)
      slamDistanceMinM := bound "slam_distance_min_m" 2
      slamDistanceMaxM := bound "slam_distance_max_m" 20
      maxSelectedLoops := count "max_selected_loops" 30
      maxPoseCorrectionM := bound "max_pose_correction_m" 5
      maxYawCorrectionDeg := bound "max_yaw_correction_deg" 20 }
  if result.slamDistanceMaxM ≤ result.slamDistanceMinM then .error "SLAM 最大间距必须大于最小间距" else .ok result

/-- The place and the heading of a keyframe. -/
structure Pose (K : Type*) where
  x : K
  y : K
  yaw : K

/-- A row of `_keyframe_poses`. -/
def keyframePose (row : Row) : Option (ℤ × Pose K) :=
  (intCell a (row "index")).map fun index =>
    (index, ⟨number a 0 ((present (row "lidar_x")).or (row "x")), number a 0 ((present (row "lidar_y")).or (row "y")),
      number a 0 (row "yaw")⟩)

def keyframePoses (rows : List Row) : List (ℤ × Pose K) := rows.filterMap (keyframePose a)

/-- Of the rows with an index the last one stays in the dictionary. -/
def poseOf (poses : List (ℤ × Pose K)) (index : ℤ) : Option (Pose K) :=
  (poses.filter fun entry => entry.1 = index).getLast?.map Prod.snd

def queryIndex (row : Row) : ℤ := a.truncate (number a (-1) (row "query_index"))

def matchIndex (row : Row) : ℤ := a.truncate (number a (-1) (row "match_index"))

/-- The distance and the turn between the keyframes of a candidate, from their poses or else from the row. -/
def slamBetween (poses : List (ℤ × Pose K)) (row : Row) : K × Option K :=
  match poseOf poses (queryIndex a row), poseOf poses (matchIndex a row) with
  | some query, some found =>
    (a.hypot (query.x - found.x) (query.y - found.y), some (a.wrapAngle (found.yaw - query.yaw)))
  | _, _ =>
    (number a (-1) (row "slam_xy_m"),
      match (row "slam_dyaw_rad").map a.float with
      | some (.finite dyaw) => some dyaw
      | _ => none)

def geometricYaw (row : Row) : K := number a 0 ((present (row "dyaw")).or (row "estimated_yaw_rad"))

def yawConsistencyDeg (poses : List (ℤ × Pose K)) (row : Row) : K :=
  match (slamBetween a poses row).2 with
  | some dyaw => |a.degrees (a.wrapAngle (geometricYaw a row - dyaw))|
  | none => 999

structure Candidate (K : Type*) where
  candidateId : String
  queryIndex : ℤ
  matchIndex : ℤ
  rank : ℤ
  descriptorDistance : K
  geometricVerified : Bool
  geometricTranslationM : K
  geometricDxM : K
  geometricDyM : K
  geometricDyawRad : K
  slamDistanceM : K
  slamDyawRad : Option K
  yawConsistencyDeg : K
  detectorAccepted : Bool
  detectorRejectionReason : String
  checks : List (String × Bool)
  eligible : Bool
  failedChecks : List String

/-- A row of `audit_map_package`. -/
def auditRow (thresholds : Thresholds K) (poses : List (ℤ × Pose K)) (row : Row) : Candidate K :=
  let query := queryIndex a row
  let found := matchIndex a row
  let slam := slamBetween a poses row
  let yawConsistency := yawConsistencyDeg a poses row
  let translation := a.hypot (number a 0 (row "dx")) (number a 0 (row "dy"))
  let checks : List (String × Bool) :=
    [("rank", a.truncate (number a 999 (row "rank")) ≤ thresholds.maxRank),
      ("descriptor", number a 999 (row "distance") ≤ thresholds.descriptorDistanceMax),
      ("geometric_verified", boolean (row "geometric_verified")),
      ("geometric_translation", translation ≤ thresholds.geometricTranslationMaxM),
      ("slam_distance", thresholds.slamDistanceMinM ≤ slam.1 && slam.1 ≤ thresholds.slamDistanceMaxM),
      ("yaw_consistency", yawConsistency ≤ thresholds.yawConsistencyMaxDeg),
      ("unique_pair", (row "rejection_reason").getD "" ≠ "duplicate_pair")]
  let failed := (checks.filter fun check => !check.2).map Prod.fst
  { candidateId := toString query ++ ":" ++ toString found
    queryIndex := query
    matchIndex := found
    rank := a.truncate (number a 0 (row "rank"))
    descriptorDistance := a.round (number a 0 (row "distance")) 6
    geometricVerified := boolean (row "geometric_verified")
    geometricTranslationM := a.round translation 4
    geometricDxM := a.round (number a 0 (row "dx")) 4
    geometricDyM := a.round (number a 0 (row "dy")) 4
    geometricDyawRad := a.round (geometricYaw a row) 6
    slamDistanceM := a.round slam.1 4
    slamDyawRad := slam.2.map fun dyaw => a.round dyaw 6
    yawConsistencyDeg := a.round yawConsistency 3
    detectorAccepted := boolean (row "accepted")
    detectorRejectionReason := (row "rejection_reason").getD ""
    checks := checks
    eligible := failed.isEmpty
    failedChecks := failed }

structure Review (K : Type*) where
  status : String
  thresholds : Thresholds K
  keyframeCount : ℤ
  candidateCount : ℕ
  eligibleCount : ℕ
  detectorAcceptedCount : ℕ
  candidates : List (Candidate K)

def auditMapPackage (package : Package) (raw : String → Option (Parsed K)) : Except String (Review K) :=
  (normalizeThresholds a raw).map fun thresholds =>
    let poses := keyframePoses a package.keyframeRows
    let audited := package.candidateRows.map (auditRow a thresholds poses)
    { status := if audited.isEmpty then "no_candidates" else "review_ready"
      thresholds := thresholds
      -- a count of zero counts as none
      keyframeCount := (package.keyframeCount.filter (· ≠ 0)).getD (poses.map Prod.fst).dedup.length
      candidateCount := audited.length
      eligibleCount := (audited.filter Candidate.eligible).length
      detectorAcceptedCount := (audited.filter Candidate.detectorAccepted).length
      candidates := audited }

/-! ## The device -/

/-- A keyframe of the device, in what the audit uses of it; the numbers need not be finite here. -/
structure Keyframe (K : Type*) where
  lidarX : Parsed K
  lidarY : Parsed K
  yaw : Parsed K

/-- `float(cell or ... or fallback)` -/
def floatCell (cells : List (Option String)) (fallback : Parsed K) : Parsed K :=
  match (cells.filterMap present).head? with
  | none => fallback
  | some text => a.float text

/-- `math.sin(yaw / 2.0)`, in whether it is a number: an infinite yaw is a domain error. -/
def sineOfHalf (yaw : Parsed K) : Parsed K := if yaw = .infinite then .error else yaw

/-- A row of `_load_keyframes`: one cell that is no number, and the row is left out. -/
def loadKeyframe (row : Row) : Option (Keyframe K) :=
  let zero : Parsed K := .finite 0
  let lidarX := floatCell a [row "lidar_x", row "x"] zero
  let lidarY := floatCell a [row "lidar_y", row "y"] zero
  let lidarZ := floatCell a [row "lidar_z", row "z"] zero
  let yaw := floatCell a [row "yaw"] zero
  let qx := floatCell a [row "lidar_qx"] zero
  let qy := floatCell a [row "lidar_qy"] zero
  let qz := floatCell a [row "lidar_qz"] (sineOfHalf yaw)
  let qw := floatCell a [row "lidar_qw"] (sineOfHalf yaw)
  let others :=
    [floatCell a [row "stamp", row "timestamp"] zero, floatCell a [row "world_x"] lidarX,
      floatCell a [row "world_y"] lidarY, floatCell a [row "world_z"] lidarZ, floatCell a [row "world_qx"] qx,
      floatCell a [row "world_qy"] qy, floatCell a [row "world_qz"] qz, floatCell a [row "world_qw"] qw]
  if (intCell a (row "index")).isNone || .error ∈ [lidarX, lidarY, lidarZ, yaw, qx, qy, qz, qw] ++ others then none
  else some ⟨lidarX, lidarY, yaw⟩

def Package.deviceRow (package : Package) (row : Row) : Row :=
  fun column => if package.markedColumn = some column then none else row column

def loadKeyframes (package : Package) : List (Keyframe K) :=
  package.keyframeRows.filterMap fun row => loadKeyframe a (package.deviceRow row)

/-- The distance of two keyframes, where it is finite. -/
def keyframeDistance (left right : Keyframe K) : Option K :=
  match left.lidarX, right.lidarX, left.lidarY, right.lidarY with
  | .finite leftX, .finite rightX, .finite leftY, .finite rightY => some (a.hypot (leftX - rightX) (leftY - rightY))
  | _, _, _, _ => none

/-- `x or default` -/
def orDefault {M : Type} [Zero M] [DecidableEq M] (x default : M) : M := if x = 0 then default else x

structure Loop (K : Type*) where
  query : ℤ
  found : ℤ
  dx : K
  dy : K
  dyaw : K

/-- The endpoints and the threshold audit of one selected candidate. -/
def auditLoop (keyframes : List (Keyframe K)) (thresholds : Thresholds K) (candidate : Candidate K) :
    Except String (Loop K) :=
  let query := candidate.queryIndex
  let found := candidate.matchIndex
  let pair := toString query ++ ":" ++ toString found
  match keyframes[query.toNat]?, keyframes[found.toNat]? with
  | some left, some right =>
    if query < 0 ∨ found < 0 ∨ query = found then .error ("invalid reviewed loop endpoints: " ++ pair)
    else
      -- a distance that is not a number, or infinite, is in no range
      let inRange :=
        match keyframeDistance a left right with
        | none => false
        | some distance => thresholds.slamDistanceMinM ≤ distance && distance ≤ thresholds.slamDistanceMaxM
      let translation := a.hypot (orDefault candidate.geometricDxM 0) (orDefault candidate.geometricDyM 0)
      let checks : List Bool :=
        [orDefault candidate.rank 999 ≤ thresholds.maxRank,
          orDefault candidate.descriptorDistance 999 ≤ thresholds.descriptorDistanceMax,
          candidate.geometricVerified,
          translation ≤ thresholds.geometricTranslationMaxM,
          inRange,
          orDefault candidate.yawConsistencyDeg 999 ≤ thresholds.yawConsistencyMaxDeg,
          candidate.detectorRejectionReason ≠ "duplicate_pair"]
      if checks.all id then
        .ok
          { query := query
            found := found
            dx := orDefault candidate.geometricDxM 0
            dy := orDefault candidate.geometricDyM 0
            dyaw := orDefault candidate.geometricDyawRad 0 }
      else .error ("loop candidate failed device-side threshold audit: " ++ pair)
  | _, _ => .error ("invalid reviewed loop endpoints: " ++ pair)

/-- `optimize_reviewed_loop_closures`, up to the loops of the pose graph. -/
def auditReviewed (keyframes : List (Keyframe K)) (selected : List (Candidate K)) (thresholds : Thresholds K) :
    Except String (List (Loop K)) :=
  if keyframes.length < 2 then .error "offline optimization requires at least two keyframes"
  else if selected.isEmpty then .error "no reviewed loop candidates selected"
  -- the sequential constraints take the sine and the cosine of every yaw
  else if keyframes.any fun keyframe => keyframe.yaw = .infinite then .error "math domain error"
  else selected.mapM (auditLoop a keyframes thresholds)

/-! ## The two audits agree -/

/-- **What is eligible passes**: the device lets every selection of eligible candidates through. -/
def Agree (package : Package) (raw : String → Option (Parsed K)) : Prop :=
  ∀ review, auditMapPackage a package raw = .ok review → ∀ selected : List (Candidate K), selected ≠ [] →
    (∀ candidate ∈ selected, candidate ∈ review.candidates ∧ candidate.eligible = true) →
      ∃ loops, auditReviewed a (loadKeyframes a package) selected review.thresholds = .ok loops

/-- A row within the thresholds of the center. -/
structure Meets (thresholds : Thresholds K) (poses : List (ℤ × Pose K)) (row : Row) : Prop where
  rank : a.truncate (number a 999 (row "rank")) ≤ thresholds.maxRank
  descriptor : number a 999 (row "distance") ≤ thresholds.descriptorDistanceMax
  geometricVerified : boolean (row "geometric_verified") = true
  translation : a.hypot (number a 0 (row "dx")) (number a 0 (row "dy")) ≤ thresholds.geometricTranslationMaxM
  slamMin : thresholds.slamDistanceMinM ≤ (slamBetween a poses row).1
  slamMax : (slamBetween a poses row).1 ≤ thresholds.slamDistanceMaxM
  yaw : yawConsistencyDeg a poses row ≤ thresholds.yawConsistencyMaxDeg
  uniquePair : (row "rejection_reason").getD "" ≠ "duplicate_pair"

/-- The keyframes in two places of the device's list are there, and are in the range of the thresholds. -/
structure Placed (thresholds : Thresholds K) (keyframes : List (Keyframe K)) (query found : ℤ) : Prop where
  queryNonneg : 0 ≤ query
  foundNonneg : 0 ≤ found
  different : query ≠ found
  inRange : ∃ left right distance, keyframes[query.toNat]? = some left ∧ keyframes[found.toNat]? = some right ∧
    keyframeDistance a left right = some distance ∧
      thresholds.slamDistanceMinM ≤ distance ∧ distance ≤ thresholds.slamDistanceMaxM

/-- Rounded to `digits` the number is not zero and within the limit; a zero stands for 999. -/
def StaysWithin (x : K) (digits : ℕ) (limit : K) : Prop :=
  (a.round x digits ≠ 0 ∧ a.round x digits ≤ limit) ∨ (a.round x digits = 0 ∧ 999 ≤ limit)

/-- What the rounded fields and the list of the device keep of a row that is within the thresholds. -/
structure Survives (thresholds : Thresholds K) (poses : List (ℤ × Pose K)) (keyframes : List (Keyframe K)) (row : Row) :
    Prop where
  rank : a.truncate (number a 0 (row "rank")) ≠ 0 ∨ 999 ≤ thresholds.maxRank
  descriptor : StaysWithin a (number a 0 (row "distance")) 6 thresholds.descriptorDistanceMax
  translation : a.hypot (a.round (number a 0 (row "dx")) 4) (a.round (number a 0 (row "dy")) 4) ≤
    thresholds.geometricTranslationMaxM
  yaw : StaysWithin a (yawConsistencyDeg a poses row) 3 thresholds.yawConsistencyMaxDeg
  placed : Placed a thresholds keyframes (queryIndex a row) (matchIndex a row)

variable {a} {thresholds : Thresholds K} {poses : List (ℤ × Pose K)} {keyframes : List (Keyframe K)} {row : Row}

theorem eligible_iff : (auditRow a thresholds poses row).eligible = true ↔ Meets a thresholds poses row := by
  simp only [auditRow, List.isEmpty_map]
  rw [List.isEmpty_iff, List.filter_eq_nil_iff]
  simp only [List.forall_mem_cons, Bool.not_eq_true', Bool.not_eq_false, decide_eq_true_eq, Bool.and_eq_true]
  constructor
  · rintro ⟨hrank, hdescriptor, hverified, htranslation, ⟨hmin, hmax⟩, hyaw, hpair, -⟩
    exact ⟨hrank, hdescriptor, hverified, htranslation, hmin, hmax, hyaw, hpair⟩
  · rintro ⟨hrank, hdescriptor, hverified, htranslation, hmin, hmax, hyaw, hpair⟩
    exact ⟨hrank, hdescriptor, hverified, htranslation, ⟨hmin, hmax⟩, hyaw, hpair, nofun⟩

theorem orDefault_le_iff {x limit : K} {digits : ℕ} :
    orDefault (a.round x digits) 999 ≤ limit ↔ StaysWithin a x digits limit := by
  unfold orDefault StaysWithin
  split_ifs with h
  · simp [h]
  · simp [h]

@[simp] theorem orDefault_zero (x : K) : orDefault x 0 = x := by
  unfold orDefault
  split_ifs with h
  · exact h.symm
  · rfl

theorem exists_auditLoop_iff {candidate : Candidate K} :
    (∃ loop, auditLoop a keyframes thresholds candidate = .ok loop) ↔
      Placed a thresholds keyframes candidate.queryIndex candidate.matchIndex ∧
        orDefault candidate.rank 999 ≤ thresholds.maxRank ∧
        orDefault candidate.descriptorDistance 999 ≤ thresholds.descriptorDistanceMax ∧
        candidate.geometricVerified = true ∧
        a.hypot candidate.geometricDxM candidate.geometricDyM ≤ thresholds.geometricTranslationMaxM ∧
        orDefault candidate.yawConsistencyDeg 999 ≤ thresholds.yawConsistencyMaxDeg ∧
        candidate.detectorRejectionReason ≠ "duplicate_pair" := by
  unfold auditLoop
  simp only [orDefault_zero]
  constructor
  · rintro ⟨loop, hloop⟩
    split at hloop
    case h_2 => exact nomatch hloop
    case h_1 left right hleft hright =>
      split_ifs at hloop with hends hchecks
      obtain ⟨hquery, hfound, hdifferent⟩ := not_or.mp hends |>.imp_right not_or.mp
      simp only [List.all_cons, List.all_nil, Bool.and_true, Bool.and_eq_true, id_eq, decide_eq_true_eq] at hchecks
      obtain ⟨hrank, hdescriptor, hverified, htranslation, hrange, hyaw, hpair⟩ := hchecks
      refine ⟨⟨not_lt.mp hquery, not_lt.mp hfound, hdifferent, ?_⟩, hrank, hdescriptor, hverified, htranslation, hyaw,
        hpair⟩
      cases hdistance : keyframeDistance a left right with
      | none => simp [hdistance] at hrange
      | some distance =>
        simp only [hdistance, Bool.and_eq_true, decide_eq_true_eq] at hrange
        exact ⟨left, right, distance, hleft, hright, hdistance, hrange⟩
  · rintro ⟨⟨hquery, hfound, hdifferent, left, right, distance, hleft, hright, hdistance, hmin, hmax⟩, hrank, hdescriptor,
      hverified, htranslation, hyaw, hpair⟩
    have hends : ¬ (candidate.queryIndex < 0 ∨ candidate.matchIndex < 0 ∨
        candidate.queryIndex = candidate.matchIndex) :=
      not_or.mpr ⟨not_lt.mpr hquery, not_or.mpr ⟨not_lt.mpr hfound, hdifferent⟩⟩
    simp only [hleft, hright, hends, if_false, hdistance, hrank, hdescriptor, hverified, htranslation, hmin, hmax, hyaw,
      decide_true, Bool.and_self, List.all_cons, List.all_nil, id_eq]
    simp [hpair]

omit [LinearOrder K] in
theorem number_eq_or (x y : K) (cell : Option String) :
    number a x cell = number a y cell ∨ (number a x cell = x ∧ number a y cell = y) := by
  cases cell with
  | none => exact Or.inr ⟨rfl, rfl⟩
  | some text =>
    simp only [number]
    cases a.float text with
    | finite => exact Or.inl rfl
    | error | nan | infinite => exact Or.inr ⟨rfl, rfl⟩

theorem rank_le_iff (h : Meets a thresholds poses row) :
    orDefault (a.truncate (number a 0 (row "rank"))) 999 ≤ thresholds.maxRank ↔
      a.truncate (number a 0 (row "rank")) ≠ 0 ∨ 999 ≤ thresholds.maxRank := by
  unfold orDefault
  split_ifs with hzero
  · simp [hzero]
  · have hsame : number a 999 (row "rank") = number a 0 (row "rank") := by
      rcases number_eq_or (a := a) 999 0 (row "rank") with heq | ⟨-, heq⟩
      · exact heq
      · rw [heq] at hzero
        exact absurd (by simpa using a.truncate_intCast 0) hzero
    have hrank := h.rank
    rw [hsame] at hrank
    exact iff_of_true hrank (Or.inl hzero)

theorem exists_auditLoop_auditRow_iff (h : Meets a thresholds poses row) :
    (∃ loop, auditLoop a keyframes thresholds (auditRow a thresholds poses row) = .ok loop) ↔
      Survives a thresholds poses keyframes row := by
  rw [exists_auditLoop_iff]
  constructor
  · rintro ⟨hplaced, hrank, hdescriptor, -, htranslation, hyaw, -⟩
    exact ⟨(rank_le_iff h).mp hrank, orDefault_le_iff.mp hdescriptor, htranslation, orDefault_le_iff.mp hyaw, hplaced⟩
  · rintro ⟨hrank, hdescriptor, htranslation, hyaw, hplaced⟩
    exact ⟨hplaced, (rank_le_iff h).mpr hrank, orDefault_le_iff.mpr hdescriptor, h.geometricVerified, htranslation,
      orDefault_le_iff.mpr hyaw, h.uniquePair⟩

theorem exists_auditReviewed_iff {selected : List (Candidate K)} (hne : selected ≠ []) :
    (∃ loops, auditReviewed a keyframes selected thresholds = .ok loops) ↔
      2 ≤ keyframes.length ∧ (∀ keyframe ∈ keyframes, keyframe.yaw ≠ .infinite) ∧
        ∀ candidate ∈ selected, ∃ loop, auditLoop a keyframes thresholds candidate = .ok loop := by
  unfold auditReviewed
  split_ifs with hfew hempty hinfinite
  · exact iff_of_false nofun fun h => absurd h.1 (not_le.mpr hfew)
  · exact absurd (List.isEmpty_iff.mp hempty) hne
  · refine iff_of_false nofun fun h => ?_
    obtain ⟨keyframe, hmem, hyaw⟩ := List.any_eq_true.mp hinfinite
    exact h.2.1 keyframe hmem (of_decide_eq_true hyaw)
  · rw [Excepts.exists_mapM_iff]
    refine ⟨fun h => ⟨not_lt.mp hfew, fun keyframe hmem hyaw => ?_, h⟩, fun h => h.2.2⟩
    exact hinfinite (List.any_eq_true.mpr ⟨keyframe, hmem, decide_eq_true hyaw⟩)

theorem Placed.two_le_length {query found : ℤ} (h : Placed a thresholds keyframes query found) :
    2 ≤ keyframes.length := by
  obtain ⟨hquery, hfound, hdifferent, left, right, -, hleft, hright, -⟩ := h
  have hltQuery := (List.getElem?_eq_some_iff.mp hleft).1
  have hltFound := (List.getElem?_eq_some_iff.mp hright).1
  omega

variable (a)

/-- **When the audits agree**: exactly where each row within the thresholds of the center survives its rounding and has
its keyframes in their places. -/
theorem reviews_agree_iff (package : Package) (raw : String → Option (Parsed K)) :
    Agree a package raw ↔ ∀ thresholds, normalizeThresholds a raw = .ok thresholds → ∀ row ∈ package.candidateRows,
      Meets a thresholds (keyframePoses a package.keyframeRows) row →
        Survives a thresholds (keyframePoses a package.keyframeRows) (loadKeyframes a package) row ∧
          ∀ keyframe ∈ loadKeyframes a package, keyframe.yaw ≠ .infinite := by
  constructor
  · intro h thresholds hthresholds row hrow hmeets
    -- a selection of the one candidate
    obtain ⟨loops, hloops⟩ := h _ (by rw [auditMapPackage, hthresholds]; rfl)
      [auditRow a thresholds (keyframePoses a package.keyframeRows) row] (List.cons_ne_nil _ _) fun candidate hmem => by
        rw [List.mem_singleton.mp hmem]
        exact ⟨List.mem_map_of_mem hrow, eligible_iff.mpr hmeets⟩
    obtain ⟨-, hyaws, hpasses⟩ := (exists_auditReviewed_iff (List.cons_ne_nil _ _)).mp ⟨loops, hloops⟩
    exact ⟨(exists_auditLoop_auditRow_iff hmeets).mp (hpasses _ (List.mem_singleton_self _)), hyaws⟩
  · intro h review hreview selected hne hselected
    unfold auditMapPackage at hreview
    cases hthresholds : normalizeThresholds a raw with
    | error => rw [hthresholds] at hreview; exact nomatch hreview
    | ok thresholds =>
      rw [hthresholds] at hreview
      obtain rfl := Except.ok.inj hreview
      have hrow : ∀ candidate ∈ selected, ∃ row ∈ package.candidateRows,
          auditRow a thresholds (keyframePoses a package.keyframeRows) row = candidate ∧
            Meets a thresholds (keyframePoses a package.keyframeRows) row := fun candidate hmem => by
        obtain ⟨hcandidate, heligible⟩ := hselected candidate hmem
        obtain ⟨row, hrow, rfl⟩ := List.mem_map.mp hcandidate
        exact ⟨row, hrow, rfl, eligible_iff.mp heligible⟩
      obtain ⟨first, hfirst⟩ := List.exists_mem_of_ne_nil _ hne
      obtain ⟨row, hmem, -, hmeets⟩ := hrow first hfirst
      obtain ⟨hsurvives, hyaws⟩ := h thresholds hthresholds row hmem hmeets
      refine (exists_auditReviewed_iff hne).mpr ⟨hsurvives.placed.two_le_length, hyaws, fun candidate hcandidate => ?_⟩
      obtain ⟨row, hmem, rfl, hmeets⟩ := hrow candidate hcandidate
      exact (exists_auditLoop_auditRow_iff hmeets).mpr (h thresholds hthresholds row hmem hmeets).1

/-! ## A perfect match -/

def digitsValue (digits : List Char) : ℕ := digits.foldl (fun n c => 10 * n + (c.toNat - '0'.toNat)) 0

/-- Decimals are read and rounded, lengths are taken along the axes, and angles are small. -/
def decimals : Arithmetic ℚ where
  float text :=
    let whole := text.toList.takeWhile Char.isDigit
    match text.toList.dropWhile Char.isDigit with
    | [] => if whole = [] then .error else .finite (digitsValue whole)
    | '.' :: fraction =>
      if fraction.all Char.isDigit then .finite (digitsValue (whole ++ fraction) / 10 ^ fraction.length) else .error
    | _ => .error
  int text := if text.toList.all Char.isDigit then some (digitsValue text.toList) else none
  truncate x := x.num.tdiv x.den
  truncate_intCast n := by simp
  hypot x y := |x| + |y|
  wrapAngle x := x
  degrees x := x * 180 * 113 / 355
  round x digits := round (x * 10 ^ digits) / 10 ^ digits

/-- The row of a file with these columns. -/
def rowOf (cells : List (String × String)) : Row := fun column => cells.lookup column

/-- Two keyframes five metres apart, and a match between them without any turn. -/
def perfectMatch : Package where
  candidateRows := [rowOf [("query_index", "1"), ("match_index", "0"), ("rank", "1"), ("distance", "0.12"),
    ("estimated_yaw_rad", "0.0"), ("geometric_verified", "True"), ("accepted", "True"), ("rejection_reason", ""),
    ("dx", "0.2"), ("dy", "0.0"), ("dyaw", "0.0")]]
  keyframeRows := [rowOf [("index", "0"), ("lidar_x", "0"), ("lidar_y", "0"), ("yaw", "0")],
    rowOf [("index", "1"), ("lidar_x", "5"), ("lidar_y", "0"), ("yaw", "0")]]
  markedColumn := none
  keyframeCount := some 2

/-- The center finds the match eligible, and the device takes its yaw consistency of zero for 999 degrees. -/
theorem not_agree_perfectMatch : ¬ Agree decimals perfectMatch fun _ => none := by
  intro h
  have hruns : (match auditMapPackage decimals perfectMatch fun _ => none with
      | .error _ => false
      | .ok review => !review.candidates.isEmpty && review.candidates.all Candidate.eligible &&
          !(auditReviewed decimals (loadKeyframes decimals perfectMatch) review.candidates review.thresholds).isOk) =
      true := by
    decide +kernel
  cases hreview : auditMapPackage decimals perfectMatch fun _ => none with
  | error => simp [hreview] at hruns
  | ok review =>
    simp only [hreview, Bool.and_eq_true, Bool.not_eq_true', List.all_eq_true] at hruns
    obtain ⟨⟨hsome, heligible⟩, hrefused⟩ := hruns
    obtain ⟨loops, hloops⟩ := h review hreview review.candidates (fun hnil => by simp [hnil] at hsome)
      fun candidate hmem => ⟨hmem, heligible candidate hmem⟩
    rw [hloops] at hrefused
    exact nomatch hrefused

end LoopReview

end RoamerX
