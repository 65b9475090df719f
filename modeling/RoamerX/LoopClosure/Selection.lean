import Mathlib
import RoamerX.LoopClosure.LidarFrame
import RoamerX.LoopClosure.YawSign
import RoamerX.Lib.StableFirst
import RoamerX.Lib.Numerals

set_option autoImplicit false

/-! # The selection of loops

`finalize_loop_closure` of `map_loop_closure.py`, as far as it selects loops: it verifies the candidates of every
keyframe, accepts some of them, gives the others a reason, and keeps the nearest thirty. -/

noncomputable section

namespace RoamerX

open scoped Numerals

namespace LoopSelection

open Classical Real ScanContext

def acceptDistance : ℝ := 0.30

/-- `GEOM_YAW_LIMIT_RAD` -/
def geomYawLimit : ℝ := 0.6

/-- `LOOP_MIN_SLAM_XY_M` -/
def loopMinSlamXy : ℝ := 2

/-- `LOOP_MAX_SLAM_XY_M` -/
def loopMaxSlamXy : ℝ := 20

def maxAcceptedLoops : ℕ := 30

/-- A keyframe with its cloud, in the frame of the world. -/
structure LoopKeyframe where
  pose : LidarFrame.Keyframe ℝ
  yaw : ℝ
  cloud : List (ℝ × ℝ × ℝ)

def LoopKeyframe.lidarCloud (k : LoopKeyframe) : Cloud :=
  (LidarFrame.worldToLidarFrame Real.sqrt k.cloud k.pose).map fun (x, y, z) => ⟨x, y, z⟩

/-! ## Angles and numbers -/

/-- `while angle < -math.pi: angle += 2.0 * math.pi` -/
def wrapUp (angle : ℝ) : ℝ := if angle < -π then wrapUp (angle + 2 * π) else angle
termination_by ⌈-angle⌉₊
decreasing_by
  have hpi := two_le_pi
  have hle : ⌈-(angle + 2 * π)⌉₊ ≤ ⌈-angle - 1⌉₊ := Nat.ceil_mono (by linarith)
  have hpos : 0 < ⌈-angle⌉₊ := Nat.ceil_pos.mpr (by linarith)
  rw [Nat.ceil_sub_one] at hle
  omega

def wrapAngle (angle : ℝ) : ℝ := wrapUp (ScanContextDatabase.wrapDown angle)

/-- The nearest integer, the even one of two. -/
def roundHalfEven (x : ℝ) : ℤ :=
  if x - ⌊x⌋ < 1 / 2 then ⌊x⌋
  else if 1 / 2 < x - ⌊x⌋ then ⌊x⌋ + 1
  else if ⌊x⌋ % 2 = 0 then ⌊x⌋ else ⌊x⌋ + 1

/-- `round(x, digits)` -/
def roundTo (digits : ℕ) (x : ℝ) : ℝ := roundHalfEven (x * 10 ^ digits) / 10 ^ digits

def slamRelativeXyYaw (query matched : LoopKeyframe) : ℝ × ℝ :=
  let dx := matched.pose.lidarX - query.pose.lidarX
  let dy := matched.pose.lidarY - query.pose.lidarY
  let localX := cos query.yaw * dx + sin query.yaw * dy
  let localY := -sin query.yaw * dx + cos query.yaw * dy
  (Plane.radius (localX, localY), wrapAngle (matched.yaw - query.yaw))

/-! ## One candidate -/

/-- The values of `rejection_reason`. -/
inductive RejectionReason
  | none
  | notTopRank
  | descriptorDistance
  | geometricVerification
  | slamDistanceTooNear
  | slamDistanceTooFar
  | rejectedOther
  | duplicatePair
  | acceptedLoopLimit
  deriving DecidableEq

def RejectionReason.text : RejectionReason → String
  | .none => ""
  | .notTopRank => "not_top_rank"
  | .descriptorDistance => "descriptor_distance"
  | .geometricVerification => "geometric_verification"
  | .slamDistanceTooNear => "slam_distance_too_near"
  | .slamDistanceTooFar => "slam_distance_too_far"
  | .rejectedOther => "rejected_other"
  | .duplicatePair => "duplicate_pair"
  | .acceptedLoopLimit => "accepted_loop_limit"

def shouldAcceptLoop (rank : ℕ) (distance : ℝ) (geom : Verified) (slamXy slamDyaw : ℝ) : Bool :=
  if rank ≠ 1 ∨ geom.ok = false ∨ acceptDistance < distance then false
  else if slamXy < loopMinSlamXy ∨ loopMaxSlamXy < slamXy then false
  else if geomYawLimit < |wrapAngle (geom.dyaw - slamDyaw)| then false
  else if geomXyLimit < Plane.radius (geom.dx, geom.dy) then false
  else true

def loopRejectionReason (rank : ℕ) (distance : ℝ) (geomOk : Bool) (slamXy : ℝ) : RejectionReason :=
  if rank ≠ 1 then .notTopRank
  else if acceptDistance ≤ distance then .descriptorDistance
  else if geomOk = false then .geometricVerification
  else if slamXy < loopMinSlamXy then .slamDistanceTooNear
  else if loopMaxSlamXy < slamXy then .slamDistanceTooFar
  else .rejectedOther

/-- A row of `loop_candidates.csv`. -/
structure Row where
  queryIndex : ℕ
  matchIndex : ℕ
  rank : ℕ
  distance : ℝ
  estimatedYawRad : ℝ
  geometricVerified : Bool
  accepted : Bool
  rejectionReason : RejectionReason
  dx : ℝ
  dy : ℝ
  dyaw : ℝ

/-- `(min(query_index, match_index), max(query_index, match_index))` -/
def pairOf (queryIndex matchIndex : ℕ) : ℕ × ℕ := (min queryIndex matchIndex, max queryIndex matchIndex)

structure LoopState where
  candidates : List Row := []
  accepted : List Row := []
  seenPairs : List (ℕ × ℕ) := []

variable (keyframes : List LoopKeyframe)

def lidarClouds : List Cloud := keyframes.map LoopKeyframe.lidarCloud

/-- `keyframes[index]`, which is there for every index of a candidate. -/
def keyframeAt (index : ℕ) : LoopKeyframe :=
  keyframes.getD index { pose := ⟨0, 0, 0, 0, 0, 0, 0⟩, yaw := 0, cloud := [] }

/-- `_geometric_verify` of a candidate. -/
def verify (queryIndex : ℕ) (candidate : Candidate) : Verified :=
  geometricVerify (keyframeAt keyframes queryIndex).lidarCloud
    (keyframeAt keyframes candidate.matchIndex).lidarCloud candidate.yaw

/-- `slam_xy` and `slam_dyaw` of a candidate. -/
def slamOf (queryIndex : ℕ) (candidate : Candidate) : ℝ × ℝ :=
  slamRelativeXyYaw (keyframeAt keyframes queryIndex) (keyframeAt keyframes candidate.matchIndex)

/-- `accepted_loop`, before the pair is looked up. -/
def acceptable (queryIndex rank : ℕ) (candidate : Candidate) : Bool :=
  shouldAcceptLoop rank candidate.distance (verify keyframes queryIndex candidate)
    (slamOf keyframes queryIndex candidate).1 (slamOf keyframes queryIndex candidate).2

/-- The row of a candidate, whose pair was accepted before or not. -/
def rowOf (queryIndex rank : ℕ) (candidate : Candidate) (seen : Bool) : Row :=
  let geom := verify keyframes queryIndex candidate
  let acceptedLoop := acceptable keyframes queryIndex rank candidate
  { queryIndex := queryIndex
    matchIndex := candidate.matchIndex
    rank := rank
    distance := roundTo 6 candidate.distance
    estimatedYawRad := roundTo 6 candidate.yaw
    geometricVerified := geom.ok
    accepted := acceptedLoop && !seen
    rejectionReason :=
      if acceptedLoop && seen then .duplicatePair
      else if acceptedLoop then .none
      else loopRejectionReason rank candidate.distance geom.ok (slamOf keyframes queryIndex candidate).1
    dx := roundTo 4 geom.dx
    dy := roundTo 4 geom.dy
    dyaw := roundTo 6 geom.dyaw }

/-- One candidate of `finalize_loop_closure`. -/
def addCandidate (queryIndex : ℕ) (s : LoopState) (ranked : Candidate × ℕ) : LoopState :=
  let (candidate, rank) := ranked
  let pair := pairOf queryIndex candidate.matchIndex
  let row := rowOf keyframes queryIndex rank candidate (decide (pair ∈ s.seenPairs))
  { candidates := s.candidates ++ [row]
    accepted := if row.accepted then s.accepted ++ [row] else s.accepted
    seenPairs := if row.accepted then pair :: s.seenPairs else s.seenPairs }

/-- The candidates of one keyframe, ranked from 1. -/
def addQuery (s : LoopState) (queryIndex : ℕ) : Except IndexError LoopState := do
  let ranked ← loopCandidates (lidarClouds keyframes) queryIndex
  pure ((ranked.zipIdx 1).foldl (addCandidate keyframes queryIndex) s)

def detectLoops : Except IndexError LoopState := (List.range keyframes.length).foldlM (addQuery keyframes) {}

/-- The candidates and the accepted loops of `finalize_loop_closure` in the end. -/
structure Selection where
  candidates : List Row
  accepted : List Row

def limitLoops (s : LoopState) : Selection :=
  let accepted := StableFirst.sorted Row.distance s.accepted
  if maxAcceptedLoops < accepted.length then
    let kept := (accepted.take maxAcceptedLoops).map fun row => (row.queryIndex, row.matchIndex)
    { candidates := s.candidates.map fun row =>
        if row.accepted ∧ (row.queryIndex, row.matchIndex) ∉ kept then
          { row with accepted := false, rejectionReason := .acceptedLoopLimit }
        else row
      accepted := accepted.take maxAcceptedLoops }
  else { candidates := s.candidates, accepted := accepted }

def finalizeLoopClosure : Except IndexError Selection := do
  let s ← detectLoops keyframes
  pure (limitLoops s)

end LoopSelection

end RoamerX

end
