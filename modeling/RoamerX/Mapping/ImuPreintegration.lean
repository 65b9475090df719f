import Mathlib
import RoamerX.Lib.Run

set_option autoImplicit false

/-! # IMU data between keyframes

A sample of the IMU is integrated when the next one moves the time on, and `captureImuPreintegration` hands what was
integrated since the keyframe before to the new one. Vectors are those of any space over exact time, on which the
rotations act. -/

namespace RoamerX

namespace ImuPreintegration

structure Sample (V : Type*) where
  t : ℚ
  acc : V
  gyro : V

structure Measurement (V : Type*) where
  deltaT : ℚ
  acceleration : V
  angularVelocity : V

structure Biases (V : Type*) where
  ba : V
  bg : V

structure Deltas (M V : Type*) where
  dR : M
  dv : V
  dp : V
  /-- The diagonal of the covariance, block by block. -/
  cov : Fin 5 → ℚ

/-- `Exp`, and the parameters of the IMU. -/
structure Imu (M V : Type*) where
  exp : V → ℚ → M
  accelerationScale : ℚ
  accCov : ℚ
  gyrCov : ℚ
  bAccCov : ℚ
  bGyrCov : ℚ

structure State (M V : Type*) where
  hasPrevKeyframe : Bool
  hasSample : Bool
  start : ℚ
  last : Sample V
  biases : Biases V
  deltas : Deltas M V
  measurements : List (Measurement V)
  samples : ℕ
  error : String

structure Snapshot (M V : Type*) where
  startTimestamp : ℚ
  endTimestamp : ℚ
  deltaT : ℚ
  deltas : Deltas M V
  biases : Biases V
  imuSampleCount : ℕ
  measurements : List (Measurement V)
  errorStatus : String

/-! ## Chains of samples -/

section Chain

variable {V : Type*}

/-- What the sample before measured, until this one. -/
def Sample.until (x y : Sample V) : Measurement V := ⟨y.t - x.t, x.acc, x.gyro⟩

def maxDt : ℚ := 1 / 4

/-- The time never goes back, and nowhere jumps. -/
def Gapless (xs : List (Sample V)) : Prop := xs.IsChain fun x y => x.t ≤ y.t ∧ y.t - x.t ≤ maxDt

/-- What the samples measured, each until the time moved on. -/
@[simp] def intervalsFrom (x : Sample V) : List (Sample V) → List (Measurement V)
  | [] => []
  | y :: ys => if x.t < y.t then x.until y :: intervalsFrom y ys else intervalsFrom x ys

def intervals : List (Sample V) → List (Measurement V)
  | [] => []
  | x :: xs => intervalsFrom x xs

theorem gapless_cons {x y : Sample V} {ys : List (Sample V)} :
    Gapless (x :: y :: ys) ↔ (x.t ≤ y.t ∧ y.t - x.t ≤ maxDt) ∧ Gapless (y :: ys) :=
  List.isChain_cons_cons

theorem gapless_congr {x y : Sample V} (h : x.t = y.t) (ys : List (Sample V)) :
    Gapless (x :: ys) ↔ Gapless (y :: ys) := by
  cases ys with
  | nil => simp [Gapless]
  | cons z zs => rw [gapless_cons, gapless_cons, h]

end Chain

/-! ## The integration -/

variable {M V : Type*} [AddCommGroup V] [Module ℚ V] [Monoid M] [DistribMulAction M V]

def Deltas.identity : Deltas M V := ⟨1, 0, 0, 0⟩

variable (imu : Imu M V)

def integrate (b : Biases V) (d : Deltas M V) (m : Measurement V) : Deltas M V where
  dR := d.dR * imu.exp (m.angularVelocity - b.bg) m.deltaT
  dv := d.dv + m.deltaT • d.dR • (m.acceleration - b.ba)
  dp := d.dp + (m.deltaT • d.dv + (m.deltaT ^ 2 / 2) • d.dR • (m.acceleration - b.ba))
  cov := d.cov + ![imu.gyrCov ^ 2 * m.deltaT, imu.accCov ^ 2 * m.deltaT, imu.accCov ^ 2 * m.deltaT ^ 3,
    imu.bAccCov ^ 2 * m.deltaT, imu.bGyrCov ^ 2 * m.deltaT]

def Sample.calibrated (x : Sample V) : Sample V := { x with acc := imu.accelerationScale • x.acc }

/-- The first error of a keyframe is kept. -/
def noteGap (error : String) (dt : ℚ) : String := if maxDt < dt ∧ error = "" then "imu_gap" else error

/-- `accumulateImuPreintegration` of a sample that is calibrated. -/
def accumulate (b : Biases V) (s : State M V) (x : Sample V) : State M V :=
  if s.hasSample = true then
    if x.t < s.last.t then
      { s with error := "time_rollback", samples := 0, deltas := .identity, last := x, measurements := [] }
    else if x.t ≤ s.last.t then s
    else
      { s with
        error := noteGap s.error (x.t - s.last.t)
        deltas := integrate imu s.biases s.deltas (s.last.until x)
        measurements := s.measurements ++ [s.last.until x]
        samples := s.samples + 1
        last := x }
  else { s with start := if 0 < s.start then s.start else x.t, last := x, hasSample := true, biases := b }

/-- `captureImuPreintegration`: the snapshot of the keyframe. -/
def State.snapshot (s : State M V) (stamp : ℚ) : Snapshot M V where
  startTimestamp := s.start
  endTimestamp := stamp
  deltaT := stamp - s.start
  deltas := s.deltas
  biases := s.biases
  imuSampleCount := s.samples
  measurements := s.measurements
  errorStatus :=
    if s.hasPrevKeyframe = false then "no_previous_keyframe"
    else if s.error ≠ "" then s.error
    else if s.samples = 0 then "empty_interval"
    else ""

/-- `captureImuPreintegration`: what it leaves. -/
def State.captured (s : State M V) (stamp : ℚ) (b : Biases V) : State M V :=
  { s with
    hasPrevKeyframe := true, start := stamp, deltas := .identity, measurements := [], samples := 0, error := "",
    biases := b }

/-- `resetImuPreintegration`. -/
def reset (start : ℚ) : State M V := ⟨false, false, start, ⟨start, 0, 0⟩, ⟨0, 0⟩, .identity, [], 0, ""⟩

inductive Event (V : Type*)
  | sample (b : Biases V) (x : Sample V)
  | capture (stamp : ℚ) (b : Biases V)
  | reset (start : ℚ)

def step (s : State M V) : Event V → State M V
  | .sample b x => accumulate imu b s (x.calibrated imu)
  | .capture stamp b => s.captured stamp b
  | .reset start => reset start

/-! ## Deltas and measurements -/

/-- The measurements say what was integrated. -/
structure Agrees (s : State M V) : Prop where
  samples : s.samples = s.measurements.length
  deltas : s.deltas = s.measurements.foldl (integrate imu s.biases) .identity
  fresh : s.hasSample = false → s.measurements = []

variable {imu} {s : State M V}

theorem agrees_reset (start : ℚ) : Agrees imu (reset start : State M V) := ⟨rfl, rfl, fun _ => rfl⟩

theorem agrees_captured (stamp : ℚ) (b : Biases V) : Agrees imu (s.captured stamp b) := ⟨rfl, rfl, fun _ => rfl⟩

theorem Agrees.accumulate (h : Agrees imu s) (b : Biases V) (x : Sample V) : Agrees imu (accumulate imu b s x) := by
  unfold ImuPreintegration.accumulate
  split
  · next hsample =>
    have hnever : s.hasSample ≠ false := by simp [hsample]
    split_ifs with hback hsame
    · exact ⟨rfl, rfl, fun _ => rfl⟩
    · exact h
    · refine ⟨?_, ?_, fun hnone => absurd hnone hnever⟩
      · simp [h.samples]
      · simp [h.deltas]
  · next hsample =>
    have hnone : s.measurements = [] := h.fresh (by simpa using hsample)
    have hdeltas := h.deltas
    refine ⟨h.samples, ?_, fun _ => hnone⟩
    rw [hnone] at hdeltas
    simpa [hnone] using hdeltas

theorem Agrees.exec (h : Agrees imu s) (events : List (Event V)) : Agrees imu (Run.exec (step imu) s events) := by
  refine Run.exec_invariant (Agrees imu) (fun s event hs => ?_) h events
  cases event with
  | sample b x => exact hs.accumulate b _
  | capture stamp b => exact agrees_captured stamp b
  | reset start => exact agrees_reset start

/-- **A keyframe stores what its measurements say**, in every run of samples, keyframes and resets: its deltas are those
of its measurements under its biases, and its count is theirs. -/
theorem snapshot_agrees (imu : Imu M V) (start stamp : ℚ) (events : List (Event V)) :
    let snapshot := (Run.exec (step imu) (reset start) events).snapshot stamp
    snapshot.imuSampleCount = snapshot.measurements.length ∧
      snapshot.deltas = snapshot.measurements.foldl (integrate imu snapshot.biases) .identity :=
  have h := (agrees_reset start).exec events
  ⟨h.samples, h.deltas⟩

/-! ## Completeness -/

theorem noteGap_eq_empty {error : String} {dt : ℚ} : noteGap error dt = "" ↔ error = "" ∧ dt ≤ maxDt := by
  unfold noteGap
  by_cases hgap : maxDt < dt
  · by_cases herror : error = "" <;> simp [herror, not_le.mpr hgap]
  · simp [hgap, not_lt.mp hgap]

def fed (imu : Imu M V) (s : State M V) (xs : List (Biases V × Sample V)) : State M V :=
  Run.exec (step imu) s (xs.map fun x => .sample x.1 x.2)

theorem fed_cons (x : Biases V × Sample V) (xs : List (Biases V × Sample V)) :
    fed imu s (x :: xs) = fed imu (accumulate imu x.1 s (x.2.calibrated imu)) xs := rfl

def Imu.samples (imu : Imu M V) (xs : List (Biases V × Sample V)) : List (Sample V) :=
  xs.map fun x => x.2.calibrated imu

/-- The samples after the last one, one by one. -/
theorem fed_spec (xs : List (Biases V × Sample V)) (hsample : s.hasSample = true) :
    ((fed imu s xs).error = "" ↔ s.error = "" ∧ Gapless (s.last :: imu.samples xs)) ∧
      (Gapless (s.last :: imu.samples xs) →
        (fed imu s xs).measurements = s.measurements ++ intervalsFrom s.last (imu.samples xs)) := by
  induction xs generalizing s with
  | nil => simp [fed, Run.exec, Imu.samples, Gapless]
  | cons x xs ih =>
    obtain ⟨b, x⟩ := x
    rw [show imu.samples ((b, x) :: xs) = x.calibrated imu :: imu.samples xs from rfl, gapless_cons]
    generalize hy : x.calibrated imu = y
    simp only [fed_cons, hy, accumulate, hsample, if_true, intervalsFrom]
    rcases lt_trichotomy y.t s.last.t with hback | hsame | hon
    · have hnot : ¬ s.last.t ≤ y.t := not_le.mpr hback
      simp [hback, hnot, ih]
    · have hzero : 0 ≤ maxDt := by norm_num [maxDt]
      rw [gapless_congr hsame]
      simpa [hsame, hzero, ih, hsample] using (ih hsample).2
    · rw [if_neg hon.not_gt, if_neg hon.not_ge, if_pos hon, (ih rfl).1, noteGap_eq_empty]
      refine ⟨?_, fun hgapless => ?_⟩
      · simp only [hon.le, true_and, and_assoc]
      · rw [(ih rfl).2 hgapless.2, List.append_assoc, List.singleton_append]

theorem fed_hasPrevKeyframe (xs : List (Biases V × Sample V)) :
    (fed imu s xs).hasPrevKeyframe = s.hasPrevKeyframe := by
  induction xs generalizing s with
  | nil => rfl
  | cons x xs ih =>
    rw [fed_cons, ih]
    unfold accumulate
    split_ifs <;> rfl

/-- The sample that the first interval starts at, where there is one yet. -/
def State.chain (s : State M V) : List (Sample V) := if s.hasSample then [s.last] else []

/-- After a keyframe, what was integrated is what the samples measured, from the one before the keyframe on. -/
theorem fed_captured (stamp : ℚ) (b : Biases V) (xs : List (Biases V × Sample V)) :
    ((fed imu (s.captured stamp b) xs).error = "" ↔ Gapless (s.chain ++ imu.samples xs)) ∧
      (Gapless (s.chain ++ imu.samples xs) →
        (fed imu (s.captured stamp b) xs).measurements = intervals (s.chain ++ imu.samples xs)) := by
  unfold State.chain
  cases hsample : s.hasSample with
  | true => simpa [State.captured, intervals] using fed_spec (s := s.captured stamp b) xs hsample
  | false =>
    cases xs with
    | nil => simp [fed, Run.exec, Imu.samples, State.captured, intervals, Gapless]
    | cons x xs =>
      -- the first sample of all only starts the chain
      let first := accumulate imu x.1 (s.captured stamp b) (x.2.calibrated imu)
      have hfirst : first.hasSample = true ∧ first.last = x.2.calibrated imu ∧ first.error = "" ∧
          first.measurements = [] := by
        simp [first, accumulate, State.captured, hsample]
      obtain ⟨hstarted, hlast, herror, hnone⟩ := hfirst
      have h := @fed_spec _ _ _ _ _ _ imu _ xs hstarted
      rw [hlast, herror, hnone] at h
      simpa [fed_cons, intervals, Imu.samples] using h

theorem snapshot_errorStatus {A B : Type*} {s : State A B} (hprev : s.hasPrevKeyframe = true)
    (stamp : ℚ) : (s.snapshot stamp).errorStatus = "" ↔ s.error = "" ∧ s.samples ≠ 0 := by
  by_cases herror : s.error = "" <;> by_cases hnone : s.samples = 0 <;>
    simp [State.snapshot, hprev, herror, hnone]

/-- **An accepted keyframe has all of the IMU data** since the keyframe before: its snapshot carries no error if and
only if the time of the samples never went back or jumped, and moved on. Its measurements are then what the samples
measured, each until the next time. -/
theorem snapshot_complete (imu : Imu M V) (s : State M V) (stamp stamp' : ℚ) (b : Biases V)
    (xs : List (Biases V × Sample V)) :
    let chain := s.chain ++ imu.samples xs
    let snapshot := (fed imu (s.captured stamp b) xs).snapshot stamp'
    (snapshot.errorStatus = "" ↔ Gapless chain ∧ intervals chain ≠ []) ∧
      (snapshot.errorStatus = "" → snapshot.measurements = intervals chain) := by
  intro chain snapshot
  obtain ⟨herror, hmeasurements⟩ := @fed_captured _ _ _ _ _ _ imu s stamp b xs
  have hcount := ((@agrees_captured _ _ _ _ _ _ imu s stamp b).exec (xs.map fun x => .sample x.1 x.2)).samples
  have hstatus : snapshot.errorStatus = "" ↔ Gapless chain ∧ intervals chain ≠ [] := by
    rw [snapshot_errorStatus (fed_hasPrevKeyframe xs), herror]
    refine and_congr_right fun hgapless => ?_
    rw [fed, hcount, ← fed, hmeasurements hgapless, ne_eq, List.length_eq_zero_iff]
  exact ⟨hstatus, fun h => hmeasurements (hstatus.mp h).1⟩

end ImuPreintegration

end RoamerX
