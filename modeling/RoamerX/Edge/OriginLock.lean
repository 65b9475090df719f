import Mathlib.Algebra.Order.Field.Basic
import Mathlib.Data.List.Basic
import Mathlib.Data.List.Induction
import Mathlib.Order.Lattice
import Mathlib.Tactic.Linarith

set_option autoImplicit false

/-! # Locking the origin

`OriginLockMonitor` of `origin_lock.py`: the samples of the receiver are kept while the position is good, a timer runs
while the position, the heading baseline and the spread of the kept samples are good, and the mean of the kept samples
becomes the origin when the timer has run long enough. -/

namespace RoamerX

namespace OriginLock

/-- What the standard library computes on readings `R` of the receiver and numbers `K`. A reading need not be a finite
number, and compares as a float does. -/
structure Arithmetic (K R : Type*) where
  /-- The number, where `math.isfinite`. -/
  finite : R → Option K
  /-- `reading > bound` -/
  above : R → K → Bool
  /-- `reading < bound` -/
  below : R → K → Bool
  radians : K → K
  cos : K → K
  hypot : K → K → K

/-- `OriginSample`, in what the monitor checks and averages. -/
structure Sample (K R : Type*) where
  latitude : R
  longitude : R
  altitude : R
  positionFixed : Bool
  headingFixed : Bool
  baselineM : R
  headingDeg : R
  headingStdDeg : R
  ageSeconds : R
  sampledAt : K
  deriving DecidableEq

/-- The arguments of the monitor, after it has bounded them. -/
structure Config (K : Type*) [Field K] [LinearOrder K] where
  durationSeconds : K
  maxSpreadM : K
  minBaselineM : K
  maxHeadingStdDeg : K
  maxAgeSeconds : K
  noSignalTimeoutSeconds : K
  /-- `max(1.0, float(duration_seconds))` -/
  duration_ge : 1 ≤ durationSeconds

inductive OriginStatus
  | idle | waitingFix | qualityHolding | ready | locked | cancelled | failed
  deriving DecidableEq

inductive ReviewStatus
  | idle | manualConfirmation | ready | confirmed
  deriving DecidableEq

/-- The origin as it is written to the file. -/
structure Origin (K R : Type*) where
  latitude : K
  longitude : K
  altitude : K
  alignmentLocked : Bool := true
  positionSpreadM : K
  sampleCount : ℕ
  headingDeg : Option R
  headingFixed : Bool
  lockDurationSeconds : K
  lockedAtUnix : K
  sessionId : Option ℕ
  headingConfirmed : Bool := false
  deriving DecidableEq

/-- `_status`, in what the monitor decides by or reports of the lock. -/
structure Status (K R : Type*) where
  sessionId : Option ℕ
  originStatus : OriginStatus
  qualityStartedAt : Option K
  continuousSeconds : K
  lockWaitSeconds : K
  positionReady : Bool
  headingReady : Bool
  spreadReady : Bool
  positionSpreadM : Option K
  sampleCount : ℕ
  resetCount : ℕ
  headingReviewStatus : ReviewStatus
  headingQualityCurrent : Bool
  headingStable : Bool
  headingDeg : Option R
  errorCode : String
  origin : Option (Origin K R)
  deriving DecidableEq

structure Monitor (K R : Type*) where
  samples : List (Sample K R)
  positionFixSeen : Bool
  status : Status K R
  originFile : Option (Origin K R)

variable {K R : Type*} [Field K] [LinearOrder K]

def emptyStatus : Status K R where
  sessionId := none
  originStatus := .idle
  qualityStartedAt := none
  continuousSeconds := 0
  lockWaitSeconds := 0
  positionReady := false
  headingReady := false
  spreadReady := false
  positionSpreadM := none
  sampleCount := 0
  resetCount := 0
  headingReviewStatus := .idle
  headingQualityCurrent := false
  headingStable := false
  headingDeg := none
  errorCode := ""
  origin := none

/-- `__init__`, over the file that is there. -/
def init (originFile : Option (Origin K R)) : Monitor K R :=
  { samples := [], positionFixSeen := false, status := emptyStatus, originFile := originFile }

/-! ## Starting and stopping -/

def start (sessionId : ℕ) (_ : Monitor K R) : Monitor K R :=
  { samples := []
    positionFixSeen := false
    status := { emptyStatus with sessionId := some sessionId, originStatus := .waitingFix }
    originFile := none }

def prepare (m : Monitor K R) : Monitor K R :=
  { m with samples := [], status := { emptyStatus with originStatus := .ready }, originFile := none }

def cancel (m : Monitor K R) : Monitor K R :=
  { m with
    samples := []
    status := { m.status with originStatus := .cancelled, continuousSeconds := 0 }
    originFile := none }

/-- `restore`, at a time, with a new session id for a file that has none. -/
def restore (now ttlSeconds : K) (newSessionId : ℕ) (m : Monitor K R) : Monitor K R :=
  match m.originFile with
  | none => m
  | some origin =>
    if origin.alignmentLocked = false ∨ origin.lockedAtUnix ≤ 0 ∨ ttlSeconds < now - origin.lockedAtUnix then m
    else
      { m with
        status :=
          { (emptyStatus : Status K R) with
            sessionId := some (origin.sessionId.getD newSessionId)
            originStatus := .locked
            positionSpreadM := some origin.positionSpreadM
            sampleCount := origin.sampleCount
            headingDeg := origin.headingDeg
            positionReady := true
            headingReady := true
            spreadReady := true
            origin := some origin } }

/-! ## The review of the heading -/

def beginHeadingReview (m : Monitor K R) : Monitor K R :=
  if m.status.originStatus ≠ .locked ∨ m.status.headingReviewStatus ≠ .idle then m
  else
    { m with
      status :=
        { m.status with
          headingReviewStatus := .manualConfirmation
          continuousSeconds := 0
          headingStable := false } }

/-- `confirm_heading_review`, where the file can be written or not. -/
def confirmHeadingReview (writes : Bool) (m : Monitor K R) : Monitor K R :=
  if m.status.headingReviewStatus = .idle ∨ m.status.headingReviewStatus = .confirmed then m
  else
    let confirmed (origin : Option (Origin K R)) : Status K R :=
      { m.status with headingReviewStatus := .confirmed, headingStable := true, origin := origin }
    match m.status.origin with
    | none => { m with status := confirmed none }
    | some origin =>
      let origin := { origin with headingConfirmed := true }
      if writes then { m with status := confirmed (some origin), originFile := some origin } else m

def updateHeadingReviewLocked (headingValid : Bool) (status : Status K R) : Status K R :=
  match status.headingReviewStatus with
  | .manualConfirmation => { status with headingStable := headingValid }
  | .confirmed => { status with headingStable := true }
  | _ => { status with headingStable := false }

section Samples

variable (a : Arithmetic K R) (config : Config K)

/-! ## The checks of a sample -/

def positionSampleValid (sample : Sample K R) : Bool :=
  sample.positionFixed && !a.above sample.ageSeconds config.maxAgeSeconds &&
    [sample.latitude, sample.longitude, sample.altitude].all fun value => (a.finite value).isSome

def headingBaselineValid (sample : Sample K R) : Bool :=
  sample.headingFixed && !a.below sample.baselineM config.minBaselineM

def headingSampleValid (sample : Sample K R) : Bool :=
  headingBaselineValid a config sample && !a.above sample.headingStdDeg config.maxHeadingStdDeg &&
    !a.above sample.ageSeconds config.maxAgeSeconds

/-- A reading as a number; only finite readings are kept. -/
def value (reading : R) : K := (a.finite reading).getD 0

/-- A sample in the plane that touches the earth at the first sample. -/
def toPlane (first sample : Sample K R) : K × K :=
  ((a.radians (value a sample.longitude) - a.radians (value a first.longitude)) *
      a.cos (a.radians (value a first.latitude)) * 6378137,
    (a.radians (value a sample.latitude) - a.radians (value a first.latitude)) * 6378137)

def distance (first x y : Sample K R) : K :=
  a.hypot ((toPlane a first x).1 - (toPlane a first y).1) ((toPlane a first x).2 - (toPlane a first y).2)

def spreadM (samples : List (Sample K R)) : K :=
  match samples with
  | [] | [_] => 0
  | first :: _ => ((samples.flatMap fun x => samples.map fun y => distance a first x y).max?).getD 0

/-! ## `ingest` -/

/-- Half of `_update_preview_checks_locked`: the samples of the preview. -/
def previewSamples (positionValid : Bool) (sample : Sample K R) (samples : List (Sample K R)) : List (Sample K R) :=
  if positionValid then
    (samples ++ [sample]).dropWhile fun other => decide (other.sampledAt < sample.sampledAt - config.durationSeconds)
  else []

def updatePreviewChecksLocked (sample : Sample K R) (m : Monitor K R) : Monitor K R :=
  let samples := previewSamples config (positionSampleValid a config sample) sample m.samples
  let spread := spreadM a samples
  { m with
    samples := samples
    status :=
      { m.status with
        positionReady := positionSampleValid a config sample
        headingReady := headingBaselineValid a config sample
        spreadReady := decide (2 ≤ samples.length ∧ spread ≤ config.maxSpreadM)
        positionSpreadM := if samples = [] then none else some spread
        sampleCount := samples.length } }

def failLocked (errorCode : String) (m : Monitor K R) : Monitor K R :=
  { m with
    samples := []
    status :=
      { m.status with
        originStatus := .failed
        qualityStartedAt := none
        continuousSeconds := 0
        positionSpreadM := none
        sampleCount := 0
        headingStable := false
        errorCode := errorCode } }

/-- The mean of a reading over the samples. -/
def mean (samples : List (Sample K R)) (reading : Sample K R → R) : K :=
  (samples.map fun sample => value a (reading sample)).sum / samples.length

/-- The origin of `_lock_origin_locked`. -/
def originOf (lockedAt : K) (m : Monitor K R) : Origin K R where
  latitude := mean a m.samples Sample.latitude
  longitude := mean a m.samples Sample.longitude
  altitude := mean a m.samples Sample.altitude
  positionSpreadM := spreadM a m.samples
  sampleCount := m.samples.length
  headingDeg := m.samples.getLast?.map Sample.headingDeg
  headingFixed := m.samples.getLast?.any Sample.headingFixed
  lockDurationSeconds := m.status.lockWaitSeconds
  lockedAtUnix := lockedAt
  sessionId := m.status.sessionId

/-- `_lock_origin_locked`; where the file cannot be written, the error leaves the monitor as it is. -/
def lockOriginLocked (writes : Bool) (lockedAt : K) (m : Monitor K R) : Monitor K R :=
  if writes then
    let origin := originOf a lockedAt m
    { m with
      originFile := some origin
      status :=
        { m.status with
          originStatus := .locked
          continuousSeconds := 0
          origin := some origin
          headingStable := false
          headingReviewStatus := .idle
          positionReady := true
          headingReady := true
          spreadReady := true } }
  else m

/-- What `ingest` does at its beginning in every state. -/
def report (sample : Sample K R) (m : Monitor K R) : Monitor K R :=
  { m with
    status :=
      { m.status with
        headingDeg := some sample.headingDeg
        errorCode := ""
        headingQualityCurrent := headingSampleValid a config sample } }

/-- The samples are kept, and thrown away where the position is bad or they spread too far. -/
def collect (sample : Sample K R) (m : Monitor K R) : Monitor K R :=
  let positionValid := positionSampleValid a config sample
  let m := { m with
    positionFixSeen := m.positionFixSeen || positionValid
    samples := if positionValid then m.samples ++ [sample] else [] }
  if config.maxSpreadM < spreadM a m.samples then
    { m with
      samples := if positionValid then [sample] else []
      status :=
        { m.status with
          resetCount := m.status.resetCount + if m.status.qualityStartedAt.isSome then 1 else 0
          qualityStartedAt := none
          continuousSeconds := 0 } }
  else m

/-- `quality_elapsed`; a timer that was started at 0 counts as not started. -/
def qualityElapsed (since : K) (sample : Sample K R) : K :=
  max 0 (sample.sampledAt - if since = 0 then sample.sampledAt else since)

/-- The timer of the three conditions, where a sample fulfils them. -/
def hold (writes : Bool) (lockedAt : K) (sample : Sample K R) (m : Monitor K R) : Monitor K R :=
  let since := m.status.qualityStartedAt.getD sample.sampledAt
  let m := { m with
    status :=
      { m.status with
        qualityStartedAt := some since
        originStatus := .qualityHolding
        continuousSeconds := min (qualityElapsed since sample) config.durationSeconds } }
  if config.durationSeconds ≤ qualityElapsed since sample then lockOriginLocked a writes lockedAt m else m

/-- The three conditions of a sample, over the samples that are kept. -/
def check (sample : Sample K R) (m : Monitor K R) : Monitor K R :=
  let spread := spreadM a m.samples
  { m with
    status :=
      { m.status with
        positionReady := positionSampleValid a config sample
        headingReady := headingBaselineValid a config sample
        spreadReady := decide (2 ≤ m.samples.length ∧ spread ≤ config.maxSpreadM)
        positionSpreadM := if m.samples = [] then none else some spread
        sampleCount := m.samples.length } }

/-- The rest of `ingest` while the monitor waits for the lock. -/
def ingestWaiting (elapsed : K) (writes : Bool) (lockedAt : K) (sample : Sample K R) (m : Monitor K R) : Monitor K R :=
  let elapsed := max 0 elapsed
  let m := { m with status := { m.status with lockWaitSeconds := min elapsed config.noSignalTimeoutSeconds } }
  let m := check a config sample (collect a config sample m)
  if m.status.positionReady && m.status.headingReady && m.status.spreadReady then
    hold a config writes lockedAt sample m
  else if m.positionFixSeen = false ∧ config.noSignalTimeoutSeconds ≤ elapsed then failLocked "RTK_FIX_TIMEOUT" m
  else
    { m with
      status :=
        { m.status with
          resetCount := m.status.resetCount + if m.status.qualityStartedAt.isSome then 1 else 0
          originStatus := .waitingFix
          qualityStartedAt := none
          continuousSeconds := 0 } }

/-- `ingest`, at a monotonic time since `start`. -/
def ingest (elapsed : K) (writes : Bool) (lockedAt : K) (sample : Sample K R) (m : Monitor K R) : Monitor K R :=
  let m := report a config sample m
  match m.status.originStatus with
  | .ready =>
    let m := updatePreviewChecksLocked a config sample m
    { m with status := { m.status with headingStable := false } }
  | .locked => { m with status := updateHeadingReviewLocked (headingSampleValid a config sample) m.status }
  | .waitingFix | .qualityHolding => ingestWaiting a config elapsed writes lockedAt sample m
  | _ => m

/-! ## Runs -/

inductive Call (K R : Type*)
  | start (sessionId : ℕ)
  | prepare
  | cancel
  | restore (now ttlSeconds : K) (newSessionId : ℕ)
  | beginHeadingReview
  | confirmHeadingReview (writes : Bool)
  | ingest (elapsed : K) (writes : Bool) (lockedAt : K) (sample : Sample K R)
  /-- `_run` gives up after a time without a signal. -/
  | signalTimeout

def Call.apply (m : Monitor K R) : Call K R → Monitor K R
  | .start sessionId => OriginLock.start sessionId m
  | .prepare => OriginLock.prepare m
  | .cancel => OriginLock.cancel m
  | .restore now ttlSeconds newSessionId => OriginLock.restore now ttlSeconds newSessionId m
  | .beginHeadingReview => OriginLock.beginHeadingReview m
  | .confirmHeadingReview writes => OriginLock.confirmHeadingReview writes m
  | .ingest elapsed writes lockedAt sample => OriginLock.ingest a config elapsed writes lockedAt sample m
  | .signalTimeout => failLocked "RTK_SIGNAL_TIMEOUT" m

def Call.sample? : Call K R → Option (Sample K R)
  | .ingest _ _ _ sample => some sample
  | _ => none

def run (originFile : Option (Origin K R)) (calls : List (Call K R)) : Monitor K R :=
  calls.foldl (Call.apply a config) (init originFile)

def ingested (calls : List (Call K R)) : List (Sample K R) := calls.filterMap Call.sample?

/-! ## The lock -/

/-- The samples of a block fulfil the conditions of the timer, and the block began long enough before the sample. -/
structure HeldFor (sample : Sample K R) (block : List (Sample K R)) : Prop where
  since : ∃ first rest, block = first :: rest ∧ first.sampledAt ≤ sample.sampledAt - config.durationSeconds
  position : ∀ other ∈ block, positionSampleValid a config other = true
  heading : ∀ other ∈ block, headingBaselineValid a config other = true

/-- The kept samples have a good position, do not spread too far, and their mean is the origin. -/
structure MeanOf (samples : List (Sample K R)) (origin : Origin K R) : Prop where
  position : ∀ other ∈ samples, positionSampleValid a config other = true
  spread : ∀ first rest, samples = first :: rest → ∀ x ∈ samples, ∀ y ∈ samples,
    distance a first x y ≤ config.maxSpreadM
  latitude : origin.latitude = mean a samples Sample.latitude
  longitude : origin.longitude = mean a samples Sample.longitude
  altitude : origin.altitude = mean a samples Sample.altitude

/-- What the timer and the kept samples say while the monitor waits for the lock. -/
structure Timed (m : Monitor K R) (ingested : List (Sample K R)) : Prop where
  suffix : m.samples <:+ ingested
  position : ∀ other ∈ m.samples, positionSampleValid a config other = true
  timer : ∀ since, m.status.qualityStartedAt = some since → ∃ first rest, (first :: rest) <:+ m.samples ∧
    first.sampledAt = since ∧ ∀ other ∈ first :: rest, headingBaselineValid a config other = true

def OriginStatus.waits : OriginStatus → Bool
  | .waitingFix | .qualityHolding => true
  | _ => false

def Inv (m : Monitor K R) (ingested : List (Sample K R)) : Prop :=
  m.status.originStatus.waits = true → Timed a config m ingested

end Samples

variable {a : Arithmetic K R} {config : Config K} {m : Monitor K R} {samples : List (Sample K R)}
  {sample first : Sample K R} {calls : List (Call K R)}

theorem distance_le_spreadM {rest : List (Sample K R)} (hspread : spreadM a (first :: rest) ≤ config.maxSpreadM)
    (hmany : 2 ≤ (first :: rest).length) {x y : Sample K R} (hx : x ∈ first :: rest) (hy : y ∈ first :: rest) :
    distance a first x y ≤ config.maxSpreadM := by
  match rest with
  | [] => exact absurd hmany (by simp)
  | second :: rest =>
    refine le_trans ?_ hspread
    have hmem : distance a first x y ∈ ((first :: second :: rest).flatMap fun x =>
        (first :: second :: rest).map fun y => distance a first x y) :=
      List.mem_flatMap.mpr ⟨x, hx, List.mem_map.mpr ⟨y, hy, rfl⟩⟩
    have hsome := List.isSome_max?_of_mem hmem
    obtain ⟨largest, hlargest⟩ := Option.isSome_iff_exists.mp hsome
    have hvalue : spreadM a (first :: second :: rest) = largest := by
      unfold spreadM
      dsimp only
      rw [hlargest]
      rfl
    rw [hvalue]
    exact (List.max?_le_iff hlargest).mp le_rfl _ hmem

theorem collect_spec (sample : Sample K R) {past : List (Sample K R)} (h : Timed a config m past) :
    (collect a config sample m).samples <:+ past ++ [sample] ∧
    (∀ other ∈ (collect a config sample m).samples, positionSampleValid a config other = true) ∧
    (positionSampleValid a config sample = true → [sample] <:+ (collect a config sample m).samples) ∧
    (positionSampleValid a config sample = true → ∀ since,
      (collect a config sample m).status.qualityStartedAt = some since → ∃ first rest,
        (first :: rest) ++ [sample] <:+ (collect a config sample m).samples ∧ first.sampledAt = since ∧
          ∀ other ∈ first :: rest, headingBaselineValid a config other = true) := by
  unfold collect
  dsimp only
  rcases hvalid : positionSampleValid a config sample with _ | _
  · simp only [Bool.false_eq_true, if_false]
    refine ⟨?_, ?_, nofun, nofun⟩
    · split <;> exact List.nil_suffix
    · split <;> exact fun _ hother => absurd hother List.not_mem_nil
  · simp only [if_true]
    split
    · -- the samples spread too far, and the timer stops
      refine ⟨List.suffix_append _ _, fun other hother => ?_, fun _ => List.suffix_refl _,
        fun _ since hsince => nomatch hsince⟩
      rw [List.mem_singleton.mp hother]
      exact hvalid
    · have hsuffix : m.samples ++ [sample] <:+ past ++ [sample] := by
        obtain ⟨before, hbefore⟩ := h.suffix
        exact ⟨before, by rw [← hbefore, List.append_assoc]⟩
      refine ⟨hsuffix, fun other hother => ?_, fun _ => List.suffix_append _ _, fun _ since hsince => ?_⟩
      · rcases List.mem_append.mp hother with hold | hnew
        · exact h.position other hold
        · rw [List.mem_singleton.mp hnew]
          exact hvalid
      · obtain ⟨first, rest, ⟨before, hbefore⟩, hfirst, hheading⟩ := h.timer since hsince
        exact ⟨first, rest, ⟨before, by rw [← List.append_assoc, hbefore]⟩, hfirst, hheading⟩

theorem Timed.hold {past : List (Sample K R)} (hsuffix : m.samples <:+ past)
    (hposition : ∀ other ∈ m.samples, positionSampleValid a config other = true)
    (hheading : headingBaselineValid a config sample = true) (hlast : [sample] <:+ m.samples)
    (htimer : ∀ since, m.status.qualityStartedAt = some since → ∃ first rest,
      (first :: rest) ++ [sample] <:+ m.samples ∧ first.sampledAt = since ∧
        ∀ other ∈ first :: rest, headingBaselineValid a config other = true) :
    ∀ status : Status K R, status.qualityStartedAt = some (m.status.qualityStartedAt.getD sample.sampledAt) →
      Timed a config { m with status := status } past := by
  intro status hstatus
  refine ⟨hsuffix, hposition, fun since hsince => ?_⟩
  obtain rfl : m.status.qualityStartedAt.getD sample.sampledAt = since := Option.some.inj (hstatus.symm.trans hsince)
  rcases hbefore : m.status.qualityStartedAt with _ | since
  · refine ⟨sample, [], hlast, rfl, fun other hother => ?_⟩
    rwa [List.mem_singleton.mp hother]
  · obtain ⟨first, rest, hblock, hfirst, hall⟩ := htimer since hbefore
    refine ⟨first, rest ++ [sample], hblock, hfirst, fun other hother => ?_⟩
    rcases List.mem_append.mp (show other ∈ (first :: rest) ++ [sample] from hother) with hold | hnew
    · exact hall other hold
    · rwa [List.mem_singleton.mp hnew]

/-- The origin that is written is the mean of kept samples, among them those that held the conditions. -/
def Justified (a : Arithmetic K R) (config : Config K) (sample : Sample K R) (past : List (Sample K R))
    (originFile : Option (Origin K R)) : Prop :=
  ∃ origin samples block, originFile = some origin ∧ samples <:+ past ∧ block <:+ samples ∧
    HeldFor a config sample block ∧ MeanOf a config samples origin

variable {past : List (Sample K R)} {elapsed lockedAt : K} {writes : Bool}

theorem hold_spec [IsStrictOrderedRing K] (h : ∀ status : Status K R,
      status.qualityStartedAt = some (m.status.qualityStartedAt.getD sample.sampledAt) →
        Timed a config { m with status := status } past)
    (hmany : 2 ≤ m.samples.length) (hspread : spreadM a m.samples ≤ config.maxSpreadM) :
    Inv a config (hold a config writes lockedAt sample m) past ∧
      ((hold a config writes lockedAt sample m).status.originStatus = .locked →
        Justified a config sample past (hold a config writes lockedAt sample m).originFile) := by
  unfold hold
  dsimp only
  split
  next hlong =>
    unfold lockOriginLocked
    split
    · refine ⟨(fun hwaits => nomatch hwaits), fun _ => ?_⟩
      have htimed := h { m.status with
        qualityStartedAt := some (m.status.qualityStartedAt.getD sample.sampledAt) } rfl
      obtain ⟨first, rest, hblock, hfirst, hheading⟩ := htimed.timer _ rfl
      have hone := config.duration_ge
      have hpositive : 0 < config.durationSeconds := lt_of_lt_of_le zero_lt_one hone
      refine ⟨_, m.samples, first :: rest, rfl, htimed.suffix, hblock, ⟨⟨first, rest, rfl, ?_⟩, fun other hother =>
        htimed.position other (hblock.subset hother), hheading⟩, ⟨htimed.position, ?_, rfl, rfl, rfl⟩⟩
      · rw [hfirst]
        generalize m.status.qualityStartedAt.getD sample.sampledAt = since at hlong ⊢
        unfold qualityElapsed at hlong
        have hdifference := (le_max_iff.mp hlong).resolve_left (not_le_of_gt hpositive)
        split at hdifference
        · rw [sub_self] at hdifference
          exact absurd hdifference (not_le_of_gt hpositive)
        · linarith
      · intro first rest hsamples x hx y hy
        rw [hsamples] at hmany hspread hx hy
        exact distance_le_spreadM hspread hmany hx hy
    · exact ⟨fun _ => h _ rfl, fun hlocked => nomatch hlocked⟩
  · exact ⟨fun _ => h _ rfl, fun hlocked => nomatch hlocked⟩

theorem ingestWaiting_spec [IsStrictOrderedRing K] (elapsed lockedAt : K) (writes : Bool) (sample : Sample K R)
    (h : Timed a config m past) :
    Inv a config (ingestWaiting a config elapsed writes lockedAt sample m) (past ++ [sample]) ∧
      ((ingestWaiting a config elapsed writes lockedAt sample m).status.originStatus = .locked →
        Justified a config sample (past ++ [sample])
          (ingestWaiting a config elapsed writes lockedAt sample m).originFile) := by
  unfold ingestWaiting
  dsimp only
  have hwaiting : Timed a config { m with status :=
      { m.status with lockWaitSeconds := min (max 0 elapsed) config.noSignalTimeoutSeconds } } past :=
    ⟨h.suffix, h.position, h.timer⟩
  obtain ⟨hsuffix, hposition, hlast, htimer⟩ := collect_spec sample hwaiting
  generalize collect a config sample { m with status :=
      { m.status with lockWaitSeconds := min (max 0 elapsed) config.noSignalTimeoutSeconds } } = kept at *
  split
  next hready =>
    simp only [check, Bool.and_eq_true, decide_eq_true_eq] at hready
    obtain ⟨⟨hvalid, hheading⟩, hmany, hspread⟩ := hready
    exact hold_spec (m := check a config sample kept)
      (Timed.hold (m := check a config sample kept) hsuffix hposition hheading (hlast hvalid) (htimer hvalid)) hmany hspread
  split
  · exact ⟨(fun hwaits => nomatch hwaits), fun hlocked => nomatch hlocked⟩
  · exact ⟨fun _ => ⟨hsuffix, hposition, fun _ hsince => nomatch hsince⟩, fun hlocked => nomatch hlocked⟩

theorem ingest_originStatus (h : m.status.originStatus.waits = false) :
    (ingest a config elapsed writes lockedAt sample m).status.originStatus = m.status.originStatus := by
  unfold ingest
  rcases hstatus : m.status.originStatus with _ | _ | _ | _ | _ | _ | _
  case waitingFix | qualityHolding =>
    rw [hstatus] at h
    exact Bool.noConfusion h
  case locked =>
    simp only [report, hstatus, updateHeadingReviewLocked]
    split <;> rfl
  all_goals simp only [report, hstatus, updatePreviewChecksLocked]

theorem ingest_spec [IsStrictOrderedRing K] (h : Inv a config m past) :
    Inv a config (ingest a config elapsed writes lockedAt sample m) (past ++ [sample]) ∧
      (m.status.originStatus ≠ .locked →
        (ingest a config elapsed writes lockedAt sample m).status.originStatus = .locked →
        Justified a config sample (past ++ [sample]) (ingest a config elapsed writes lockedAt sample m).originFile) := by
  rcases hwaits : m.status.originStatus.waits with _ | _
  · unfold Inv
    rw [ingest_originStatus hwaits, hwaits]
    exact ⟨nofun, fun hno hlocked => absurd hlocked hno⟩
  · have htimed := h hwaits
    have hreported : Timed a config (report a config sample m) past :=
      ⟨htimed.suffix, htimed.position, htimed.timer⟩
    have hingest : ingest a config elapsed writes lockedAt sample m =
        ingestWaiting a config elapsed writes lockedAt sample (report a config sample m) := by
      unfold ingest
      rcases hstatus : m.status.originStatus with _ | _ | _ | _ | _ | _ | _
      case waitingFix | qualityHolding => simp only [report, hstatus]
      all_goals
        rw [hstatus] at hwaits
        exact Bool.noConfusion hwaits
    obtain ⟨hinv, hlocked⟩ := ingestWaiting_spec elapsed lockedAt writes sample hreported
    rw [hingest]
    exact ⟨hinv, fun _ => hlocked⟩

/-! ## Runs -/

theorem Inv.apply [IsStrictOrderedRing K] (h : Inv a config m past) (call : Call K R) :
    Inv a config (Call.apply a config m call) (past ++ call.sample?.toList) := by
  have hsame : past ++ (none : Option (Sample K R)).toList = past := List.append_nil past
  cases call with
  | start sessionId =>
    exact fun _ => ⟨List.nil_suffix, fun _ hother => absurd hother List.not_mem_nil, fun _ hsince => nomatch hsince⟩
  | prepare => exact fun hwaits => nomatch hwaits
  | cancel => exact fun hwaits => nomatch hwaits
  | restore now ttlSeconds newSessionId =>
    simp only [Call.apply, Call.sample?, hsame]
    unfold restore
    split
    · exact h
    · split
      · exact h
      · exact fun hwaits => nomatch hwaits
  | beginHeadingReview =>
    simp only [Call.apply, Call.sample?, hsame]
    unfold beginHeadingReview
    split
    · exact h
    · exact fun hwaits => ⟨(h hwaits).suffix, (h hwaits).position, (h hwaits).timer⟩
  | confirmHeadingReview writes =>
    simp only [Call.apply, Call.sample?, hsame]
    unfold confirmHeadingReview
    have hkept : ∀ (status : Status K R) (originFile : Option (Origin K R)),
        status.originStatus = m.status.originStatus → status.qualityStartedAt = m.status.qualityStartedAt →
          Inv a config { m with status := status, originFile := originFile } past := by
      intro status originFile hstatus hquality hwaits
      have htimed := h (hstatus ▸ hwaits)
      exact ⟨htimed.suffix, htimed.position, fun since hsince => htimed.timer since (hquality ▸ hsince)⟩
    split
    · exact h
    · dsimp only
      split
      · exact hkept _ _ rfl rfl
      · split
        · exact hkept _ _ rfl rfl
        · exact h
  | ingest elapsed writes lockedAt sample => exact (ingest_spec h).1
  | signalTimeout => exact fun hwaits => nomatch hwaits

omit [Field K] [LinearOrder K] in
theorem ingested_append (calls others : List (Call K R)) :
    ingested (calls ++ others) = ingested calls ++ ingested others :=
  List.filterMap_append

theorem inv_run [IsStrictOrderedRing K] (a : Arithmetic K R) (config : Config K) (originFile : Option (Origin K R))
    (calls : List (Call K R)) : Inv a config (run a config originFile calls) (ingested calls) := by
  induction calls using List.reverseRecOn with
  | nil => exact fun hwaits => nomatch hwaits
  | append_singleton calls call ih =>
    have hone : ingested [call] = call.sample?.toList := by
      cases call <;> rfl
    rw [ingested_append, hone, run, List.foldl_append]
    exact ih.apply call

def alongAxes : Arithmetic ℚ ℚ where
  finite := some
  above reading bound := decide (bound < reading)
  below reading bound := decide (reading < bound)
  radians := id
  cos _ := 1
  hypot x y := |x| + |y|

def oneSecond : Config ℚ where
  durationSeconds := 1
  maxSpreadM := 1 / 50
  minBaselineM := 1 / 5
  maxHeadingStdDeg := 5
  maxAgeSeconds := 3 / 2
  noSignalTimeoutSeconds := 3
  duration_ge := le_refl 1

def goodSample (sampledAt : ℚ) : Sample ℚ ℚ where
  latitude := 31
  longitude := 121
  altitude := 4
  positionFixed := true
  headingFixed := true
  baselineM := 1
  headingDeg := 90
  headingStdDeg := 1
  ageSeconds := 0
  sampledAt := sampledAt

end OriginLock

end RoamerX
