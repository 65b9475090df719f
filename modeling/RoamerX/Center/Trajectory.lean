import RoamerX.Lib.PathLength
import RoamerX.Protocol.TrajectoryBatch
import Mathlib
import RoamerX.Lib.Numerals

set_option autoImplicit false

/-! # Trajectories at the center

`_handle_trajectory` of `message_handlers.py` and `trajectory_distance_service.py`: a batch of
points is stored once, and the distance a patrol loop has covered is kept up to date with it.

Distances are elements of an ordered field, and `math.hypot` is a parameter, as is what a
`DecimalField` stores for a value. -/

namespace RoamerX

open scoped Numerals

/-! ## Rows -/

structure TrajectoryPoint where
  taskExecution : Uuid
  seq : ℕ
  sampledAt : ℕ
  frameId : String
  mapId : String
  mapVersion : String
  x : ℚ
  y : ℚ
  yaw : ℚ
  speedMps : Option ℚ
  localizationStatus : String
  keyframe : Json
  batchId : Uuid

structure TrajectoryBatchReceipt where
  batchId : Uuid
  taskExecution : Uuid
  firstSeq : ℕ
  lastSeq : ℕ
  pointCount : ℕ
  deriving DecidableEq

/-- `TaskExecution`, of which only the loop session is read here. -/
structure TrajectoryExecution where
  id : Uuid
  loopSessionId : Option Uuid
  deriving DecidableEq

/-- `PatrolLoopSession`, of which only `metadata["total_distance_m"]` is read here. -/
structure LoopDistance (𝕜 : Type*) where
  id : Uuid
  totalDistanceM : Option 𝕜
  deriving DecidableEq

/-- The order of `order_by("task_execution_id", "seq")`. -/
def TrajectoryPoint.Before (p q : TrajectoryPoint) : Prop :=
  p.taskExecution < q.taskExecution ∨ p.taskExecution = q.taskExecution ∧ p.seq < q.seq

instance (p q : TrajectoryPoint) : Decidable (p.Before q) := inferInstanceAs (Decidable (_ ∨ _))

/-- The tables. The points are kept in the order in which every query asks for them; the uniqueness
    constraint on execution and sequence number makes it strict. -/
structure TrajectoryDb (𝕜 : Type*) where
  executions : List TrajectoryExecution := []
  loopSessions : List (LoopDistance 𝕜) := []
  points : List TrajectoryPoint := []
  receipts : List TrajectoryBatchReceipt := []

/-! ## Queries -/

section Distance

variable {𝕜 : Type*} [Field 𝕜] [LinearOrder 𝕜]

/-- The distance of one step, `0` where it is skipped: on a change of the map, or for a jump. -/
def segment (hypot : ℚ → ℚ → 𝕜) (previous current : TrajectoryPoint) : 𝕜 :=
  if previous.mapId ≠ "" ∧ current.mapId ≠ "" ∧ previous.mapId ≠ current.mapId then 0
  else
    let distance := hypot (current.x - previous.x) (current.y - previous.y)
    if 0 ≤ distance ∧ distance ≤ 10 then distance else 0

def trajectoryDistance (hypot : ℚ → ℚ → 𝕜) (points : List TrajectoryPoint) : 𝕜 :=
  (points.zip points.tail).foldl (fun distance step => distance + segment hypot step.1 step.2) 0

def distanceQuantum : 𝕜 := 1 / 10 ^ 6

/-- Rounding to the nearest integer, a half to the even one. -/
def roundHalfEven [FloorRing 𝕜] (v : 𝕜) : ℤ :=
  if v - ⌊v⌋ < 1 / 2 then ⌊v⌋
  else if 1 / 2 < v - ⌊v⌋ then ⌊v⌋ + 1
  else if Even ⌊v⌋ then ⌊v⌋ else ⌊v⌋ + 1

def quantize [FloorRing 𝕜] (v : 𝕜) : 𝕜 := roundHalfEven (v / distanceQuantum) * distanceQuantum

/-- `normalize_distance`; a value that is not a number is not stored. -/
def normalizeDistance [FloorRing 𝕜] (v : 𝕜) : Option 𝕜 := if v < 0 then none else some (quantize v)

end Distance

namespace TrajectoryDb

variable {𝕜 : Type*}

/-- `TaskExecution.objects.get(pk=id, robot=robot)`. -/
def execution? (db : TrajectoryDb 𝕜) (id : Uuid) : Option TrajectoryExecution :=
  Rows.get? TrajectoryExecution.id db.executions id

/-- `PatrolLoopSession.objects.filter(pk=id).first()`. -/
def loopSession? (db : TrajectoryDb 𝕜) (id : Uuid) : Option (LoopDistance 𝕜) :=
  Rows.get? LoopDistance.id db.loopSessions id

/-- `TrajectoryBatchReceipt.objects.filter(batch_id=id).first()`. -/
def receipt? (db : TrajectoryDb 𝕜) (id : Uuid) : Option TrajectoryBatchReceipt :=
  Rows.get? TrajectoryBatchReceipt.batchId db.receipts id

/-- `task_execution__loop_session_id=session`. -/
def inSession (db : TrajectoryDb 𝕜) (session : Uuid) (p : TrajectoryPoint) : Bool :=
  (db.execution? p.taskExecution).any (fun e => decide (e.loopSessionId = some session))

def sessionPoints (db : TrajectoryDb 𝕜) (session : Uuid) : List TrajectoryPoint :=
  db.points.filter (db.inSession session)

def executionPoints (db : TrajectoryDb 𝕜) (execution : Uuid) : List TrajectoryPoint :=
  db.points.filter (fun p => decide (p.taskExecution = execution))

/-! ## Storing points -/

/-- Insert one point, unless there is one of the same execution and sequence number. -/
def insertPoint (point : TrajectoryPoint) : List TrajectoryPoint → List TrajectoryPoint
  | [] => [point]
  | p :: rest =>
    if point.Before p then point :: p :: rest
    else if p.Before point then p :: insertPoint point rest
    else p :: rest

def bulkCreate (points rows : List TrajectoryPoint) : List TrajectoryPoint :=
  points.foldl (fun rows point => insertPoint point rows) rows

/-- The rows `_handle_trajectory` builds. A value that the `DecimalField` refuses raises. -/
def buildPoint (decimal : ℕ → ℕ → Json → Option ℚ) (batch : TrajectoryBatch)
    (sample : TrajectorySample) : Option TrajectoryPoint := do
  let x ← decimal 12 4 (.num sample.x)
  let y ← decimal 12 4 (.num sample.y)
  let yaw ← decimal 10 5 (.num sample.yaw)
  let speedMps ← match sample.speedMps with
    | none => some none
    | some v => (decimal 10 5 v).map some
  return {
    taskExecution := batch.taskExecutionId
    seq := sample.seq
    sampledAt := sample.sampledAt
    frameId := batch.frameId
    mapId := batch.mapId
    mapVersion := batch.mapVersion
    x := x
    y := y
    yaw := yaw
    speedMps := speedMps
    localizationStatus := sample.localizationStatus
    keyframe := .obj (sample.keyframe.getD [])
    batchId := batch.batchId }

def buildPoints (decimal : ℕ → ℕ → Json → Option ℚ) (batch : TrajectoryBatch) :
    Option (List TrajectoryPoint) :=
  batch.points.mapM (buildPoint decimal batch)

/-! ## The distance of a loop -/

section Loop

variable [Field 𝕜] [LinearOrder 𝕜] [FloorRing 𝕜] (hypot : ℚ → ℚ → 𝕜)

/-- The loop of `calculate_loop_total_distance` over the points of the session. -/
def totalOver (state : Option TrajectoryPoint × 𝕜) (current : TrajectoryPoint) :
    Option TrajectoryPoint × 𝕜 :=
  match state.1 with
  | none => (some current, state.2)
  | some previous =>
    if previous.taskExecution ≠ current.taskExecution then (some current, state.2)
    else (some current, state.2 + trajectoryDistance hypot [previous, current])

def calculateLoopTotalDistance (db : TrajectoryDb 𝕜) (session : Uuid) : 𝕜 :=
  (normalizeDistance ((db.sessionPoints session).foldl (totalOver hypot) (none, 0)).2).getD 0

def storedLoopTotalDistance (session : LoopDistance 𝕜) : Option 𝕜 :=
  session.totalDistanceM.bind normalizeDistance

/-- `previous`: the last point of the execution before the inserted ones. -/
def previousPoint (db : TrajectoryDb 𝕜) (execution : Uuid) (first : TrajectoryPoint) :
    Option TrajectoryPoint :=
  ((db.executionPoints execution).filter (fun p => decide (p.seq < first.seq))).getLast?

/-- `following`: the first point of the execution after the inserted ones. -/
def followingPoint (db : TrajectoryDb 𝕜) (execution : Uuid) (last : TrajectoryPoint) :
    Option TrajectoryPoint :=
  ((db.executionPoints execution).filter (fun p => decide (last.seq < p.seq))).head?

/-- The points of the execution from `lower_seq` to `upper_seq`. -/
def stretchPoints (db : TrajectoryDb 𝕜) (execution : Uuid) (lowerSeq upperSeq : ℕ) :
    List TrajectoryPoint :=
  (db.executionPoints execution).filter
    (fun p => decide (lowerSeq ≤ p.seq) && decide (p.seq ≤ upperSeq))

/-- The distance of the points around the inserted ones, less the distance without them. -/
def batchDelta (db : TrajectoryDb 𝕜) (execution batchId : Uuid) (first last : TrajectoryPoint) : 𝕜 :=
  let lowerSeq := ((db.previousPoint execution first).map (·.seq)).getD first.seq
  let upperSeq := ((db.followingPoint execution last).map (·.seq)).getD last.seq
  let points := db.stretchPoints execution lowerSeq upperSeq
  let before := points.filter (fun p => decide (p.batchId ≠ batchId))
  trajectoryDistance hypot points - trajectoryDistance hypot before

/-- `update_patrol_loop_distance`; `session` is the row that was read under its lock. -/
def updatePatrolLoopDistance (db : TrajectoryDb 𝕜) (session : Option (LoopDistance 𝕜))
    (execution batchId : Uuid) : TrajectoryDb 𝕜 :=
  match session with
  | none => db
  | some session =>
    let save := fun updated =>
      { db with
        loopSessions := Rows.put LoopDistance.id db.loopSessions
          { session with totalDistanceM := some updated } }
    match storedLoopTotalDistance session with
    | none => save (calculateLoopTotalDistance hypot db session.id)
    | some storedTotal =>
      let inserted := (db.executionPoints execution).filter
        (fun p => decide (p.batchId = batchId))
      match inserted.head?, inserted.getLast? with
      | some first, some last =>
        save ((normalizeDistance
          (max 0 (storedTotal + batchDelta hypot db execution batchId first last))).getD 0)
      | _, _ => db

/-! ## Handling a batch -/

/-- What `_handle_trajectory` answers: `_trajectory_result`. -/
structure TrajectoryResult where
  taskExecutionId : Uuid
  batchId : Uuid
  acceptedFirstSeq : ℕ
  acceptedLastSeq : ℕ
  duplicate : Bool
  accepted : Bool := true
  deriving DecidableEq

def trajectoryResult (receipt : TrajectoryBatchReceipt) (duplicate : Bool) : TrajectoryResult where
  taskExecutionId := receipt.taskExecution
  batchId := receipt.batchId
  acceptedFirstSeq := receipt.firstSeq
  acceptedLastSeq := receipt.lastSeq
  duplicate := duplicate

inductive TrajectoryFailure
  /-- `ProtocolError("UNKNOWN_TASK_EXECUTION", ...)`. -/
  | unknownTaskExecution
  /-- Any other exception; the transaction is rolled back. -/
  | raised
  deriving DecidableEq

/-- `_handle_trajectory`. With `overlooked` the first look-up was made before another worker
    committed the receipt it should have found. -/
def handleTrajectory (decimal : ℕ → ℕ → Json → Option ℚ) (overlooked : Bool)
    (db : TrajectoryDb 𝕜) (batch : TrajectoryBatch) :
    Except TrajectoryFailure (TrajectoryDb 𝕜 × TrajectoryResult) :=
  match if overlooked then none else db.receipt? batch.batchId with
  | some existing => .ok (db, trajectoryResult existing true)
  | none =>
    match db.execution? batch.taskExecutionId with
    | none => .error .unknownTaskExecution
    | some execution =>
      match buildPoints decimal batch with
      | none => .error .raised
      | some points =>
        -- The constraint on the receipt's key undoes the points as well.
        match db.receipt? batch.batchId with
        | some receipt => .ok (db, trajectoryResult receipt true)
        | none =>
          -- The check `trajectory_batch_valid_range`.
          if batch.lastSeq < batch.firstSeq then .error .raised
          else
          let receipt : TrajectoryBatchReceipt :=
            { batchId := batch.batchId
              taskExecution := batch.taskExecutionId
              firstSeq := batch.firstSeq
              lastSeq := batch.lastSeq
              pointCount := points.length }
          let stored : TrajectoryDb 𝕜 :=
            { db with
              points := bulkCreate points db.points
              receipts := db.receipts ++ [receipt] }
          .ok (updatePatrolLoopDistance hypot stored
            (execution.loopSessionId.bind db.loopSession?) execution.id batch.batchId,
            trajectoryResult receipt false)

/-! ## What handling a batch does -/

def receiptOf (batch : TrajectoryBatch) (points : List TrajectoryPoint) : TrajectoryBatchReceipt where
  batchId := batch.batchId
  taskExecution := batch.taskExecutionId
  firstSeq := batch.firstSeq
  lastSeq := batch.lastSeq
  pointCount := points.length

/-- The tables once the points of a batch and its receipt are stored. -/
def store (db : TrajectoryDb 𝕜) (batch : TrajectoryBatch) (points : List TrajectoryPoint) :
    TrajectoryDb 𝕜 :=
  { db with
    points := bulkCreate points db.points
    receipts := db.receipts ++ [receiptOf batch points] }

variable {hypot} {decimal : ℕ → ℕ → Json → Option ℚ} {overlooked : Bool}
  {db db' : TrajectoryDb 𝕜} {batch : TrajectoryBatch} {result : TrajectoryResult}

theorem handleTrajectory_cases
    (h : handleTrajectory hypot decimal overlooked db batch = .ok (db', result)) :
    (∃ receipt, db.receipt? batch.batchId = some receipt ∧ db' = db ∧
      result = trajectoryResult receipt true) ∨
    ∃ execution points, db.receipt? batch.batchId = none ∧
      db.execution? batch.taskExecutionId = some execution ∧
      buildPoints decimal batch = some points ∧
      db' = updatePatrolLoopDistance hypot (db.store batch points)
        (execution.loopSessionId.bind db.loopSession?) execution.id batch.batchId ∧
      result = trajectoryResult (receiptOf batch points) false := by
  simp only [handleTrajectory] at h
  split at h
  · next existing hfound =>
    cases overlooked with
    | true => exact absurd hfound (by simp)
    | false =>
      obtain ⟨rfl, rfl⟩ := Prod.mk.inj (Except.ok.inj h)
      exact Or.inl ⟨existing, by simpa using hfound, rfl, rfl⟩
  split at h
  · exact absurd h (by simp)
  next execution hexecution =>
  split at h
  · exact absurd h (by simp)
  next points hpoints =>
  split at h
  · next receipt hreceipt =>
    obtain ⟨rfl, rfl⟩ := Prod.mk.inj (Except.ok.inj h)
    exact Or.inl ⟨receipt, hreceipt, rfl, rfl⟩
  next hnone =>
  split at h
  · exact absurd h (by simp)
  obtain ⟨rfl, rfl⟩ := Prod.mk.inj (Except.ok.inj h)
  exact Or.inr ⟨execution, points, hnone, hexecution, hpoints, rfl, rfl⟩

theorem updatePatrolLoopDistance_eq (db : TrajectoryDb 𝕜) (session : Option (LoopDistance 𝕜))
    (execution batchId : Uuid) :
    ∃ rows, updatePatrolLoopDistance hypot db session execution batchId =
      { db with loopSessions := rows } := by
  unfold updatePatrolLoopDistance
  split
  · exact ⟨db.loopSessions, rfl⟩
  dsimp only
  split
  · exact ⟨_, rfl⟩
  split
  · exact ⟨_, rfl⟩
  · exact ⟨db.loopSessions, rfl⟩

theorem buildPoint_eq {sample : TrajectorySample} {point : TrajectoryPoint}
    (h : buildPoint decimal batch sample = some point) :
    point.taskExecution = batch.taskExecutionId ∧ point.batchId = batch.batchId ∧
      point.seq = sample.seq := by
  simp only [buildPoint, Option.bind_eq_bind] at h
  obtain ⟨x, -, h⟩ := Option.bind_eq_some_iff.1 h
  obtain ⟨y, -, h⟩ := Option.bind_eq_some_iff.1 h
  obtain ⟨yaw, -, h⟩ := Option.bind_eq_some_iff.1 h
  split at h
  · obtain rfl := Option.some.inj h
    exact ⟨rfl, rfl, rfl⟩
  · obtain ⟨speedMps, -, h⟩ := Option.bind_eq_some_iff.1 h
    obtain rfl := Option.some.inj h
    exact ⟨rfl, rfl, rfl⟩

theorem buildPoints_forall₂ {points : List TrajectoryPoint}
    (h : buildPoints decimal batch = some points) :
    List.Forall₂ (fun sample point => buildPoint decimal batch sample = some point) batch.points
      points := by
  have hall : ∀ (samples : List TrajectorySample) (points : List TrajectoryPoint),
      samples.mapM (buildPoint decimal batch) = some points →
        List.Forall₂ (fun sample point => buildPoint decimal batch sample = some point) samples
          points := by
    intro samples
    induction samples with
    | nil =>
      intro points h
      obtain rfl := Option.some.inj h
      exact List.Forall₂.nil
    | cons sample samples ih =>
      intro points h
      rw [List.mapM_cons] at h
      obtain ⟨point, hpoint, h⟩ := Option.bind_eq_some_iff.1 h
      obtain ⟨rest, hrest, h⟩ := Option.bind_eq_some_iff.1 h
      obtain rfl := Option.some.inj h
      exact List.Forall₂.cons hpoint (ih rest hrest)
  exact hall batch.points points h

theorem mem_buildPoints {points : List TrajectoryPoint} (h : buildPoints decimal batch = some points)
    {p : TrajectoryPoint} (hp : p ∈ points) :
    p.taskExecution = batch.taskExecutionId ∧ p.batchId = batch.batchId := by
  obtain ⟨i, hi, rfl⟩ := List.getElem_of_mem hp
  obtain ⟨hlength, hall⟩ := List.forall₂_iff_get.1 (buildPoints_forall₂ h)
  obtain ⟨he, hb, -⟩ := buildPoint_eq (hall i (hlength ▸ hi) hi)
  exact ⟨he, hb⟩

theorem seq_buildPoints {points : List TrajectoryPoint} (h : buildPoints decimal batch = some points) :
    points.map (·.seq) = batch.points.map (·.seq) := by
  have hall := buildPoints_forall₂ h
  generalize batch.points = samples at hall ⊢
  clear h
  induction hall with
  | nil => rfl
  | cons hpoint _ ih => rw [List.map_cons, List.map_cons, (buildPoint_eq hpoint).2.2, ih]

end Loop

end TrajectoryDb

end RoamerX
