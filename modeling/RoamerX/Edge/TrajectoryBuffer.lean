import RoamerX.Protocol.TrajectoryBatch
import RoamerX.Edge.Outbox

set_option autoImplicit false

/-! # The trajectory buffer of the Edge

`trajectory_buffer.py`: points are collected into batches, which go to the outbox and stay there
until the center acknowledges them. The buffer itself is in memory and is lost with the process. -/

namespace RoamerX

/-- `trajectory_batch_size`. -/
abbrev BatchSize := { n : ℕ // 1 ≤ n ∧ n ≤ 100 }

/-- `PoseSnapshot`; `sampled_at` is the text of an instant in whole milliseconds. -/
structure PoseSnapshot where
  sampledAtMs : ℕ
  x : JsonNumber
  y : JsonNumber
  yaw : JsonNumber
  speedMps : JsonNumber
  localizationStatus : String
  deriving DecidableEq

/-- The point `sample` builds of a pose. -/
def PoseSnapshot.point (pose : PoseSnapshot) (seq : ℕ) (keyframe : Option (List (String × Json))) :
    TrajectorySample where
  seq := seq
  sampledAt := 1000 * pose.sampledAtMs
  x := pose.x
  y := pose.y
  yaw := pose.yaw
  speedMps := some (.num pose.speedMps)
  localizationStatus := pose.localizationStatus
  keyframe := keyframe

/-! ## Payloads -/

def samplePayload (texts : Texts) (sample : TrajectorySample) : Json :=
  .obj (
    [("seq", .num (.int sample.seq)),
      ("sampled_at", .str (texts.isoText (sample.sampledAt / 1000))),
      ("x", .num sample.x),
      ("y", .num sample.y),
      ("yaw", .num sample.yaw),
      ("speed_mps", sample.speedMps.getD .null),
      ("localization_status", .str sample.localizationStatus)] ++
    match sample.keyframe with
    | none => []
    | some keyframe => [("keyframe", .obj keyframe)])

def trajectoryPayload (texts : Texts) (batch : TrajectoryBatch) : List (String × Json) :=
  [("task_execution_id", .str (texts.uuidText batch.taskExecutionId)),
    ("map_id", .str batch.mapId),
    ("map_version", .str batch.mapVersion),
    ("frame_id", .str batch.frameId),
    ("batch_id", .str (texts.uuidText batch.batchId)),
    ("first_seq", .num (.int batch.firstSeq)),
    ("last_seq", .num (.int batch.lastSeq)),
    ("points", .arr (batch.points.map (samplePayload texts)))]

/-! ## The buffer -/

structure TrajectoryBuffer where
  batchSize : BatchSize
  points : List TrajectorySample := []
  executionId : Option Uuid := none
  mapId : String := ""
  mapVersion : String := ""

namespace TrajectoryBuffer

/-- The batch that `_flush_locked` builds. -/
def nextBatch (b : TrajectoryBuffer) (execution batchId : Uuid) (first : TrajectorySample)
    (rest : List TrajectorySample) : TrajectoryBatch where
  taskExecutionId := execution
  mapId := b.mapId
  mapVersion := b.mapVersion
  batchId := batchId
  firstSeq := first.seq
  lastSeq := ((first :: rest).getLast (List.cons_ne_nil _ _)).seq
  points := first :: rest

/-- `_flush_locked`; the new batch gets the id `batchId`. -/
def flushLocked (texts : Texts) (batchId : Uuid) (b : TrajectoryBuffer) (store : LocalStore) :
    TrajectoryBuffer × LocalStore × Option TrajectoryBatch :=
  match b.points, b.executionId with
  | [], _ => (b, store, none)
  | _ :: _, none => (b, store, none)
  | first :: rest, some execution =>
    let batch := b.nextBatch execution batchId first rest
    ({ batchSize := b.batchSize },
      store.enqueueOutbox "trajectory.batch" (trajectoryPayload texts batch)
        (some (texts.uuidText batchId)),
      some batch)

/-- The part of `sample` that empties the buffer when another execution or map begins. -/
def changeover (texts : Texts) (batchId execution : Uuid) (mapId mapVersion : String)
    (b : TrajectoryBuffer) (store : LocalStore) :
    TrajectoryBuffer × LocalStore × Option TrajectoryBatch :=
  if b.points ≠ [] ∧
      (b.executionId ≠ some execution ∨ b.mapId ≠ mapId ∨ b.mapVersion ≠ mapVersion) then
    b.flushLocked texts batchId store
  else (b, store, none)

/-- The part of `sample` that adds a point. -/
def append (execution : Uuid) (mapId mapVersion : String) (pose : PoseSnapshot)
    (keyframe : Option (List (String × Json))) (b : TrajectoryBuffer) (store : LocalStore) :
    TrajectoryBuffer × LocalStore :=
  let (seq, store) := store.nextTrajectorySeq execution
  ({ b with
      points := b.points ++ [pose.point seq keyframe]
      executionId := some execution
      mapId := mapId
      mapVersion := mapVersion },
    store)

/-- The part of `sample` that flushes a full buffer; `due` says that `flush_seconds` have passed. -/
def flushFull (texts : Texts) (batchId : Uuid) (due : Bool) (b : TrajectoryBuffer)
    (store : LocalStore) : TrajectoryBuffer × LocalStore × Option TrajectoryBatch :=
  if b.batchSize.1 ≤ b.points.length ∨ due then b.flushLocked texts batchId store
  else (b, store, none)

/-- `sample`, which may emit two batches. -/
def sample (texts : Texts) (early late execution : Uuid) (mapId mapVersion : String)
    (pose : PoseSnapshot) (keyframe : Option (List (String × Json))) (due : Bool)
    (b : TrajectoryBuffer) (store : LocalStore) :
    TrajectoryBuffer × LocalStore × List TrajectoryBatch :=
  let (b, store, before) := b.changeover texts early execution mapId mapVersion store
  let (b, store) := b.append execution mapId mapVersion pose keyframe store
  let (b, store, after) := b.flushFull texts late due store
  (b, store, before.toList ++ after.toList)

def flush (texts : Texts) (batchId execution : Uuid) (mapId mapVersion : String)
    (b : TrajectoryBuffer) (store : LocalStore) :
    TrajectoryBuffer × LocalStore × Option TrajectoryBatch :=
  if b.points ≠ [] ∧ b.executionId = none then
    flushLocked texts batchId
      { b with
        executionId := some execution
        mapId := mapId
        mapVersion := mapVersion }
      store
  else b.flushLocked texts batchId store

def flushActive (texts : Texts) (batchId : Uuid) (b : TrajectoryBuffer) (store : LocalStore) :
    TrajectoryBuffer × LocalStore × Option TrajectoryBatch :=
  b.flushLocked texts batchId store

def handleAck (ack : TrajectoryAck) (store : LocalStore) : LocalStore :=
  if ack.batchId = "" then store
  else if ack.accepted || ack.duplicate then store.ackOutboxKey ack.batchId
  else if ack.reasonCode = "INVALID_MESSAGE" ∨ ack.reasonCode = "UNKNOWN_TASK_EXECUTION" then
    store.ackOutboxKey ack.batchId
  else store

end TrajectoryBuffer

end RoamerX
