import RoamerX.Protocol.Texts

set_option autoImplicit false

/-! # Trajectory batches

The payloads of a `trajectory.batch` and of the `trajectory.ack` that answers it, as both ends hold
them. -/

namespace RoamerX

/-- A point of a `trajectory.batch`. -/
structure TrajectorySample where
  seq : ℕ
  sampledAt : ℕ
  x : JsonNumber
  y : JsonNumber
  yaw : JsonNumber
  speedMps : Option Json := none
  localizationStatus : String
  keyframe : Option (List (String × Json)) := none

/-- The payload of a `trajectory.batch`. -/
structure TrajectoryBatch where
  taskExecutionId : Uuid
  mapId : String := ""
  mapVersion : String := ""
  frameId : String := "map"
  batchId : Uuid
  firstSeq : ℕ
  lastSeq : ℕ
  points : List TrajectorySample

/-- The payload of a `trajectory.ack`. -/
structure TrajectoryAck where
  /-- `payload.get("batch_id")` as a text, empty where there is none. -/
  batchId : String
  accepted : Bool := false
  duplicate : Bool := false
  reasonCode : String := ""
  deriving DecidableEq

end RoamerX
