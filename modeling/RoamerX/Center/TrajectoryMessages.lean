import RoamerX.Center.Protocol

set_option autoImplicit false

/-! # Receiving trajectory batches

A `trajectory.batch` on its way from the broker to the tables: `MqttDeviceWorker.on_message` checks
the payload, `_handle_trajectory` reads and stores it, and the Edge is answered. A positive answer
is sent once the transaction is committed. -/

namespace RoamerX

/-! ## Reading a payload -/

/-- What a `BigIntegerField` stores for a number that was found equal to an integer. -/
def Json.toNat? : Json → Option ℕ
  | .num (.int n) => if n < 0 then none else some n.toNat
  | .num (.float q) => if q < 0 then none else some q.floor.toNat
  | .bool b => some (if b then 1 else 0)
  | _ => none

/-- `point["x"]`, which was found to be a number. -/
def coordinate? (point : List (String × Json)) (key : String) : Option JsonNumber :=
  match Json.get? point key with
  | some (.num v) => some v
  | _ => none

/-- What a `CharField` stores for a member; `NULL` is refused. -/
def charField? (texts : Texts) : Json → Option String
  | .null => none
  | value => some (texts.str value)

def readSample (texts : Texts) : Json → Option TrajectorySample
  | .obj point => do
    let seq ← (Json.get? point "seq").bind Json.toNat?
    let sampledAt ← match texts.datetime (texts.str ((Json.get? point "sampled_at").getD .null)) with
      | .aware instant => some instant
      | _ => none
    let x ← coordinate? point "x"
    let y ← coordinate? point "y"
    let yaw ← coordinate? point "yaw"
    let localizationStatus ← (Json.get? point "localization_status").bind (charField? texts)
    return {
      seq := seq
      sampledAt := sampledAt
      x := x
      y := y
      yaw := yaw
      speedMps := (Json.get? point "speed_mps").filter (fun v => !v.isNull)
      localizationStatus := localizationStatus
      keyframe := match Json.get? point "keyframe" with
        | some (.obj keyframe) => some keyframe
        | _ => none }
  | _ => none

/-- What `_handle_trajectory` reads off a payload that passed the checks; `none` is an exception
    other than a `ProtocolError`. -/
def readBatch (texts : Texts) (payload : List (String × Json)) : Option TrajectoryBatch := do
  let batchId ← (Json.get? payload "batch_id").bind (fun v => texts.uuid? (texts.str v))
  let taskExecutionId ←
    (Json.get? payload "task_execution_id").bind (fun v => texts.uuid? (texts.str v))
  let mapId ← charField? texts ((Json.get? payload "map_id").getD (.str ""))
  let mapVersion ← charField? texts ((Json.get? payload "map_version").getD (.str ""))
  let frameId ← charField? texts ((Json.get? payload "frame_id").getD (.str "map"))
  let firstSeq ← (Json.get? payload "first_seq").bind Json.toNat?
  let lastSeq ← (Json.get? payload "last_seq").bind Json.toNat?
  let points ← match Json.get? payload "points" with
    | some (.arr points) => points.mapM (readSample texts)
    | _ => none
  return {
    taskExecutionId := taskExecutionId
    mapId := mapId
    mapVersion := mapVersion
    frameId := frameId
    batchId := batchId
    firstSeq := firstSeq
    lastSeq := lastSeq
    points := points }

/-! ## Answering -/

/-- `_publish_trajectory_ack`. -/
def TrajectoryResult.ack (texts : Texts) (result : TrajectoryDb.TrajectoryResult) : TrajectoryAck where
  batchId := texts.uuidText result.batchId
  accepted := result.accepted
  duplicate := result.duplicate

/-- `_publish_trajectory_rejection`, for the errors that a replay cannot mend. -/
def trajectoryRejection (texts : Texts) (payload : List (String × Json)) (error : ProtocolError) :
    Option TrajectoryAck :=
  if error.code = "INVALID_MESSAGE" ∨ error.code = "UNKNOWN_TASK_EXECUTION" then
    match Json.get? payload "batch_id" with
    | some batchId =>
      if batchId.truthy then some { batchId := texts.str batchId, reasonCode := error.code }
      else none
    | none => none
  else none

theorem trajectoryRejection_eq {texts : Texts} {payload : List (String × Json)}
    {error : ProtocolError} {ack : TrajectoryAck}
    (h : trajectoryRejection texts payload error = some ack) :
    ack.accepted = false ∧ ack.duplicate = false := by
  unfold trajectoryRejection at h
  split at h
  · split at h
    · split at h
      · obtain rfl := Option.some.inj h
        exact ⟨rfl, rfl⟩
      · exact absurd h (by simp)
    · exact absurd h (by simp)
  · exact absurd h (by simp)

/-- `on_message` for a `trajectory.batch`: the tables after it and what is published. -/
def receiveTrajectory {𝕜 : Type*} [Field 𝕜] [LinearOrder 𝕜] [FloorRing 𝕜] (hypot : ℚ → ℚ → 𝕜)
    (decimal : ℕ → ℕ → Json → Option ℚ) (texts : Texts) (overlooked : Bool) (db : TrajectoryDb 𝕜)
    (payload : List (String × Json)) : TrajectoryDb 𝕜 × Option TrajectoryAck :=
  match validateTrajectoryBatch texts payload with
  | .error (.protocol error) => (db, trajectoryRejection texts payload error)
  | .error (.other _) => (db, none)
  | .ok () =>
    match readBatch texts payload with
    | none => (db, none)
    | some batch =>
      match TrajectoryDb.handleTrajectory hypot decimal overlooked db batch with
      | .ok (db', result) => (db', some (TrajectoryResult.ack texts result))
      | .error .unknownTaskExecution =>
        (db, trajectoryRejection texts payload
          ⟨"UNKNOWN_TASK_EXECUTION", "task execution not found"⟩)
      | .error .raised => (db, none)

end RoamerX
