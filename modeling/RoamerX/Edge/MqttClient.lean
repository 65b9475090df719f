import RoamerX.Lib.Run
import Mathlib.Data.List.Nodup
import Mathlib.Data.PNat.Defs
import Mathlib.Logic.Function.Basic

set_option autoImplicit false

/-! # The MQTT client of the Edge

`publish` and `replay_outbox` of `mqtt_client.py` with the outbox of `local_store.py`. A message goes to the broker
directly where there is a connection and is queued on disk otherwise; two threads replay what is queued. The state
keeps a history of what was published, handed over and stored, which no step reads. -/

namespace RoamerX

namespace MqttClient

/-! ## State -/

/-- A message with where it goes; `batchId` is `payload["payload"]["batch_id"]`. -/
structure Message where
  topic : String
  messageType : String
  qos : ℕ
  retain : Bool
  batchId : Option String
  deriving DecidableEq

/-- A row of `outbox`; `publish` is the number of the publish that stored it, where one did. -/
structure Row where
  id : ℕ
  message : Message
  dedupeKey : Option String
  publish : Option ℕ
  deriving DecidableEq

/-- The threads that replay: `_outbox_loop` and the one that samples trajectories. -/
inductive Thread
  | outboxLoop | trajectoryLoop
  deriving DecidableEq

structure Client where
  /-- `max(1, trajectory_outbox_limit)` and `max(1, system_log_outbox_limit)`. -/
  trajectoryOutboxLimit : ℕ+
  systemLogOutboxLimit : ℕ+
  connected : Bool
  outbox : List Row
  /-- The last id of the `AUTOINCREMENT` key. -/
  lastRowId : ℕ
  /-- What a thread has listed and not come to yet. -/
  replays : Thread → List Row
  published : List Message
  /-- The numbers of the messages that the client library took, in this order. -/
  handed : List ℕ
  /-- The numbers of the publishes for which a row was inserted. -/
  stored : List ℕ

/-! ## The outbox -/

/-- The rows of one message type, the newest `limit` of them; ids grow along the table. -/
def newest (messageType : String) (limit : ℕ) (rows : List Row) : List Row :=
  (rows.filter fun row => decide (row.message.messageType = messageType)).reverse.take limit

/-- `DELETE FROM outbox WHERE message_type = ? AND id NOT IN (...)` -/
def prune (messageType : String) (limit : ℕ) (rows : List Row) : List Row :=
  rows.filter fun row => decide (row.message.messageType ≠ messageType) ||
    decide (row.id ∈ (newest messageType limit rows).map Row.id)

/-- `INSERT OR IGNORE`, on the unique `dedupe_key`. -/
def insertOutbox (s : Client) (message : Message) (dedupeKey : Option String) (publish : Option ℕ) : Client :=
  if dedupeKey.isSome && s.outbox.any (fun row => decide (row.dedupeKey = dedupeKey)) then s
  else
    { s with
      outbox := s.outbox ++ [⟨s.lastRowId + 1, message, dedupeKey, publish⟩]
      lastRowId := s.lastRowId + 1
      stored := s.stored ++ publish.toList }

def enqueueOutbox (s : Client) (message : Message) (dedupeKey : Option String) (publish : Option ℕ) : Client :=
  let inserted := insertOutbox s message dedupeKey publish
  if message.messageType = "trajectory.batch" then
    { inserted with outbox := prune "trajectory.batch" s.trajectoryOutboxLimit inserted.outbox }
  else if message.messageType = "system.log.batch" then
    { inserted with outbox := prune "system.log.batch" s.systemLogOutboxLimit inserted.outbox }
  else inserted

def Row.isTrajectory (row : Row) : Bool := decide (row.message.messageType = "trajectory.batch")

/-- `list_pending_outbox`: trajectories last. -/
def listPendingOutbox (s : Client) (limit : ℕ) : List Row :=
  (s.outbox.filter (fun row => !row.isTrajectory) ++ s.outbox.filter Row.isTrajectory).take limit

/-! ## Steps -/

inductive Outcome
  /-- `info.rc` is an error. -/
  | refused
  /-- The library took the message; `confirmed` is `info.is_published()` after the wait. -/
  | accepted (confirmed : Bool)
  /-- The process ends before the message is handed over or stored. -/
  | died
  deriving DecidableEq

inductive Event
  | connect
  | disconnect
  /-- A new process on the same file, with the limits that are configured now. -/
  | restart (trajectoryOutboxLimit systemLogOutboxLimit : ℕ+)
  | publish (message : Message) (wait : Bool) (outcome : Outcome)
  /-- The trajectory buffer stores a batch. -/
  | storeBatch (topic batchId : String)
  /-- The center has taken a batch. -/
  | ackBatch (batchId : String)
  /-- `replay_outbox` lists the rows. -/
  | startReplay (thread : Thread) (limit : ℕ)
  /-- The next row of a replay is handed to the library, which takes it or not. -/
  | replayNext (thread : Thread) (accepted : Bool)
  /-- The library takes the next row of a replay, and the process ends before the row is deleted. -/
  | replayDied (thread : Thread)
  deriving DecidableEq

def restarted (s : Client) : Client := { s with connected := false, replays := fun _ => [] }

def handOver (s : Client) (publish : Option ℕ) : Client := { s with handed := s.handed ++ publish.toList }

/-- `publish`, of a message that is in the history already. -/
def publish (s : Client) (message : Message) (wait : Bool) (outcome : Outcome) (number : ℕ) : Client :=
  match outcome with
  | .died => restarted s
  | outcome =>
    if !s.connected then
      if message.qos = 0 then s else enqueueOutbox s message message.batchId (some number)
    else
      match outcome with
      | .accepted confirmed =>
        let s := handOver s (some number)
        if !wait || message.qos < 1 || confirmed then s else enqueueOutbox s message none (some number)
      | _ => enqueueOutbox s message none (some number)

/-- `ack_outbox(row_id=...)` -/
def ackOutboxRow (s : Client) (id : ℕ) : Client :=
  { s with outbox := s.outbox.filter fun row => decide (row.id ≠ id) }

def step (s : Client) : Event → Client
  | .connect => { s with connected := true }
  | .disconnect => { s with connected := false }
  | .restart trajectoryOutboxLimit systemLogOutboxLimit =>
    { restarted s with
      trajectoryOutboxLimit := trajectoryOutboxLimit
      systemLogOutboxLimit := systemLogOutboxLimit
      outbox := prune "trajectory.batch" trajectoryOutboxLimit s.outbox }
  | .publish message wait outcome =>
    publish { s with published := s.published ++ [message] } message wait outcome s.published.length
  | .storeBatch topic batchId =>
    enqueueOutbox s ⟨topic, "trajectory.batch", 1, false, some batchId⟩ (some batchId) none
  | .ackBatch batchId => { s with outbox := s.outbox.filter fun row => decide (row.dedupeKey ≠ some batchId) }
  | .startReplay thread limit =>
    if !s.connected then s
    else { s with replays := Function.update s.replays thread (listPendingOutbox s (max 1 limit)) }
  | .replayNext thread accepted =>
    match s.replays thread with
    | [] => s
    | row :: rows =>
      let s := { s with replays := Function.update s.replays thread rows }
      if accepted then
        let s := handOver s row.publish
        if row.isTrajectory then s else ackOutboxRow s row.id
      else s
  | .replayDied thread =>
    match s.replays thread with
    | [] => s
    | row :: _ => restarted (handOver s row.publish)

def initial (trajectoryOutboxLimit systemLogOutboxLimit : ℕ+) : Client where
  trajectoryOutboxLimit := trajectoryOutboxLimit
  systemLogOutboxLimit := systemLogOutboxLimit
  connected := false
  outbox := []
  lastRowId := 0
  replays := fun _ => []
  published := []
  handed := []
  stored := []

end MqttClient

end RoamerX
