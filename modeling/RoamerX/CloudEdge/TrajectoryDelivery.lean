import RoamerX.CloudEdge.TrajectoryEncoding
import RoamerX.Center.LoopTotals

set_option autoImplicit false

/-! # The delivery of trajectories

The buffer and the outbox of an Edge, the network, and the tables of the center. The network keeps
what was ever published and may deliver any of it at any time, any number of times, or never. Every
access to the store and every transaction of the center is a step of its own, and the Edge may be
restarted between any two of them. -/

namespace RoamerX

/-- Where the thread stands that runs `TrajectoryBuffer.sample`. -/
inductive SamplePhase
  | idle
  /-- The buffer has been emptied for a new execution or map; the point comes next. -/
  | appending (execution : Uuid) (mapId mapVersion : String) (pose : PoseSnapshot)
      (keyframe : Option (List (String × Json)))
  /-- The point has been added; a full buffer is flushed next. -/
  | flushing

/-- What the buffer looks like where `sample` stands. -/
def SamplePhase.Fits (b : TrajectoryBuffer) : SamplePhase → Prop
  | .idle => b.points.length < b.batchSize.1
  | .appending execution _ _ _ _ =>
    b.points.length < b.batchSize.1 ∧ (b.points = [] ∨ b.executionId = some execution)
  | .flushing => True

/-- The two ends and the network between them. -/
structure Delivery (𝕜 : Type*) where
  buffer : TrajectoryBuffer
  store : LocalStore
  phase : SamplePhase := .idle
  /-- The batches that were ever emitted. -/
  emitted : List TrajectoryBatch := []
  /-- The payloads that were ever published. -/
  published : List (List (String × Json)) := []
  center : TrajectoryDb 𝕜 := {}
  /-- The answers that were ever published. -/
  acks : List TrajectoryAck := []

/-- What may happen. Identifiers drawn with `uuid4` are given with the step that draws them. -/
inductive DeliveryInput
  /-- `sample` begins. -/
  | sampleBegin (batchId execution : Uuid) (mapId mapVersion : String) (pose : PoseSnapshot)
      (keyframe : Option (List (String × Json)))
  /-- `sample` adds its point. -/
  | sampleAppend
  /-- `sample` ends; `due` says that `flush_seconds` have passed. -/
  | sampleEnd (batchId : Uuid) (due : Bool)
  | flush (batchId execution : Uuid) (mapId mapVersion : String)
  | flushActive (batchId : Uuid)
  /-- Another message goes to the outbox. -/
  | enqueue (messageType : String) (payload : List (String × Json))
  /-- `replay_outbox`; `success` is the return code for a row. -/
  | replay (limit : ℕ) (success : ℕ → Bool)
  /-- The process of the Edge ends and is started again, perhaps with another configuration. -/
  | restart (batchSize : BatchSize) (trajectoryLimit systemLogLimit : ℕ+)
  /-- The `i`-th published payload reaches the center; the answer may be lost with the process. -/
  | receive (i : ℕ) (overlooked answered : Bool)
  /-- The `i`-th answer reaches the Edge. -/
  | ack (i : ℕ)
  /-- The center creates a loop session or an execution. -/
  | newSession (id : Uuid) (counted : Bool)
  | newExecution (execution : TrajectoryExecution)

namespace Delivery

variable {𝕜 : Type*} [Field 𝕜] [LinearOrder 𝕜] [FloorRing 𝕜]

/-- `uuid4` draws what was never drawn before. -/
def fresh (s : Delivery 𝕜) (id : Uuid) : Bool := s.emitted.all (fun batch => decide (batch.batchId ≠ id))

/-- The Edge after an operation of the buffer. -/
def afterBuffer (s : Delivery 𝕜) (phase : SamplePhase)
    (r : TrajectoryBuffer × LocalStore × Option TrajectoryBatch) : Delivery 𝕜 :=
  { s with
    buffer := r.1
    store := r.2.1
    phase := phase
    emitted := s.emitted ++ r.2.2.toList }

/-- One step. The buffer's lock keeps its operations apart. -/
def step (hypot : ℚ → ℚ → 𝕜) (decimal : ℕ → ℕ → Json → Option ℚ) (texts : Texts) (s : Delivery 𝕜) :
    DeliveryInput → Delivery 𝕜
  | .sampleBegin batchId execution mapId mapVersion pose keyframe =>
    match s.phase with
    | .idle =>
      if s.fresh batchId then
        s.afterBuffer (.appending execution mapId mapVersion pose keyframe)
          (s.buffer.changeover texts batchId execution mapId mapVersion s.store)
      else s
    | _ => s
  | .sampleAppend =>
    match s.phase with
    | .appending execution mapId mapVersion pose keyframe =>
      let r := s.buffer.append execution mapId mapVersion pose keyframe s.store
      s.afterBuffer .flushing (r.1, r.2, none)
    | _ => s
  | .sampleEnd batchId due =>
    match s.phase with
    | .flushing =>
      if s.fresh batchId then
        s.afterBuffer .idle (s.buffer.flushFull texts batchId due s.store)
      else s
    | _ => s
  | .flush batchId execution mapId mapVersion =>
    match s.phase with
    | .idle =>
      if s.fresh batchId then
        s.afterBuffer .idle (s.buffer.flush texts batchId execution mapId mapVersion s.store)
      else s
    | _ => s
  | .flushActive batchId =>
    match s.phase with
    | .idle =>
      if s.fresh batchId then
        s.afterBuffer .idle (s.buffer.flushActive texts batchId s.store)
      else s
    | _ => s
  | .enqueue messageType payload =>
    -- No other message has a batch id.
    if messageType = "trajectory.batch" then s
    else { s with store := s.store.enqueueOutbox messageType payload none }
  | .replay limit success =>
    let r := s.store.replayOutbox limit success
    { s with
      store := r.2
      published := s.published ++ (r.1.filter (·.isTrajectory)).map (·.payload) }
  | .restart batchSize trajectoryLimit systemLogLimit =>
    { s with
      buffer := { batchSize := batchSize }
      store := s.store.reopen trajectoryLimit systemLogLimit
      phase := .idle }
  | .receive i overlooked answered =>
    match s.published[i]? with
    | some payload =>
      let r := receiveTrajectory hypot decimal texts overlooked s.center payload
      { s with
        center := r.1
        acks := s.acks ++ if answered then r.2.toList else [] }
    | none => s
  | .ack i =>
    match s.acks[i]? with
    | some ack => { s with store := TrajectoryBuffer.handleAck ack s.store }
    | none => s
  | .newSession id counted => { s with center := s.center.newSession id counted }
  | .newExecution execution => { s with center := s.center.newExecution execution }

/-! ## The tables of the center -/

/-- What the center has stored was emitted, and of every batch with a receipt it has all points. -/
structure Stored (decimal : ℕ → ℕ → Json → Option ℚ) (emitted : List TrajectoryBatch)
    (db : TrajectoryDb 𝕜) : Prop where
  sorted : db.points.Pairwise TrajectoryPoint.Before
  points : ∀ p ∈ db.points, ∃ batch ∈ emitted, ∃ r ∈ db.receipts, r.batchId = batch.batchId ∧
    p.taskExecution = batch.taskExecutionId ∧ batch.firstSeq ≤ p.seq ∧
      p.seq < batch.firstSeq + batch.points.length
  receipts : ∀ r ∈ db.receipts, ∃ batch ∈ emitted, batch.batchId = r.batchId ∧
    ∃ points, TrajectoryDb.buildPoints decimal batch = some points ∧ ∀ p ∈ points, p ∈ db.points

namespace Stored

variable {decimal : ℕ → ℕ → Json → Option ℚ} {emitted : List TrajectoryBatch} {db : TrajectoryDb 𝕜}

omit [Field 𝕜] [LinearOrder 𝕜] [FloorRing 𝕜] in
theorem empty : Stored decimal emitted ({} : TrajectoryDb 𝕜) :=
  ⟨List.Pairwise.nil, by simp, by simp⟩

omit [Field 𝕜] [LinearOrder 𝕜] [FloorRing 𝕜] in
theorem mono (h : Stored decimal emitted db) (more : List TrajectoryBatch) :
    Stored decimal (emitted ++ more) db := by
  refine ⟨h.sorted, fun p hp => ?_, fun r hr => ?_⟩
  · obtain ⟨batch, hbatch, hrest⟩ := h.points p hp
    exact ⟨batch, List.mem_append_left _ hbatch, hrest⟩
  · obtain ⟨batch, hbatch, hrest⟩ := h.receipts r hr
    exact ⟨batch, List.mem_append_left _ hbatch, hrest⟩

omit [Field 𝕜] [LinearOrder 𝕜] [FloorRing 𝕜] in
theorem congr (h : Stored decimal emitted db) {db' : TrajectoryDb 𝕜} (hpoints : db'.points = db.points)
    (hreceipts : db'.receipts = db.receipts) : Stored decimal emitted db' := by
  constructor
  · rw [hpoints]
    exact h.sorted
  · rw [hpoints, hreceipts]
    exact h.points
  · rw [hpoints, hreceipts]
    exact h.receipts

variable {buffer : TrajectoryBuffer} {localStore : LocalStore} {batch : TrajectoryBatch}
  {points : List TrajectoryPoint}

omit [Field 𝕜] [LinearOrder 𝕜] [FloorRing 𝕜] in
theorem new (h : Stored decimal emitted db) (hledger : buffer.Ledger localStore emitted)
    (hbatch : batch ∈ emitted) (hreceipt : db.receipt? batch.batchId = none)
    (hpoints : TrajectoryDb.buildPoints decimal batch = some points) {p q : TrajectoryPoint}
    (hp : p ∈ points) (hq : q ∈ db.points) : ¬p.SameKey q := by
  rintro ⟨hexecution, hseq⟩
  obtain ⟨other, hother, r, hr, hid, hq, hlow, hhigh⟩ := h.points q hq
  have hne : batch.batchId ≠ other.batchId := by
    intro heq
    exact (Rows.get?_eq_none _).1 hreceipt r hr (hid.trans heq.symm)
  have hbounds := (hledger.built batch hbatch).seq_bounds hpoints hp
  rw [(TrajectoryDb.mem_buildPoints hpoints hp).1, hq] at hexecution
  rcases hledger.apart hbatch hother hne hexecution with hbefore | hafter
  · omega
  · omega

omit [Field 𝕜] [LinearOrder 𝕜] [FloorRing 𝕜] in
theorem store (h : Stored decimal emitted db) (hledger : buffer.Ledger localStore emitted)
    (hbatch : batch ∈ emitted) (hreceipt : db.receipt? batch.batchId = none)
    (hpoints : TrajectoryDb.buildPoints decimal batch = some points) :
    Stored decimal emitted (db.store batch points) := by
  have hemitted := hledger.built batch hbatch
  refine ⟨TrajectoryDb.bulkCreate_sorted h.sorted, fun p hp => ?_, fun r hr => ?_⟩
  · rcases TrajectoryDb.mem_bulkCreate hp with hnew | hold
    · exact ⟨batch, hbatch, TrajectoryDb.receiptOf batch points,
        List.mem_append_right _ List.mem_cons_self, rfl,
        (TrajectoryDb.mem_buildPoints hpoints hnew).1, hemitted.seq_bounds hpoints hnew⟩
    · obtain ⟨other, hother, r, hr, hrest⟩ := h.points p hold
      exact ⟨other, hother, r, List.mem_append_left _ hr, hrest⟩
  · rcases List.mem_append.1 hr with hold | hnew
    · obtain ⟨other, hother, hid, stored, hstored, hall⟩ := h.receipts r hold
      exact ⟨other, hother, hid, stored, hstored,
        fun p hp => TrajectoryDb.mem_bulkCreate_of_mem (hall p hp)⟩
    · obtain rfl := List.mem_singleton.1 hnew
      exact ⟨batch, hbatch, rfl, points, hpoints, fun p hp =>
        TrajectoryDb.mem_bulkCreate_of_new (hemitted.distinct hpoints)
          (fun p hp q hq => h.new hledger hbatch hreceipt hpoints hp hq) hp⟩

theorem handle {hypot : ℚ → ℚ → 𝕜} {overlooked : Bool} (h : Stored decimal emitted db)
    (hledger : buffer.Ledger localStore emitted) (hbatch : batch ∈ emitted)
    {db' : TrajectoryDb 𝕜} {result : TrajectoryDb.TrajectoryResult}
    (hhandle : TrajectoryDb.handleTrajectory hypot decimal overlooked db batch = .ok (db', result)) :
    Stored decimal emitted db' ∧ db.receipts ⊆ db'.receipts ∧
      ∃ r ∈ db'.receipts, r.batchId = result.batchId := by
  rcases TrajectoryDb.handleTrajectory_cases hhandle with ⟨r, hr, rfl, rfl⟩ |
    ⟨execution, points, hreceipt, -, hpoints, rfl, rfl⟩
  · exact ⟨h, List.Subset.refl _, r, Rows.get?_mem _ hr, rfl⟩
  · obtain ⟨rows, hrows⟩ : ∃ rows, TrajectoryDb.updatePatrolLoopDistance hypot (db.store batch points)
        (execution.loopSessionId.bind db.loopSession?) execution.id batch.batchId =
          { db.store batch points with loopSessions := rows } :=
      TrajectoryDb.updatePatrolLoopDistance_eq _ _ _ _
    rw [hrows]
    refine ⟨(h.store hledger hbatch hreceipt hpoints).congr rfl rfl,
      List.subset_append_left _ _, TrajectoryDb.receiptOf batch points,
      List.mem_append_right _ List.mem_cons_self, rfl⟩

end Stored

/-! ## The outbox -/

/-- The trajectories in the outbox are batches that were emitted, under their ids. -/
structure Queued (texts : Texts) (emitted : List TrajectoryBatch) (store : LocalStore) : Prop where
  ordered : store.Ordered
  trajectories : ∀ row ∈ store.outbox, row.isTrajectory = true → ∃ batch ∈ emitted,
    row.payload = trajectoryPayload texts batch ∧
      row.dedupeKey = some (texts.uuidText batch.batchId)
  others : ∀ row ∈ store.outbox, row.isTrajectory = false → row.dedupeKey = none

namespace Queued

variable {texts : Texts} {emitted : List TrajectoryBatch} {store : LocalStore}

theorem of_sublist (h : Queued texts emitted store) {store' : LocalStore}
    (hsub : store'.outbox.Sublist store.outbox) (hlast : store'.lastRowId = store.lastRowId) :
    Queued texts emitted store' :=
  ⟨h.ordered.of_sublist hsub hlast, fun row hrow => h.trajectories row (hsub.subset hrow),
    fun row hrow => h.others row (hsub.subset hrow)⟩

theorem uuidText_inj {id id' : Uuid} (h : texts.uuidText id = texts.uuidText id') : id = id' := by
  have hread := congrArg texts.uuid? h
  rw [texts.uuid?_uuidText, texts.uuid?_uuidText] at hread
  exact Option.some.inj hread

theorem fresh (h : Queued texts emitted store) {id : Uuid}
    (hfresh : ∀ batch ∈ emitted, batch.batchId ≠ id) :
    ∀ row ∈ store.outbox, row.dedupeKey ≠ some (texts.uuidText id) := by
  intro row hrow hkey
  cases htype : row.isTrajectory with
  | true =>
    obtain ⟨batch, hbatch, -, hbatchKey⟩ := h.trajectories row hrow htype
    have htext := Option.some.inj (hbatchKey.symm.trans hkey)
    exact hfresh batch hbatch (uuidText_inj htext)
  | false => exact absurd ((h.others row hrow htype).symm.trans hkey) (by simp)

theorem enqueueBatch (h : Queued texts emitted store) (batch : TrajectoryBatch) :
    Queued texts (emitted ++ [batch]) (store.enqueueOutbox "trajectory.batch"
      (trajectoryPayload texts batch) (some (texts.uuidText batch.batchId))) := by
  refine ⟨h.ordered.enqueueOutbox _ _ _, fun row hrow htype => ?_, fun row hrow htype => ?_⟩
  · rcases LocalStore.mem_enqueueOutbox hrow with hold | rfl
    · obtain ⟨other, hother, hrest⟩ := h.trajectories row hold htype
      exact ⟨other, List.mem_append_left _ hother, hrest⟩
    · exact ⟨batch, List.mem_append_right _ List.mem_cons_self, rfl, rfl⟩
  · rcases LocalStore.mem_enqueueOutbox hrow with hold | rfl
    · exact h.others row hold htype
    · exact absurd htype (by simp [OutboxRow.isTrajectory])

theorem enqueueOther (h : Queued texts emitted store) {messageType : String}
    (payload : List (String × Json)) (hne : messageType ≠ "trajectory.batch") :
    Queued texts emitted (store.enqueueOutbox messageType payload none) := by
  refine ⟨h.ordered.enqueueOutbox _ _ _, fun row hrow htype => ?_, fun row hrow htype => ?_⟩
  · rcases LocalStore.mem_enqueueOutbox hrow with hold | rfl
    · exact h.trajectories row hold htype
    · exact absurd (of_decide_eq_true htype) hne
  · rcases LocalStore.mem_enqueueOutbox hrow with hold | rfl
    · exact h.others row hold htype
    · rfl

end Queued

/-! ## Nothing is lost -/

/-- Why a trajectory leaves the outbox. -/
inductive Released (texts : Texts) (s s' : Delivery 𝕜) (row : OutboxRow) : Prop
  /-- The center acknowledged it, and has a receipt. -/
  | acknowledged (ack : TrajectoryAck) (receipt : TrajectoryBatchReceipt) (hack : ack ∈ s.acks)
      (hkey : row.dedupeKey = some ack.batchId) (hreceipt : receipt ∈ s.center.receipts)
      (hid : texts.uuidText receipt.batchId = ack.batchId)
  /-- The center rejected it for good. -/
  | rejected (ack : TrajectoryAck) (hack : ack ∈ s.acks) (hkey : row.dedupeKey = some ack.batchId)
      (hcode : ack.reasonCode = "INVALID_MESSAGE" ∨ ack.reasonCode = "UNKNOWN_TASK_EXECUTION")
  /-- The outbox holds as many newer ones as it may. -/
  | overCap (h : s'.store.OverCap row)

/-- What a step emits is queued, and what leaves the outbox has a reason to. -/
structure Lossless (texts : Texts) (s s' : Delivery 𝕜) : Prop where
  queued : ∀ batch ∈ s'.emitted, batch ∈ s.emitted ∨
    ∃ row ∈ s'.store.outbox, row.isTrajectory = true ∧ row.payload = trajectoryPayload texts batch
  released : ∀ row ∈ s.store.outbox, row.isTrajectory = true →
    row ∈ s'.store.outbox ∨ Released texts s s' row

omit [Field 𝕜] [LinearOrder 𝕜] [FloorRing 𝕜] in
theorem Lossless.of_eq {texts : Texts} {s s' : Delivery 𝕜} (hemitted : s'.emitted = s.emitted)
    (hstore : s'.store = s.store) : Lossless texts s s' := by
  constructor
  · intro batch hbatch
    exact Or.inl (hemitted ▸ hbatch)
  · intro row hrow _
    exact Or.inl (hstore ▸ hrow)

/-! ## The invariant -/

structure Consistent (decimal : ℕ → ℕ → Json → Option ℚ) (texts : Texts) (s : Delivery 𝕜) : Prop where
  ledger : s.buffer.Ledger s.store s.emitted
  phase : s.phase.Fits s.buffer
  queued : Queued texts s.emitted s.store
  published : ∀ payload ∈ s.published, ∃ batch ∈ s.emitted, payload = trajectoryPayload texts batch
  stored : Stored decimal s.emitted s.center
  acks : ∀ ack ∈ s.acks, ack.accepted = true ∨ ack.duplicate = true →
    ∃ r ∈ s.center.receipts, texts.uuidText r.batchId = ack.batchId

section Steps

variable {decimal : ℕ → ℕ → Json → Option ℚ} {texts : Texts} {s : Delivery 𝕜}

omit [Field 𝕜] [LinearOrder 𝕜] [FloorRing 𝕜] in
theorem of_fresh {id : Uuid} (h : s.fresh id = true) : ∀ batch ∈ s.emitted, batch.batchId ≠ id := by
  simpa [Delivery.fresh] using h

omit [Field 𝕜] [LinearOrder 𝕜] [FloorRing 𝕜] in
theorem Consistent.afterQuiet (h : Consistent decimal texts s) {phase : SamplePhase}
    {buffer : TrajectoryBuffer} {store : LocalStore} (hledger : buffer.Ledger store s.emitted)
    (hphase : phase.Fits buffer) (houtbox : store.outbox = s.store.outbox)
    (hlast : store.lastRowId = s.store.lastRowId) :
    Consistent decimal texts (s.afterBuffer phase (buffer, store, none)) ∧
      Lossless texts s (s.afterBuffer phase (buffer, store, none)) := by
  have hemitted : (s.afterBuffer phase (buffer, store, none)).emitted = s.emitted :=
    List.append_nil _
  constructor
  · refine ⟨?_, hphase, ?_, ?_, ?_, h.acks⟩
    · rw [hemitted]
      exact hledger
    · rw [hemitted]
      exact h.queued.of_sublist (houtbox ▸ List.Sublist.refl _) hlast
    · rw [hemitted]
      exact h.published
    · rw [hemitted]
      exact h.stored
  · constructor
    · intro batch hbatch
      rw [hemitted] at hbatch
      exact Or.inl hbatch
    · intro row hrow _
      exact Or.inl (houtbox.symm ▸ hrow)

omit [Field 𝕜] [LinearOrder 𝕜] [FloorRing 𝕜] in
theorem Consistent.afterFlush (h : Consistent decimal texts s) {phase : SamplePhase} {batchId : Uuid}
    (hfresh : s.fresh batchId = true)
    (hphase : phase.Fits (s.buffer.flushLocked texts batchId s.store).1) :
    Consistent decimal texts (s.afterBuffer phase (s.buffer.flushLocked texts batchId s.store)) ∧
      Lossless texts s (s.afterBuffer phase (s.buffer.flushLocked texts batchId s.store)) := by
  have hnew := of_fresh hfresh
  have hledger := h.ledger.flushLocked texts hnew
  rcases TrajectoryBuffer.flushLocked_cases s.buffer s.store texts batchId with
    heq | ⟨batch, rfl, heq⟩
  · rw [heq] at hphase ⊢
    exact h.afterQuiet h.ledger hphase rfl rfl
  · rw [heq] at hphase hledger ⊢
    constructor
    · refine ⟨hledger, hphase, h.queued.enqueueBatch batch, ?_, h.stored.mono _, h.acks⟩
      intro payload hpayload
      obtain ⟨other, hother, hrest⟩ := h.published payload hpayload
      exact ⟨other, List.mem_append_left _ hother, hrest⟩
    · constructor
      · intro other hother
        rcases List.mem_append.1 hother with hold | hlast
        · exact Or.inl hold
        · obtain rfl := List.mem_singleton.1 hlast
          exact Or.inr ⟨_, LocalStore.mem_enqueueOutbox_self h.queued.ordered _
            (h.queued.fresh hnew), rfl, rfl⟩
      · intro row hrow _
        by_cases hstays : row ∈ (s.store.enqueueOutbox "trajectory.batch"
            (trajectoryPayload texts batch) (some (texts.uuidText batch.batchId))).outbox
        · exact Or.inl hstays
        · exact Or.inr (.overCap (LocalStore.overCap_of_enqueueOutbox h.queued.ordered hrow hstays))

omit [Field 𝕜] [LinearOrder 𝕜] [FloorRing 𝕜] in
theorem Consistent.roomAfterFlush (h : Consistent decimal texts s) (batchId : Uuid) :
    (s.buffer.flushLocked texts batchId s.store).1.points.length <
      (s.buffer.flushLocked texts batchId s.store).1.batchSize.1 := by
  rw [TrajectoryBuffer.points_flushLocked h.ledger, TrajectoryBuffer.batchSize_flushLocked]
  exact s.buffer.batchSize.2.1

omit [Field 𝕜] [LinearOrder 𝕜] [FloorRing 𝕜] in
theorem Consistent.sampleBegin (h : Consistent decimal texts s) {batchId execution : Uuid}
    {mapId mapVersion : String} {pose : PoseSnapshot} {keyframe : Option (List (String × Json))}
    (hidle : s.phase = .idle) (hfresh : s.fresh batchId = true) :
    let s' := s.afterBuffer (.appending execution mapId mapVersion pose keyframe)
      (s.buffer.changeover texts batchId execution mapId mapVersion s.store)
    Consistent decimal texts s' ∧ Lossless texts s s' := by
  dsimp only
  unfold TrajectoryBuffer.changeover
  split
  · exact h.afterFlush hfresh
      ⟨h.roomAfterFlush batchId, Or.inl (TrajectoryBuffer.points_flushLocked h.ledger texts batchId)⟩
  · next hsame =>
    have hroom : s.buffer.points.length < s.buffer.batchSize.1 := by
      have hphase := h.phase
      rw [hidle] at hphase
      exact hphase
    refine h.afterQuiet h.ledger ⟨hroom, ?_⟩ rfl rfl
    by_contra hdiffers
    rw [not_or] at hdiffers
    exact hsame ⟨hdiffers.1, Or.inl hdiffers.2⟩

omit [Field 𝕜] [LinearOrder 𝕜] [FloorRing 𝕜] in
theorem Consistent.sampleEnd (h : Consistent decimal texts s) {batchId : Uuid} (due : Bool)
    (hfresh : s.fresh batchId = true) :
    let s' := s.afterBuffer .idle (s.buffer.flushFull texts batchId due s.store)
    Consistent decimal texts s' ∧ Lossless texts s s' := by
  dsimp only
  unfold TrajectoryBuffer.flushFull
  split
  · exact h.afterFlush hfresh (h.roomAfterFlush batchId)
  · next hroom =>
    refine h.afterQuiet h.ledger ?_ rfl rfl
    exact not_le.1 fun hfull => hroom (Or.inl hfull)

omit [Field 𝕜] [LinearOrder 𝕜] [FloorRing 𝕜] in
theorem Consistent.withStore (h : Consistent decimal texts s) {store : LocalStore}
    (hseq : store.nextSeq = s.store.nextSeq) (hqueued : Queued texts s.emitted store) :
    Consistent decimal texts { s with store := store } :=
  ⟨h.ledger.congr hseq, h.phase, hqueued, h.published, h.stored, h.acks⟩

omit [Field 𝕜] [LinearOrder 𝕜] [FloorRing 𝕜] in
theorem Consistent.handleAck (h : Consistent decimal texts s) {ack : TrajectoryAck}
    (hack : ack ∈ s.acks) :
    let s' := { s with store := TrajectoryBuffer.handleAck ack s.store }
    Consistent decimal texts s' ∧ Lossless texts s s' := by
  have hdrop : ∀ reason : ∀ row : OutboxRow, row.dedupeKey = some ack.batchId →
      Released texts s { s with store := s.store.ackOutboxKey ack.batchId } row,
      Consistent decimal texts { s with store := s.store.ackOutboxKey ack.batchId } ∧
        Lossless texts s { s with store := s.store.ackOutboxKey ack.batchId } := by
    intro reason
    refine ⟨h.withStore rfl (h.queued.of_sublist List.filter_sublist rfl), fun _ h => Or.inl h, ?_⟩
    intro row hrow _
    by_cases hkey : row.dedupeKey = some ack.batchId
    · exact Or.inr (reason row hkey)
    · exact Or.inl (List.mem_filter.2 ⟨hrow, decide_eq_true hkey⟩)
  dsimp only
  unfold TrajectoryBuffer.handleAck
  split
  · exact ⟨h, Lossless.of_eq rfl rfl⟩
  split
  · next hpositive =>
    obtain ⟨r, hr, hid⟩ := h.acks ack hack (Bool.or_eq_true_iff.1 hpositive)
    exact hdrop fun row hkey => .acknowledged ack r hack hkey hr hid
  split
  · next hcode => exact hdrop fun row hkey => .rejected ack hack hkey hcode
  · exact ⟨h, Lossless.of_eq rfl rfl⟩

omit [Field 𝕜] [LinearOrder 𝕜] [FloorRing 𝕜] in
theorem Consistent.afterReceive (h : Consistent decimal texts s) {db : TrajectoryDb 𝕜}
    (answer : Option TrajectoryAck) (answered : Bool) (hstored : Stored decimal s.emitted db)
    (hreceipts : s.center.receipts ⊆ db.receipts)
    (hanswer : ∀ ack, answer = some ack → ack.accepted = true ∨ ack.duplicate = true →
      ∃ r ∈ db.receipts, texts.uuidText r.batchId = ack.batchId) :
    Consistent decimal texts
      { s with
        center := db
        acks := s.acks ++ if answered then answer.toList else [] } := by
  refine ⟨h.ledger, h.phase, h.queued, h.published, hstored, fun ack hack hpositive => ?_⟩
  rcases List.mem_append.1 hack with hold | hnew
  · obtain ⟨r, hr, hid⟩ := h.acks ack hold hpositive
    exact ⟨r, hreceipts hr, hid⟩
  · cases answered with
    | true => exact hanswer ack (Option.mem_toList.1 hnew) hpositive
    | false => exact absurd hnew (by simp)

theorem Consistent.receive (h : Consistent decimal texts s) (hypot : ℚ → ℚ → 𝕜)
    {payload : List (String × Json)} (hpayload : payload ∈ s.published) (overlooked answered : Bool) :
    Consistent decimal texts
      { s with
        center := (receiveTrajectory hypot decimal texts overlooked s.center payload).1
        acks := s.acks ++ if answered then
          (receiveTrajectory hypot decimal texts overlooked s.center payload).2.toList else [] } := by
  obtain ⟨batch, hbatch, rfl⟩ := h.published payload hpayload
  rw [(h.ledger.built batch hbatch).receive]
  split
  · next db result hhandle =>
    obtain ⟨hstored, hreceipts, r, hr, hid⟩ := h.stored.handle h.ledger hbatch hhandle
    refine h.afterReceive _ answered hstored hreceipts fun ack hack _ => ⟨r, hr, ?_⟩
    obtain rfl := Option.some.inj hack
    exact congrArg texts.uuidText hid
  · refine h.afterReceive _ answered h.stored (List.Subset.refl _) fun ack hack hpositive => ?_
    dsimp only at hack
    obtain ⟨haccepted, hduplicate⟩ := trajectoryRejection_eq hack
    simp [haccepted, hduplicate] at hpositive
  · exact h.afterReceive none answered h.stored (List.Subset.refl _) (by simp)

omit [Field 𝕜] [LinearOrder 𝕜] [FloorRing 𝕜] in
theorem Consistent.replay (h : Consistent decimal texts s) (limit : ℕ) (success : ℕ → Bool) :
    let s' :=
      { s with
        store := (s.store.replayOutbox limit success).2
        published := s.published ++
          ((s.store.replayOutbox limit success).1.filter (·.isTrajectory)).map (·.payload) }
    Consistent decimal texts s' ∧ Lossless texts s s' := by
  have hreplayed := LocalStore.replayed_replayOutbox h.queued.ordered limit success
  constructor
  · refine ⟨h.ledger.congr hreplayed.nextSeq, h.phase,
      h.queued.of_sublist hreplayed.sublist hreplayed.lastRowId, ?_, h.stored, h.acks⟩
    intro payload hpayload
    rcases List.mem_append.1 hpayload with hold | hnew
    · exact h.published payload hold
    · obtain ⟨row, hrow, rfl⟩ := List.mem_map.1 hnew
      obtain ⟨hpending, htype⟩ := List.mem_filter.1 hrow
      obtain ⟨batch, hbatch, heq, -⟩ := h.queued.trajectories row
        (LocalStore.mem_of_mem_listPendingOutbox hpending) htype
      exact ⟨batch, hbatch, heq⟩
  · exact ⟨fun _ hbatch => Or.inl hbatch,
      fun row hrow htype => Or.inl (hreplayed.trajectories row hrow htype)⟩

omit [Field 𝕜] [LinearOrder 𝕜] [FloorRing 𝕜] in
theorem Consistent.restart (h : Consistent decimal texts s) (batchSize : BatchSize)
    (trajectoryLimit systemLogLimit : ℕ+) :
    let s' :=
      { s with
        buffer := { batchSize := batchSize }
        store := s.store.reopen trajectoryLimit systemLogLimit
        phase := .idle }
    Consistent decimal texts s' ∧ Lossless texts s s' := by
  constructor
  · exact ⟨(h.ledger.restart batchSize).congr rfl, batchSize.2.1,
      h.queued.of_sublist List.filter_sublist rfl, h.published, h.stored, h.acks⟩
  · refine ⟨fun _ hbatch => Or.inl hbatch, fun row hrow _ => ?_⟩
    by_cases hstays : row ∈ (s.store.reopen trajectoryLimit systemLogLimit).outbox
    · exact Or.inl hstays
    · refine Or.inr (.overCap ?_)
      have hordered : LocalStore.Ordered
          { s.store with
            trajectoryOutboxLimit := trajectoryLimit
            systemLogOutboxLimit := systemLogLimit } :=
        ⟨h.queued.ordered.increasing, h.queued.ordered.below⟩
      exact LocalStore.overCap_of_pruned hordered hrow hstays

theorem step_consistent (hypot : ℚ → ℚ → 𝕜) (h : Consistent decimal texts s) (i : DeliveryInput) :
    Consistent decimal texts (step hypot decimal texts s i) ∧
      Lossless texts s (step hypot decimal texts s i) := by
  have hstay : Consistent decimal texts s ∧ Lossless texts s s := ⟨h, Lossless.of_eq rfl rfl⟩
  have hflush : ∀ batchId, s.fresh batchId = true →
      Consistent decimal texts (s.afterBuffer .idle (s.buffer.flushLocked texts batchId s.store)) ∧
        Lossless texts s (s.afterBuffer .idle (s.buffer.flushLocked texts batchId s.store)) :=
    fun batchId hfresh => h.afterFlush hfresh (h.roomAfterFlush batchId)
  cases i with
  | sampleBegin batchId execution mapId mapVersion pose keyframe =>
    simp only [step]
    split
    · next hidle =>
      split
      · next hfresh => exact h.sampleBegin hidle hfresh
      · exact hstay
    · exact hstay
  | sampleAppend =>
    simp only [step]
    split
    · next execution mapId mapVersion pose keyframe hphase =>
      have hfits := h.phase
      rw [hphase] at hfits
      exact h.afterQuiet (h.ledger.append hfits.2 hfits.1) trivial rfl rfl
    · exact hstay
  | sampleEnd batchId due =>
    simp only [step]
    split
    · split
      · next hfresh => exact h.sampleEnd due hfresh
      · exact hstay
    · exact hstay
  | flush batchId execution mapId mapVersion =>
    simp only [step]
    split
    · split
      · next hfresh =>
        rw [TrajectoryBuffer.flush_eq h.ledger]
        exact hflush batchId hfresh
      · exact hstay
    · exact hstay
  | flushActive batchId =>
    simp only [step]
    split
    · split
      · next hfresh => exact hflush batchId hfresh
      · exact hstay
    · exact hstay
  | enqueue messageType payload =>
    simp only [step]
    split
    · exact hstay
    · next hne =>
      refine ⟨h.withStore (LocalStore.nextSeq_enqueueOutbox _ _ _ _)
        (h.queued.enqueueOther payload hne), fun _ hbatch => Or.inl hbatch, ?_⟩
      intro row hrow htype
      exact Or.inl (LocalStore.mem_enqueueOutbox_of_isTrajectory hne hrow htype)
  | replay limit success => exact h.replay limit success
  | restart batchSize trajectoryLimit systemLogLimit =>
    exact h.restart batchSize trajectoryLimit systemLogLimit
  | receive j overlooked answered =>
    simp only [step]
    split
    · next payload hpayload =>
      exact ⟨h.receive hypot (List.mem_of_getElem? hpayload) overlooked answered,
        Lossless.of_eq rfl rfl⟩
    · exact hstay
  | ack j =>
    simp only [step]
    split
    · next ack hack => exact h.handleAck (List.mem_of_getElem? hack)
    · exact hstay
  | newSession id counted =>
    refine ⟨⟨h.ledger, h.phase, h.queued, h.published, ?_, ?_⟩, Lossless.of_eq rfl rfl⟩
    · exact h.stored.congr (TrajectoryDb.newSession_eq _ _ _).1 (TrajectoryDb.newSession_eq _ _ _).2
    · simp only [step]
      rw [(TrajectoryDb.newSession_eq _ _ _).2]
      exact h.acks
  | newExecution execution =>
    refine ⟨⟨h.ledger, h.phase, h.queued, h.published, ?_, ?_⟩, Lossless.of_eq rfl rfl⟩
    · exact h.stored.congr (TrajectoryDb.newExecution_eq _ _).1 (TrajectoryDb.newExecution_eq _ _).2
    · simp only [step]
      rw [(TrajectoryDb.newExecution_eq _ _).2]
      exact h.acks

end Steps

/-! ## Delivery -/

/-- A new Edge with an empty outbox, and a center without a trajectory. -/
def initial (batchSize : BatchSize) (trajectoryLimit systemLogLimit : ℕ+) : Delivery 𝕜 where
  buffer := { batchSize := batchSize }
  store := { trajectoryOutboxLimit := trajectoryLimit, systemLogOutboxLimit := systemLogLimit }

omit [Field 𝕜] [LinearOrder 𝕜] [FloorRing 𝕜] in
theorem consistent_initial (decimal : ℕ → ℕ → Json → Option ℚ) (texts : Texts)
    (batchSize : BatchSize) (trajectoryLimit systemLogLimit : ℕ+) :
    Consistent decimal texts (initial batchSize trajectoryLimit systemLogLimit : Delivery 𝕜) :=
  ⟨.initial _ _, batchSize.2.1, ⟨⟨List.Pairwise.nil, by simp [initial]⟩, by simp [initial],
    by simp [initial]⟩, by simp [initial], .empty, by simp [initial]⟩

/-- What the two ends owe to each other: every batch that is emitted, and every one in the outbox,
    passes the checks of the center; the center has one point for an execution and a sequence number
    at most; and of a batch it has acknowledged it has every point. -/
structure Delivered (decimal : ℕ → ℕ → Json → Option ℚ) (texts : Texts) (s : Delivery 𝕜) : Prop where
  valid : ∀ batch ∈ s.emitted,
    validateTrajectoryBatch texts (trajectoryPayload texts batch) = .ok ()
  validRow : ∀ row ∈ s.store.outbox, row.isTrajectory = true →
    validateTrajectoryBatch texts row.payload = .ok ()
  once : (s.center.points.map (fun p => (p.taskExecution, p.seq))).Nodup
  complete : ∀ ack ∈ s.acks, ack.accepted = true → ∃ batch ∈ s.emitted,
    texts.uuidText batch.batchId = ack.batchId ∧
      ∃ points, TrajectoryDb.buildPoints decimal batch = some points ∧
        points.length = batch.points.length ∧ ∀ p ∈ points, p ∈ s.center.points

omit [Field 𝕜] [LinearOrder 𝕜] [FloorRing 𝕜] in
theorem Consistent.delivered {decimal : ℕ → ℕ → Json → Option ℚ} {texts : Texts} {s : Delivery 𝕜}
    (h : Consistent decimal texts s) : Delivered decimal texts s := by
  refine ⟨fun batch hbatch => (h.ledger.built batch hbatch).validate texts, ?_, ?_, ?_⟩
  · intro row hrow htype
    obtain ⟨batch, hbatch, heq, -⟩ := h.queued.trajectories row hrow htype
    rw [heq]
    exact (h.ledger.built batch hbatch).validate texts
  · refine List.pairwise_map.2 (h.stored.sorted.imp fun {p q} hbefore heq => ?_)
    obtain ⟨hexecution, hseq⟩ := Prod.mk.inj heq
    simp only [TrajectoryPoint.Before] at hbefore
    grind
  · intro ack hack haccepted
    obtain ⟨r, hr, hid⟩ := h.acks ack hack (Or.inl haccepted)
    obtain ⟨batch, hbatch, hbatchId, points, hpoints, hall⟩ := h.stored.receipts r hr
    refine ⟨batch, hbatch, by rw [hbatchId, hid], points, hpoints, ?_, hall⟩
    have hlength := congrArg List.length (TrajectoryDb.seq_buildPoints hpoints)
    rwa [List.length_map, List.length_map] at hlength

/-- Trajectories are delivered without loss and exactly once, whatever the network drops, repeats
    and reorders and whenever either end is restarted. -/
theorem trajectories_delivered (hypot : ℚ → ℚ → 𝕜) (decimal : ℕ → ℕ → Json → Option ℚ)
    (texts : Texts) (batchSize : BatchSize) (trajectoryLimit systemLogLimit : ℕ+)
    (inputs : List DeliveryInput) :
    Delivered decimal texts (Run.exec (step hypot decimal texts)
        (initial batchSize trajectoryLimit systemLogLimit : Delivery 𝕜) inputs) ∧
      Run.Always (step hypot decimal texts)
        (fun s i => Lossless texts s (step hypot decimal texts s i))
        (initial batchSize trajectoryLimit systemLogLimit : Delivery 𝕜) inputs := by
  have hinitial := consistent_initial (𝕜 := 𝕜) decimal texts batchSize trajectoryLimit systemLogLimit
  constructor
  · exact (Run.exec_invariant (Consistent decimal texts)
      (fun _ i h => (step_consistent hypot h i).1) hinitial inputs).delivered
  · exact Run.always_of_invariant (Consistent decimal texts)
      (fun _ i h => (step_consistent hypot h i).1) (fun _ i h => (step_consistent hypot h i).2)
      hinitial inputs

/-- Every point of the center is what it makes of an emitted batch, and the sequence numbers of an
    execution never go back. -/
structure Genuine (decimal : ℕ → ℕ → Json → Option ℚ) (s : Delivery 𝕜) : Prop where
  points : ∀ p ∈ s.center.points, ∃ batch ∈ s.emitted, ∃ points,
    TrajectoryDb.buildPoints decimal batch = some points ∧ p ∈ points
  increasing : s.emitted.Pairwise fun earlier later =>
    earlier.taskExecutionId = later.taskExecutionId → earlier.lastSeq < later.firstSeq

theorem trajectories_genuine (hypot : ℚ → ℚ → 𝕜) (decimal : ℕ → ℕ → Json → Option ℚ)
    (texts : Texts) (batchSize : BatchSize) (trajectoryLimit systemLogLimit : ℕ+)
    (inputs : List DeliveryInput) :
    Genuine decimal (Run.exec (step hypot decimal texts)
      (initial batchSize trajectoryLimit systemLogLimit : Delivery 𝕜) inputs) := by
  have h := Run.exec_invariant (Consistent decimal texts)
    (fun _ i h => (step_consistent hypot h i).1)
    (consistent_initial (𝕜 := 𝕜) decimal texts batchSize trajectoryLimit systemLogLimit) inputs
  constructor
  · intro p hp
    obtain ⟨batch, hbatch, r, hr, hid, hexecution, hbounds⟩ := h.stored.points p hp
    obtain ⟨other, hother, hotherId, points, hpoints, hall⟩ := h.stored.receipts r hr
    obtain rfl := List.inj_on_of_nodup_map h.ledger.ids hother hbatch (hotherId.trans hid)
    have hseq : p.seq ∈ points.map (·.seq) := by
      rw [TrajectoryDb.seq_buildPoints hpoints, (h.ledger.built _ hother).seqs]
      exact List.mem_range'_1.2 hbounds
    -- A point is known by its execution and its sequence number.
    obtain ⟨q, hq, heq⟩ := List.mem_map.1 hseq
    obtain rfl := List.inj_on_of_nodup_map h.delivered.once (hall q hq) hp
      (Prod.ext ((TrajectoryDb.mem_buildPoints hpoints hq).1.trans hexecution.symm) heq)
    exact ⟨other, hother, points, hpoints, hq⟩
  · refine h.ledger.disjoint.imp_of_mem fun hearlier _ hle hsame => ?_
    have hbuilt := h.ledger.built _ hearlier
    have hsize := hbuilt.size
    have hlast := hbuilt.lastSeq
    have hbelow := hle hsame
    omega

end Delivery

end RoamerX
