import RoamerX.Center.LoopDistance
import Mathlib.Data.Rat.Floor

set_option autoImplicit false

/-! # The total of a patrol loop over its batches

Sessions and executions are created and batches arrive in any order. The total that is kept for a
session stays within the rounding of its increments, half a `DISTANCE_QUANTUM` for each batch, of
the one that is recomputed from all of its points. -/

namespace RoamerX

open Path TrajectoryDb

variable {𝕜 : Type*}

/-! ## Runs -/

inductive LoopInput
  /-- A loop session is created; sessions from before the total was kept have none. -/
  | newSession (id : Uuid) (counted : Bool)
  /-- An execution is created, in a loop session or outside of one. -/
  | newExecution (execution : TrajectoryExecution)
  /-- A `trajectory.batch` arrives. -/
  | batch (overlooked : Bool) (batch : TrajectoryBatch)

namespace TrajectoryDb

section Runs

variable [Field 𝕜] [LinearOrder 𝕜] [FloorRing 𝕜]

/-- A session gets a fresh id, which no row refers to yet. -/
def newSession (db : TrajectoryDb 𝕜) (id : Uuid) (counted : Bool) : TrajectoryDb 𝕜 :=
  if db.loopSession? id = none ∧ ∀ e ∈ db.executions, e.loopSessionId ≠ some id then
    { db with
      loopSessions := db.loopSessions ++
        [{ id := id, totalDistanceM := if counted then some 0 else none }] }
  else db

def newExecution (db : TrajectoryDb 𝕜) (execution : TrajectoryExecution) : TrajectoryDb 𝕜 :=
  if db.execution? execution.id = none then
    { db with executions := db.executions ++ [execution] }
  else db

omit [LinearOrder 𝕜] [FloorRing 𝕜] in
theorem newSession_eq (db : TrajectoryDb 𝕜) (id : Uuid) (counted : Bool) :
    (db.newSession id counted).points = db.points ∧
      (db.newSession id counted).receipts = db.receipts := by
  unfold newSession
  split <;> exact ⟨rfl, rfl⟩

omit [Field 𝕜] [LinearOrder 𝕜] [FloorRing 𝕜] in
theorem newExecution_eq (db : TrajectoryDb 𝕜) (execution : TrajectoryExecution) :
    (db.newExecution execution).points = db.points ∧
      (db.newExecution execution).receipts = db.receipts := by
  unfold newExecution
  split <;> exact ⟨rfl, rfl⟩

/-- The tables after one input; a batch that is refused leaves them as they are. -/
def loopStep (hypot : ℚ → ℚ → 𝕜) (decimal : ℕ → ℕ → Json → Option ℚ)
    (db : TrajectoryDb 𝕜) : LoopInput → TrajectoryDb 𝕜
  | .newSession id counted => db.newSession id counted
  | .newExecution execution => db.newExecution execution
  | .batch overlooked batch =>
    match handleTrajectory hypot decimal overlooked db batch with
    | .ok (db', _) => db'
    | .error _ => db

end Runs

/-! ## The invariant -/

/-- The receipt belongs to the session. -/
def receiptOfSession (db : TrajectoryDb 𝕜) (session : Uuid) (r : TrajectoryBatchReceipt) : Bool :=
  (db.execution? r.taskExecution).any (fun e => decide (e.loopSessionId = some session))

/-- How many batches of the session were stored. -/
def batchCount (db : TrajectoryDb 𝕜) (session : Uuid) : ℕ :=
  db.receipts.countP (db.receiptOfSession session)

section Tracked

variable [Field 𝕜] [LinearOrder 𝕜] [FloorRing 𝕜]

/-- How far the total kept for a session may be from the distance covered in it. -/
structure Total (hypot : ℚ → ℚ → 𝕜) (db : TrajectoryDb 𝕜) (session : Uuid) (total : 𝕜) : Prop where
  nonneg : 0 ≤ total
  rounded : quantize total = total
  error : |total - db.sessionDistance hypot session| ≤
    db.batchCount session * (distanceQuantum / 2)

/-- The points are in order, a point came with a stored batch, a batch was stored for an execution,
    and the totals are right but for the rounding. -/
structure Tracked (hypot : ℚ → ℚ → 𝕜) (db : TrajectoryDb 𝕜) : Prop where
  sorted : db.points.Pairwise TrajectoryPoint.Before
  received : ∀ p ∈ db.points, ∃ r ∈ db.receipts,
    r.batchId = p.batchId ∧ r.taskExecution = p.taskExecution
  known : ∀ r ∈ db.receipts, ∃ e, db.execution? r.taskExecution = some e
  total : ∀ session row total, db.loopSession? session = some row →
    row.totalDistanceM = some total → Total hypot db session total

variable {hypot : ℚ → ℚ → 𝕜} {db : TrajectoryDb 𝕜}

omit [Field 𝕜] [LinearOrder 𝕜] [FloorRing 𝕜] in
theorem inSession_congr {db' : TrajectoryDb 𝕜} {session : Uuid} {p : TrajectoryPoint}
    (h : db'.execution? p.taskExecution = db.execution? p.taskExecution) :
    db'.inSession session p = db.inSession session p := by
  rw [inSession, inSession, h]

/-- Tables with the same points and receipts, whose executions are found in both, agree on the
    total of every session. -/
theorem Total.congr {db' : TrajectoryDb 𝕜} {session : Uuid} {total : 𝕜}
    (h : Total hypot db session total) (hpoints : db'.points = db.points)
    (hreceipts : db'.receipts = db.receipts)
    (hp : ∀ p ∈ db.points, db'.execution? p.taskExecution = db.execution? p.taskExecution)
    (hr : ∀ r ∈ db.receipts, db'.execution? r.taskExecution = db.execution? r.taskExecution) :
    Total hypot db' session total := by
  have hdistance : db'.sessionDistance hypot session = db.sessionDistance hypot session := by
    rw [sessionDistance, sessionDistance, sessionPoints, sessionPoints, hpoints]
    exact congrArg _ (List.filter_congr (fun p hmem => inSession_congr (hp p hmem)))
  have hcount : db'.batchCount session = db.batchCount session := by
    rw [batchCount, batchCount, hreceipts]
    refine List.countP_congr fun r hmem => ?_
    rw [receiptOfSession, receiptOfSession, hr r hmem]
  refine ⟨h.nonneg, h.rounded, ?_⟩
  rw [hdistance, hcount]
  exact h.error

theorem tracked_empty : Tracked hypot ({} : TrajectoryDb 𝕜) where
  sorted := List.Pairwise.nil
  received := by simp
  known := by simp
  total := by simp [loopSession?]

variable [IsStrictOrderedRing 𝕜]

theorem total_zero {session : Uuid} (h : db.sessionPoints session = []) :
    Total hypot db session 0 := by
  have hzero : quantize (0 : 𝕜) = 0 := by
    rw [quantize, zero_div]
    have hround : roundHalfEven ((0 : ℤ) : 𝕜) = 0 := roundHalfEven_intCast 0
    rw [Int.cast_zero] at hround
    rw [hround, Int.cast_zero, zero_mul]
  refine ⟨le_rfl, hzero, ?_⟩
  rw [sessionDistance, h, pathLength_nil, sub_zero, abs_zero]
  exact mul_nonneg (Nat.cast_nonneg _) (half_pos distanceQuantum_pos).le

theorem Tracked.newSession (h : Tracked hypot db) (id : Uuid) (counted : Bool) :
    Tracked hypot (db.newSession id counted) := by
  unfold TrajectoryDb.newSession
  split
  · next hfresh =>
    refine ⟨h.sorted, h.received, h.known, fun session row total hrow htotal => ?_⟩
    by_cases hid : id = session
    · -- Nothing was recorded in a session that was not there.
      subst hid
      have hrow' : some { id := id, totalDistanceM := if counted then some 0 else none } = some row :=
        (Rows.get?_insert_self LoopDistance.id (show Rows.get? LoopDistance.id db.loopSessions
          (LoopDistance.id ⟨id, if counted then some 0 else none⟩) = none from hfresh.1)).symm.trans
            hrow
      obtain rfl := Option.some.inj hrow'
      have hzero : (0 : 𝕜) = total := by
        cases counted with
        | true => exact Option.some.inj htotal
        | false => exact absurd htotal (by simp)
      subst hzero
      refine total_zero (List.filter_eq_nil_iff.2 fun p _ hin => ?_)
      obtain ⟨e, hmem, hsession⟩ := Option.any_eq_true _ _ |>.1 hin
      exact hfresh.2 e (Rows.get?_mem _ hmem) (of_decide_eq_true hsession)
    · have hrow' : db.loopSession? session = some row :=
        (Rows.get?_insert_ne LoopDistance.id hid).symm.trans hrow
      exact (h.total session row total hrow' htotal).congr rfl rfl (fun _ _ => rfl) (fun _ _ => rfl)
  · exact h

omit [IsStrictOrderedRing 𝕜] in
theorem Tracked.newExecution (h : Tracked hypot db) (execution : TrajectoryExecution) :
    Tracked hypot (db.newExecution execution) := by
  unfold TrajectoryDb.newExecution
  split
  · have hknown : ∀ r ∈ db.receipts,
        Rows.get? TrajectoryExecution.id (db.executions ++ [execution]) r.taskExecution =
          db.execution? r.taskExecution := by
      intro r hr
      obtain ⟨e, he⟩ := h.known r hr
      exact (Rows.get?_insert_of_some _ he).trans he.symm
    refine ⟨h.sorted, h.received, fun r hr => ?_, fun session row total hrow htotal => ?_⟩
    · obtain ⟨e, he⟩ := h.known r hr
      exact ⟨e, (hknown r hr).trans he⟩
    · refine (h.total session row total hrow htotal).congr rfl rfl (fun p hp => ?_) hknown
      obtain ⟨r, hr, -, he⟩ := h.received p hp
      exact he ▸ hknown r hr
  · exact h

end Tracked

/-! ## Storing a batch -/

section Store

variable {decimal : ℕ → ℕ → Json → Option ℚ} {db : TrajectoryDb 𝕜}
  {batch : TrajectoryBatch} {points : List TrajectoryPoint} {execution : TrajectoryExecution}

/-- A batch that is stored now: its id is new, its execution is known. -/
structure Storing (decimal : ℕ → ℕ → Json → Option ℚ) (db : TrajectoryDb 𝕜)
    (batch : TrajectoryBatch) (points : List TrajectoryPoint) (execution : TrajectoryExecution) :
    Prop where
  sorted : db.points.Pairwise TrajectoryPoint.Before
  fresh : ∀ p ∈ db.points, p.batchId ≠ batch.batchId
  found : db.execution? batch.taskExecutionId = some execution
  built : buildPoints decimal batch = some points

theorem Storing.id_eq (h : Storing decimal db batch points execution) :
    execution.id = batch.taskExecutionId := Rows.get?_key _ h.found

theorem Storing.inSession_iff (h : Storing decimal db batch points execution) (session : Uuid)
    {p : TrajectoryPoint} (hp : p.taskExecution = batch.taskExecutionId) :
    (db.store batch points).inSession session p = true ↔ execution.loopSessionId = some session := by
  have hfound : (db.store batch points).execution? p.taskExecution = some execution :=
    hp ▸ h.found
  rw [inSession, hfound, Option.any_some, decide_eq_true_eq]

theorem Storing.filter_sessionPoints (h : Storing decimal db batch points execution)
    (session : Uuid) :
    ((db.store batch points).sessionPoints session).filter
        (fun p => decide (p.batchId ≠ batch.batchId)) = db.sessionPoints session := by
  have hold : (bulkCreate points db.points).filter (fun p => decide (p.batchId ≠ batch.batchId)) =
      db.points :=
    (filter_bulkCreate (fun p hp => by simp [(mem_buildPoints h.built hp).2])).trans
      (List.filter_eq_self.2 fun p hp => decide_eq_true (h.fresh p hp))
  calc ((db.store batch points).sessionPoints session).filter
        (fun p => decide (p.batchId ≠ batch.batchId))
      = ((bulkCreate points db.points).filter
          (fun p => decide (p.batchId ≠ batch.batchId))).filter (db.inSession session) :=
        List.filter_comm _ _ _
    _ = db.sessionPoints session := by rw [hold, sessionPoints]

theorem Storing.sessionPoints_of_ne (h : Storing decimal db batch points execution)
    {session : Uuid} (hne : execution.loopSessionId ≠ some session) :
    (db.store batch points).sessionPoints session = db.sessionPoints session := by
  refine filter_bulkCreate fun p hp => ?_
  have hin := (h.inSession_iff session (mem_buildPoints h.built hp).1).not.2 hne
  exact Bool.eq_false_iff.2 hin

theorem Storing.batchCount_eq (h : Storing decimal db batch points execution) (session : Uuid) :
    (db.store batch points).batchCount session =
      db.batchCount session + if execution.loopSessionId = some session then 1 else 0 := by
  have hnew : db.receiptOfSession session (receiptOf batch points) =
      decide (execution.loopSessionId = some session) := by
    have hfound : db.execution? (receiptOf batch points).taskExecution = some execution := h.found
    rw [receiptOfSession, hfound, Option.any_some]
  have hcount : (db.store batch points).batchCount session =
      (db.receipts ++ [receiptOf batch points]).countP (db.receiptOfSession session) := rfl
  rw [hcount, List.countP_append, List.countP_singleton, hnew, batchCount]
  simp only [decide_eq_true_eq]

theorem Storing.sorted_store (h : Storing decimal db batch points execution) :
    (db.store batch points).points.Pairwise TrajectoryPoint.Before := bulkCreate_sorted h.sorted

theorem Storing.ofExecution (h : Storing decimal db batch points execution) :
    ∀ p ∈ (db.store batch points).points, p.batchId = batch.batchId →
      p.taskExecution = batch.taskExecutionId := by
  intro p hp hb
  rcases mem_bulkCreate hp with hnew | hold
  · exact (mem_buildPoints h.built hnew).1
  · exact absurd hb (h.fresh p hold)

end Store

/-! ## The total after a batch -/

section Totals

variable [Field 𝕜] [LinearOrder 𝕜] [FloorRing 𝕜] [IsStrictOrderedRing 𝕜] {hypot : ℚ → ℚ → 𝕜}
  {decimal : ℕ → ℕ → Json → Option ℚ} {db : TrajectoryDb 𝕜} {batch : TrajectoryBatch}
  {points : List TrajectoryPoint} {execution : TrajectoryExecution}

theorem total_quantize {session : Uuid} {exact : 𝕜} (error : 𝕜) (hexact : 0 ≤ exact)
    (h : |exact - db.sessionDistance hypot session| ≤ error)
    (hcount : error + distanceQuantum / 2 ≤ db.batchCount session * (distanceQuantum / 2)) :
    Total hypot db session ((normalizeDistance exact).getD 0) := by
  rw [normalizeDistance_eq hexact, Option.getD_some]
  refine ⟨quantize_nonneg hexact, quantize_quantize exact, ?_⟩
  calc |quantize exact - db.sessionDistance hypot session|
      ≤ |quantize exact - exact| + |exact - db.sessionDistance hypot session| :=
        abs_sub_le _ _ _
    _ ≤ distanceQuantum / 2 + error := add_le_add (abs_quantize_sub exact) h
    _ ≤ db.batchCount session * (distanceQuantum / 2) := by
        rw [add_comm]
        exact hcount

omit [LinearOrder 𝕜] [FloorRing 𝕜] [IsStrictOrderedRing 𝕜] in
theorem Storing.batchCount_succ (h : Storing decimal db batch points execution) {session : Uuid}
    (hsession : execution.loopSessionId = some session) :
    (((db.store batch points).batchCount session : ℕ) : 𝕜) = (db.batchCount session : 𝕜) + 1 := by
  rw [h.batchCount_eq, if_pos hsession]
  push_cast
  rfl

theorem Storing.total_recomputed (h : Storing decimal db batch points execution) {session : Uuid}
    (hsession : execution.loopSessionId = some session) :
    Total hypot (db.store batch points) session
      (calculateLoopTotalDistance hypot (db.store batch points) session) := by
  rw [calculateLoopTotalDistance, foldl_totalOver]
  refine total_quantize 0 (sessionDistance_nonneg hypot _ _) ?_ ?_
  · rw [← sessionDistance, sub_self, abs_zero]
  · rw [h.batchCount_succ hsession, zero_add, add_mul, one_mul]
    exact le_add_of_nonneg_left
      (mul_nonneg (Nat.cast_nonneg _) (half_pos distanceQuantum_pos).le)

theorem Storing.total_incremented (h : Storing decimal db batch points execution) {session : Uuid}
    (hsession : execution.loopSessionId = some session) {old : 𝕜} (hold : Total hypot db session old)
    {first last : TrajectoryPoint}
    (hinserted : Inserted (db.store batch points) session execution.id batch.batchId first last) :
    Total hypot (db.store batch points) session ((normalizeDistance (max 0 (old +
      batchDelta hypot (db.store batch points) execution.id batch.batchId first last))).getD 0) := by
  have hdelta : (db.store batch points).sessionDistance hypot session -
      db.sessionDistance hypot session =
        batchDelta hypot (db.store batch points) execution.id batch.batchId first last := by
    rw [← hinserted.batchDelta_eq, h.filter_sessionPoints, ← sessionDistance]
  refine total_quantize (db.batchCount session * (distanceQuantum / 2)) (le_max_left _ _) ?_ ?_
  · -- The sum is as far from the new distance as the old total was from the old one.
    have hnew := (db.store batch points).sessionDistance_nonneg hypot session
    have hbound : (0 : 𝕜) ≤ db.batchCount session * (distanceQuantum / 2) :=
      mul_nonneg (Nat.cast_nonneg _) (half_pos distanceQuantum_pos).le
    have herror := hold.error
    rw [← hdelta]
    rw [abs_le] at herror ⊢
    constructor
    · have hmax := le_max_right 0 (old + ((db.store batch points).sessionDistance hypot session -
        db.sessionDistance hypot session))
      linarith
    · rw [sub_le_iff_le_add]
      refine max_le (add_nonneg hbound hnew) ?_
      linarith
  · rw [h.batchCount_succ hsession, add_mul, one_mul]

theorem Storing.total_unchanged (h : Storing decimal db batch points execution) {session : Uuid}
    (hsession : execution.loopSessionId = some session) {old : 𝕜} (hold : Total hypot db session old)
    (hnone : ∀ p ∈ (db.store batch points).points, p.batchId ≠ batch.batchId) :
    Total hypot (db.store batch points) session old := by
  have hsame : (db.store batch points).sessionPoints session = db.sessionPoints session := by
    rw [← h.filter_sessionPoints session, List.filter_eq_self.2]
    intro p hp
    exact decide_eq_true (hnone p (List.mem_filter.1 hp).1)
  refine ⟨hold.nonneg, hold.rounded, ?_⟩
  rw [sessionDistance, hsame, ← sessionDistance, h.batchCount_succ hsession, add_mul, one_mul]
  exact hold.error.trans (le_add_of_nonneg_right (half_pos distanceQuantum_pos).le)

theorem Storing.total_updated (h : Storing decimal db batch points execution)
    {row : LoopDistance 𝕜} {total : 𝕜} (hsession : execution.loopSessionId = some row.id)
    (hold : ∀ total, row.totalDistanceM = some total → Total hypot db row.id total)
    (hrow : db.loopSession? row.id = some row) {updated : LoopDistance 𝕜}
    (hupdated : (updatePatrolLoopDistance hypot (db.store batch points) (some row) execution.id
      batch.batchId).loopSession? row.id = some updated)
    (htotal : updated.totalDistanceM = some total) :
    Total hypot (db.store batch points) row.id total := by
  have hsaved : ∀ value : 𝕜,
      Rows.get? LoopDistance.id (Rows.put LoopDistance.id db.loopSessions
        { row with totalDistanceM := some value }) row.id =
          some { row with totalDistanceM := some value } := by
    intro value
    exact Rows.get?_put_self LoopDistance.id (r := { row with totalDistanceM := some value }) hrow
  cases hstored : row.totalDistanceM with
  | none =>
    have hnone : storedLoopTotalDistance row = none := by
      rw [storedLoopTotalDistance, hstored, Option.bind_none]
    simp only [updatePatrolLoopDistance, hnone] at hupdated
    obtain rfl := Option.some.inj ((hsaved _).symm.trans hupdated)
    obtain rfl := Option.some.inj htotal
    exact h.total_recomputed hsession
  | some old =>
    have hold := hold old hstored
    have hsome : storedLoopTotalDistance row = some old := by
      rw [storedLoopTotalDistance, hstored, Option.bind_some, normalizeDistance_eq hold.nonneg,
        hold.rounded]
    simp only [updatePatrolLoopDistance, hsome] at hupdated
    split at hupdated
    · next first last hfirst hlast =>
      obtain rfl := Option.some.inj ((hsaved _).symm.trans hupdated)
      obtain rfl := Option.some.inj htotal
      refine h.total_incremented hsession hold ⟨h.sorted_store, ?_, ?_, hfirst, hlast⟩
      · exact fun p hp => (h.inSession_iff row.id (hp.trans h.id_eq)).2 hsession
      · exact fun p hp hb => (h.ofExecution p hp hb).trans h.id_eq.symm
    · next hempty =>
      have hrow' : db.loopSession? row.id = some updated := hupdated
      obtain rfl := Option.some.inj (hrow.symm.trans hrow')
      obtain rfl := Option.some.inj (hstored.symm.trans htotal)
      refine h.total_unchanged hsession hold fun p hp hb => ?_
      have hmem : p ∈ ((db.store batch points).executionPoints execution.id).filter
          (fun p => decide (p.batchId = batch.batchId)) := by
        have he := (h.ofExecution p hp hb).trans h.id_eq.symm
        simp [executionPoints, hp, hb, he]
      have hne := List.ne_nil_of_mem hmem
      obtain ⟨first, hfirst⟩ := Option.isSome_iff_exists.1 (List.isSome_head?.2 hne)
      obtain ⟨last, hlast⟩ := Option.isSome_iff_exists.1 (List.getLast?_isSome.2 hne)
      exact hempty first last hfirst hlast

omit [IsStrictOrderedRing 𝕜] in
theorem Storing.total_of_ne (h : Storing decimal db batch points execution) {session : Uuid}
    {total : 𝕜} (hne : execution.loopSessionId ≠ some session)
    (htotal : Total hypot db session total) : Total hypot (db.store batch points) session total := by
  refine ⟨htotal.nonneg, htotal.rounded, ?_⟩
  rw [sessionDistance, h.sessionPoints_of_ne hne, ← sessionDistance, h.batchCount_eq, if_neg hne,
    Nat.add_zero]
  exact htotal.error

omit [IsStrictOrderedRing 𝕜] in
theorem loopSession?_updatePatrolLoopDistance {session : Option (LoopDistance 𝕜)} {id batchId : Uuid}
    {other : Uuid} (hne : ∀ row, session = some row → other ≠ row.id) :
    (updatePatrolLoopDistance hypot db session id batchId).loopSession? other =
      db.loopSession? other := by
  unfold updatePatrolLoopDistance
  split
  · rfl
  next row =>
  dsimp only
  split
  · exact Rows.get?_put_ne LoopDistance.id (hne row rfl)
  split
  · exact Rows.get?_put_ne LoopDistance.id (hne row rfl)
  · rfl

omit [IsStrictOrderedRing 𝕜] in
theorem Tracked.storing (h : Tracked hypot db) (hreceipt : db.receipt? batch.batchId = none)
    (hfound : db.execution? batch.taskExecutionId = some execution)
    (hbuilt : buildPoints decimal batch = some points) :
    Storing decimal db batch points execution := by
  refine ⟨h.sorted, fun p hp => ?_, hfound, hbuilt⟩
  obtain ⟨r, hr, hb, -⟩ := h.received p hp
  exact hb ▸ (Rows.get?_eq_none _).1 hreceipt r hr

theorem Tracked.update (h : Tracked hypot db) (hs : Storing decimal db batch points execution) :
    Tracked hypot (updatePatrolLoopDistance hypot (db.store batch points)
      (execution.loopSessionId.bind db.loopSession?) execution.id batch.batchId) := by
  have htotal : ∀ session row total,
      (updatePatrolLoopDistance hypot (db.store batch points)
        (execution.loopSessionId.bind db.loopSession?) execution.id batch.batchId).loopSession?
          session = some row →
      row.totalDistanceM = some total → Total hypot (db.store batch points) session total := by
    intro session row total hrow htotal
    by_cases hsession : execution.loopSessionId = some session
    · rw [hsession, Option.bind_some] at hrow
      cases hold : db.loopSession? session with
      | none =>
        rw [hold] at hrow
        exact absurd (hold.symm.trans hrow) (by simp)
      | some old =>
        have hid : old.id = session := Rows.get?_key _ hold
        subst hid
        rw [hold] at hrow
        exact hs.total_updated hsession (fun total => h.total _ old total hold) hold hrow htotal
    · have hsame : db.loopSession? session = some row := by
        rw [← hrow, loopSession?_updatePatrolLoopDistance]
        · rfl
        · intro old hold hid
          obtain ⟨id, hid', hget⟩ := Option.bind_eq_some_iff.1 hold
          have hkey : old.id = id := Rows.get?_key _ hget
          exact hsession (by rw [hid', ← hkey, hid])
      exact hs.total_of_ne hsession (h.total session row total hsame htotal)
  obtain ⟨rows, hrows⟩ : ∃ rows, updatePatrolLoopDistance hypot (db.store batch points)
      (execution.loopSessionId.bind db.loopSession?) execution.id batch.batchId =
        { db.store batch points with loopSessions := rows } :=
    updatePatrolLoopDistance_eq _ _ _ _
  rw [hrows] at htotal ⊢
  refine ⟨hs.sorted_store, fun p hp => ?_, fun r hr => ?_, fun session row total hrow heq => ?_⟩
  · rcases mem_bulkCreate hp with hnew | hold
    · obtain ⟨he, hb⟩ := mem_buildPoints hs.built hnew
      exact ⟨receiptOf batch points, List.mem_append_right _ List.mem_cons_self, hb.symm, he.symm⟩
    · obtain ⟨r, hr, hmatch⟩ := h.received p hold
      exact ⟨r, List.mem_append_left _ hr, hmatch⟩
  · rcases List.mem_append.1 hr with hold | hnew
    · exact h.known r hold
    · obtain rfl := List.mem_singleton.1 hnew
      exact ⟨execution, hs.found⟩
  · exact (htotal session row total hrow heq).congr rfl rfl (fun _ _ => rfl) (fun _ _ => rfl)

theorem tracked_loopStep (h : Tracked hypot db) (input : LoopInput) :
    Tracked hypot (loopStep hypot decimal db input) := by
  cases input with
  | newSession id counted => exact h.newSession id counted
  | newExecution execution => exact h.newExecution execution
  | batch overlooked batch =>
    simp only [loopStep]
    split
    · next db' result hok =>
      rcases handleTrajectory_cases hok with ⟨receipt, -, rfl, -⟩ | ⟨execution, points, hreceipt,
        hfound, hbuilt, rfl, -⟩
      · exact h
      · exact h.update (h.storing hreceipt hfound hbuilt)
    · exact h

/-- Whatever the order of the batches, the total kept for a session is the one that is recomputed
    from all of its points, up to half a `DISTANCE_QUANTUM` for every batch that was stored and
    another for the recomputation. -/
theorem total_eq_recomputed (hypot : ℚ → ℚ → 𝕜) (decimal : ℕ → ℕ → Json → Option ℚ)
    (inputs : List LoopInput) (session : Uuid) (row : LoopDistance 𝕜) (total : 𝕜)
    (hrow : (Run.exec (loopStep hypot decimal) {} inputs).loopSession? session = some row)
    (htotal : row.totalDistanceM = some total) :
    |total - calculateLoopTotalDistance hypot (Run.exec (loopStep hypot decimal) {} inputs) session| ≤
      ((Run.exec (loopStep hypot decimal) {} inputs).batchCount session + 1) *
        (distanceQuantum / 2) := by
  have htracked : Tracked hypot (Run.exec (loopStep hypot decimal) {} inputs) :=
    Run.exec_invariant (Tracked hypot) (fun _ input h => tracked_loopStep h input) tracked_empty
      inputs
  generalize Run.exec (loopStep hypot decimal) {} inputs = db at *
  have herror := (htracked.total session row total hrow htotal).error
  have hround := abs_quantize_sub (db.sessionDistance hypot session)
  rw [abs_sub_comm] at hround
  rw [calculateLoopTotalDistance_eq]
  calc |total - quantize (db.sessionDistance hypot session)|
      ≤ |total - db.sessionDistance hypot session| +
          |db.sessionDistance hypot session - quantize (db.sessionDistance hypot session)| :=
        abs_sub_le _ _ _
    _ ≤ db.batchCount session * (distanceQuantum / 2) + distanceQuantum / 2 :=
        add_le_add herror hround
    _ = (db.batchCount session + 1) * (distanceQuantum / 2) := by rw [add_mul, one_mul]

/-- The Euclidean length, on steps along an axis. -/
def axisHypot (dx dy : ℚ) : ℚ := |dx| + |dy|

/-- What a `DecimalField` stores for a short number. -/
def shortDecimal (_ _ : ℕ) : Json → Option ℚ
  | .num (.int n) => some n
  | .num (.float q) => some q
  | _ => none

def sampleAt (seq : ℕ) (x : ℤ) : TrajectorySample where
  seq := seq
  sampledAt := seq
  x := .int x
  y := .int 0
  yaw := .int 0
  localizationStatus := "ok"

/-- Two rounds of a session; the second half of the first round arrives first, and twice. -/
def lateBatches : List LoopInput :=
  let late : TrajectoryBatch :=
    { taskExecutionId := 10, batchId := 2, firstSeq := 3, lastSeq := 4
      points := [sampleAt 3 3, sampleAt 4 4] }
  let early : TrajectoryBatch :=
    { taskExecutionId := 10, batchId := 1, firstSeq := 1, lastSeq := 2
      points := [sampleAt 1 1, sampleAt 2 2] }
  let nextRound : TrajectoryBatch :=
    { taskExecutionId := 11, batchId := 3, firstSeq := 1, lastSeq := 2
      points := [sampleAt 1 0, sampleAt 2 1] }
  [.newSession 1 true, .newExecution ⟨10, some 1⟩, .batch false late, .newExecution ⟨11, some 1⟩,
    .batch false nextRound, .batch true late, .batch false early]

theorem total_eq_recomputed_lateBatches :
    |(4 : ℚ) - calculateLoopTotalDistance axisHypot
        (Run.exec (loopStep axisHypot shortDecimal) {} lateBatches) 1| ≤
      ((Run.exec (loopStep axisHypot shortDecimal) {} lateBatches).batchCount 1 + 1) *
        (distanceQuantum / 2) :=
  total_eq_recomputed axisHypot shortDecimal lateBatches 1 ⟨1, some 4⟩ 4 (by decide +kernel) rfl

end Totals

end TrajectoryDb

end RoamerX
