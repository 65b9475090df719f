import RoamerX.Edge.TrajectoryBuffer
import Mathlib.Data.List.Nodup

set_option autoImplicit false

/-! # The batches that are emitted

Sequence numbers are drawn from the store, so the batches of one execution cover disjoint stretches
of them, whatever is lost with the buffer when the process dies. -/

namespace RoamerX

/-- A batch as the Edge builds it: consecutive points of poses, between 1 and 100 of them. -/
structure Emitted (batch : TrajectoryBatch) : Prop where
  size : 1 ≤ batch.points.length ∧ batch.points.length ≤ 100
  seqs : batch.points.map (·.seq) = List.range' batch.firstSeq batch.points.length
  lastSeq : batch.lastSeq = batch.firstSeq + batch.points.length - 1
  poses : ∀ sample ∈ batch.points, ∃ (pose : PoseSnapshot) (keyframe : Option (List (String × Json))),
    sample = pose.point sample.seq keyframe

namespace LocalStore

@[simp] theorem nextSeq_enqueueOutbox (s : LocalStore) (messageType : String)
    (payload : List (String × Json)) (dedupeKey : Option String) :
    (s.enqueueOutbox messageType payload dedupeKey).nextSeq = s.nextSeq := by
  have hinsert : (s.insertOutbox messageType payload dedupeKey).nextSeq = s.nextSeq := by
    unfold insertOutbox
    split <;> rfl
  unfold enqueueOutbox
  dsimp only
  split
  · exact hinsert
  split
  · exact hinsert
  · exact hinsert

end LocalStore

namespace TrajectoryBuffer

/-- Up to where the points of an execution have left the buffer. -/
def flushedUpTo (b : TrajectoryBuffer) (store : LocalStore) (execution : Uuid) : ℕ :=
  if b.executionId = some execution then store.nextSeq execution - b.points.length
  else store.nextSeq execution

theorem flushedUpTo_le (b : TrajectoryBuffer) (store : LocalStore) (execution : Uuid) :
    b.flushedUpTo store execution ≤ store.nextSeq execution := by
  rw [flushedUpTo]
  split
  · exact Nat.sub_le _ _
  · exact le_rfl

/-- The buffer holds the points drawn last for its execution; what was emitted before covers
    stretches below them, no two of which overlap. -/
structure Ledger (b : TrajectoryBuffer) (store : LocalStore) (emitted : List TrajectoryBatch) :
    Prop where
  owned : b.points ≠ [] → b.executionId ≠ none
  drawn : ∀ execution, b.executionId = some execution →
    b.points.length ≤ store.nextSeq execution ∧
      b.points.map (·.seq) =
        List.range' (store.nextSeq execution - b.points.length) b.points.length
  poses : ∀ sample ∈ b.points, ∃ (pose : PoseSnapshot) (keyframe : Option (List (String × Json))),
    sample = pose.point sample.seq keyframe
  size : b.points.length ≤ b.batchSize.1
  built : ∀ batch ∈ emitted, Emitted batch
  below : ∀ batch ∈ emitted,
    batch.firstSeq + batch.points.length ≤ b.flushedUpTo store batch.taskExecutionId
  ids : (emitted.map (·.batchId)).Nodup
  disjoint : emitted.Pairwise (fun earlier later =>
    earlier.taskExecutionId = later.taskExecutionId →
      earlier.firstSeq + earlier.points.length ≤ later.firstSeq)

namespace Ledger

variable {b : TrajectoryBuffer} {store : LocalStore} {emitted : List TrajectoryBatch}

theorem initial (batchSize : BatchSize) (store : LocalStore) :
    Ledger { batchSize := batchSize } store [] where
  owned := by simp
  drawn := by simp
  poses := by simp
  size := Nat.zero_le _
  built := by simp
  below := by simp
  ids := List.nodup_nil
  disjoint := List.Pairwise.nil

theorem congr (h : Ledger b store emitted) {store' : LocalStore}
    (hseq : store'.nextSeq = store.nextSeq) : Ledger b store' emitted := by
  have hflushed : b.flushedUpTo store' = b.flushedUpTo store := by
    funext execution
    rw [flushedUpTo, flushedUpTo, hseq]
  refine { h with drawn := ?_, below := ?_ }
  · rw [hseq]
    exact h.drawn
  · rw [hflushed]
    exact h.below

theorem restart (h : Ledger b store emitted) (batchSize : BatchSize) :
    Ledger { batchSize := batchSize } store emitted := by
  have hempty := initial batchSize store
  refine ⟨hempty.owned, hempty.drawn, hempty.poses, hempty.size, h.built, ?_, h.ids, h.disjoint⟩
  intro batch hbatch
  exact (h.below batch hbatch).trans (b.flushedUpTo_le store _)

theorem span (h : Ledger b store emitted) {execution : Uuid}
    (hexecution : b.executionId = some execution) :
    b.flushedUpTo store execution + b.points.length = store.nextSeq execution ∧
      b.points.map (·.seq) = List.range' (b.flushedUpTo store execution) b.points.length := by
  obtain ⟨hle, hseqs⟩ := h.drawn execution hexecution
  rw [flushedUpTo, if_pos hexecution]
  exact ⟨Nat.sub_add_cancel hle, hseqs⟩

theorem emitted_nextBatch (h : Ledger b store emitted) {first : TrajectorySample}
    {rest : List TrajectorySample} (hpoints : b.points = first :: rest) {execution : Uuid}
    (hexecution : b.executionId = some execution) (batchId : Uuid) :
    Emitted (b.nextBatch execution batchId first rest) ∧
      first.seq = b.flushedUpTo store execution := by
  obtain ⟨-, hseqs⟩ := h.span hexecution
  have hsize := h.size
  rw [hpoints] at hseqs hsize
  have hfirst : first.seq = b.flushedUpTo store execution := by
    rw [List.map_cons, List.length_cons, List.range'_succ] at hseqs
    exact (List.cons.inj hseqs).1
  have hlast : ((first :: rest).getLast (List.cons_ne_nil _ _)).seq =
      b.flushedUpTo store execution + (first :: rest).length - 1 := by
    have hne : (first :: rest).map TrajectorySample.seq ≠ [] := by simp
    rw [← List.getLast_map hne]
    simp only [hseqs, List.getLast_range']
  refine ⟨⟨⟨Nat.succ_le_succ (Nat.zero_le _), hsize.trans b.batchSize.2.2⟩, ?_, ?_, ?_⟩, hfirst⟩
  · simp only [nextBatch, hfirst]
    exact hseqs
  · simp only [nextBatch, hfirst]
    exact hlast
  · intro sample hsample
    exact h.poses sample (hpoints ▸ hsample)

theorem flushLocked (h : Ledger b store emitted) (texts : Texts) {batchId : Uuid}
    (hfresh : ∀ batch ∈ emitted, batch.batchId ≠ batchId) :
    Ledger (b.flushLocked texts batchId store).1 (b.flushLocked texts batchId store).2.1
      (emitted ++ (b.flushLocked texts batchId store).2.2.toList) := by
  unfold TrajectoryBuffer.flushLocked
  split
  · simpa using h
  · simpa using h
  next first rest execution hpoints hexecution =>
  obtain ⟨hemitted, hfirst⟩ := h.emitted_nextBatch hpoints hexecution batchId
  have hspan := (h.span hexecution).1
  have hempty := (initial b.batchSize store)
  refine @congr _ store _ ⟨hempty.owned, hempty.drawn, hempty.poses, hempty.size, ?_, ?_, ?_,
    ?_⟩ _ (LocalStore.nextSeq_enqueueOutbox _ _ _ _)
  · intro batch hbatch
    rcases List.mem_append.1 hbatch with hold | hnew
    · exact h.built batch hold
    · obtain rfl := List.mem_singleton.1 hnew
      exact hemitted
  · intro batch hbatch
    change _ ≤ store.nextSeq _
    rcases List.mem_append.1 hbatch with hold | hnew
    · exact (h.below batch hold).trans (b.flushedUpTo_le store _)
    · obtain rfl := List.mem_singleton.1 hnew
      rw [hpoints] at hspan
      exact (hfirst ▸ hspan).le
  · have hids : ((emitted ++ [b.nextBatch execution batchId first rest]).map (·.batchId)).Nodup := by
      rw [List.map_append, List.nodup_append]
      refine ⟨h.ids, List.nodup_singleton _, fun id hid other hother => ?_⟩
      obtain ⟨batch, hbatch, rfl⟩ := List.mem_map.1 hid
      obtain rfl := List.mem_singleton.1 hother
      exact hfresh batch hbatch
    exact hids
  · refine List.pairwise_append.2 ⟨h.disjoint, List.pairwise_singleton _ _, ?_⟩
    intro earlier hearlier later hlater heq
    obtain rfl := List.mem_singleton.1 hlater
    have hbelow := h.below earlier hearlier
    rw [heq] at hbelow
    exact hbelow.trans hfirst.ge

theorem append (h : Ledger b store emitted) {execution : Uuid} {mapId mapVersion : String}
    {pose : PoseSnapshot} {keyframe : Option (List (String × Json))}
    (hsame : b.points = [] ∨ b.executionId = some execution)
    (hroom : b.points.length < b.batchSize.1) :
    Ledger (b.append execution mapId mapVersion pose keyframe store).1
      (b.append execution mapId mapVersion pose keyframe store).2 emitted := by
  have hspan : b.flushedUpTo store execution + b.points.length = store.nextSeq execution ∧
      b.points.map (·.seq) = List.range' (b.flushedUpTo store execution) b.points.length := by
    rcases hsame with hempty | hexecution
    · have hflushed : b.flushedUpTo store execution = store.nextSeq execution := by
        rw [flushedUpTo, hempty, List.length_nil, Nat.sub_zero, ite_self]
      rw [hflushed, hempty]
      exact ⟨rfl, rfl⟩
    · exact h.span hexecution
  have hnext : Function.update store.nextSeq execution (store.nextSeq execution + 1) execution =
      store.nextSeq execution + 1 := Function.update_self _ _ _
  have hstart : store.nextSeq execution + 1 - (b.points.length + 1) =
      b.flushedUpTo store execution := by omega
  refine ⟨by simp [TrajectoryBuffer.append], ?_, ?_, ?_, h.built, ?_, h.ids, h.disjoint⟩
  · intro e he
    obtain rfl := Option.some.inj he
    have hseqs : (b.points ++ [pose.point (store.nextSeq execution) keyframe]).map (·.seq) =
        List.range' (b.flushedUpTo store execution) (b.points.length + 1) := by
      rw [List.map_append, hspan.2, List.range'_concat, Nat.one_mul, hspan.1]
      rfl
    simp only [TrajectoryBuffer.append, LocalStore.nextTrajectorySeq, hnext, List.length_append,
      List.length_singleton, hstart]
    exact ⟨by omega, hseqs⟩
  · intro sample hsample
    rcases List.mem_append.1 hsample with hold | hnew
    · exact h.poses sample hold
    · obtain rfl := List.mem_singleton.1 hnew
      exact ⟨pose, keyframe, rfl⟩
  · simp only [TrajectoryBuffer.append, List.length_append, List.length_singleton]
    exact hroom
  · intro batch hbatch
    refine (h.below batch hbatch).trans ?_
    simp only [TrajectoryBuffer.append, LocalStore.nextTrajectorySeq]
    by_cases he : execution = batch.taskExecutionId
    · rw [← he]
      simp only [flushedUpTo, if_true, hnext, List.length_append, List.length_singleton] at hstart ⊢
      exact hstart.ge
    · have hother : Function.update store.nextSeq execution (store.nextSeq execution + 1)
          batch.taskExecutionId = store.nextSeq batch.taskExecutionId :=
        Function.update_of_ne (Ne.symm he) _ _
      have hne : ¬(some execution = some batch.taskExecutionId) := fun heq => he (Option.some.inj heq)
      simp only [flushedUpTo, hother, if_neg hne]
      exact b.flushedUpTo_le store _

theorem apart (h : Ledger b store emitted) {batch other : TrajectoryBatch} (hbatch : batch ∈ emitted)
    (hother : other ∈ emitted) (hne : batch.batchId ≠ other.batchId)
    (hexecution : batch.taskExecutionId = other.taskExecutionId) :
    batch.firstSeq + batch.points.length ≤ other.firstSeq ∨
      other.firstSeq + other.points.length ≤ batch.firstSeq := by
  have hall := List.Pairwise.forall_of_forall_of_flip
    (R := fun p q : TrajectoryBatch => p.batchId ≠ q.batchId →
      p.taskExecutionId = q.taskExecutionId →
        p.firstSeq + p.points.length ≤ q.firstSeq ∨ q.firstSeq + q.points.length ≤ p.firstSeq)
    (fun _ _ hne => absurd rfl hne)
    (h.disjoint.imp fun hle _ heq => Or.inl (hle heq))
    (h.disjoint.imp fun hle _ heq => Or.inr (hle heq.symm))
  exact hall hbatch hother hne hexecution

end Ledger

/-! ## The steps of `sample` -/

variable {b : TrajectoryBuffer} {store : LocalStore} {emitted : List TrajectoryBatch}

theorem flushLocked_cases (b : TrajectoryBuffer) (store : LocalStore) (texts : Texts)
    (batchId : Uuid) :
    b.flushLocked texts batchId store = (b, store, none) ∨
      ∃ batch, batch.batchId = batchId ∧ b.flushLocked texts batchId store =
        ({ batchSize := b.batchSize },
          store.enqueueOutbox "trajectory.batch" (trajectoryPayload texts batch)
            (some (texts.uuidText batchId)),
          some batch) := by
  unfold flushLocked
  split
  · exact Or.inl rfl
  · exact Or.inl rfl
  · exact Or.inr ⟨_, rfl, rfl⟩

theorem flush_eq (h : Ledger b store emitted) (texts : Texts) (batchId execution : Uuid)
    (mapId mapVersion : String) :
    b.flush texts batchId execution mapId mapVersion store = b.flushLocked texts batchId store := by
  unfold flush
  exact if_neg fun hnone => h.owned hnone.1 hnone.2

theorem points_flushLocked (h : Ledger b store emitted) (texts : Texts) (batchId : Uuid) :
    (b.flushLocked texts batchId store).1.points = [] := by
  unfold flushLocked
  split
  · next hpoints => exact hpoints
  · next hpoints hnone =>
    refine absurd hnone (h.owned ?_)
    rw [hpoints]
    exact List.cons_ne_nil _ _
  · rfl

theorem batchSize_flushLocked (texts : Texts) (batchId : Uuid) :
    (b.flushLocked texts batchId store).1.batchSize = b.batchSize := by
  unfold flushLocked
  split <;> rfl

end TrajectoryBuffer

end RoamerX
