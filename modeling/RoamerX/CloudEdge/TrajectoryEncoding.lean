import RoamerX.Center.TrajectoryMessages
import RoamerX.Center.LoopDistance
import RoamerX.Edge.TrajectoryEmission

set_option autoImplicit false

/-! # What the Edge writes, the center reads

The payload of a batch that the Edge emits passes the checks of the center, and the center reads
back the batch that was written. -/

namespace RoamerX

@[simp] theorem trajectorySeq_natCast (n : ℕ) : trajectorySeq (.num (.int n)) = .ok n := by
  rw [trajectorySeq, if_neg (not_lt.2 (Int.natCast_nonneg n)), Int.toNat_natCast]

@[simp] theorem Json.toNat?_natCast (n : ℕ) : Json.toNat? (.num (.int n)) = some n := by
  rw [Json.toNat?, if_neg (not_lt.2 (Int.natCast_nonneg n)), Int.toNat_natCast]

theorem validate_samplePayload (texts : Texts) (pose : PoseSnapshot) (seq : ℕ)
    (keyframe : Option (List (String × Json))) :
    validateTrajectoryPoint texts (samplePayload texts (pose.point seq keyframe)) = .ok seq := by
  cases keyframe <;>
    simp [validateTrajectoryPoint, samplePayload, PoseSnapshot.point, required, normalizeTimestamp,
      requireNumeric, isNumeric, checkKeyframe, bind, Except.bind, pure, Except.pure]

theorem readSample_samplePayload (texts : Texts) (pose : PoseSnapshot) (seq : ℕ)
    (keyframe : Option (List (String × Json))) :
    readSample texts (samplePayload texts (pose.point seq keyframe)) =
      some (pose.point seq keyframe) := by
  cases keyframe <;>
    simp [readSample, samplePayload, PoseSnapshot.point, coordinate?, charField?, Json.isNull,
      Option.filter]

theorem mapM_samplePayload {β : Type} {m : Type → Type} [Monad m] [LawfulMonad m]
    (f : Json → m β) (g : TrajectorySample → β) (texts : Texts) {samples : List TrajectorySample}
    (h : ∀ sample ∈ samples, f (samplePayload texts sample) = pure (g sample)) :
    (samples.map (samplePayload texts)).mapM f = pure (samples.map g) := by
  induction samples with
  | nil => simp
  | cons sample samples ih =>
    have htail := ih (fun sample hsample => h sample (List.mem_cons_of_mem _ hsample))
    simp [h sample List.mem_cons_self, htail]

namespace Emitted

variable {batch : TrajectoryBatch}

theorem seqs_valid (h : Emitted batch) (texts : Texts) :
    checkSequences (trajectoryPayload texts batch) (batch.points.map (·.seq)) = .ok () := by
  obtain ⟨n, hn⟩ : ∃ n, batch.points.length = n + 1 :=
    Nat.exists_eq_succ_of_ne_zero (Nat.one_le_iff_ne_zero.1 h.size.1)
  have hlast : (batch.firstSeq :: List.range' (batch.firstSeq + 1) n).getLast
      (List.cons_ne_nil _ _) = batch.lastSeq := by
    have hrange : batch.firstSeq :: List.range' (batch.firstSeq + 1) n =
        List.range' batch.firstSeq (n + 1) := List.range'_succ.symm
    rw [h.lastSeq, hn]
    simp [hrange, List.getLast_range']
  rw [h.seqs, hn, List.range'_succ, checkSequences, hlast]
  simp [trajectoryPayload, Json.equalsInt, List.range'_succ]

theorem validate (h : Emitted batch) (texts : Texts) :
    validateTrajectoryBatch texts (trajectoryPayload texts batch) = .ok () := by
  have hpoints : (batch.points.map (samplePayload texts)).mapM (validateTrajectoryPoint texts) =
      Except.ok (batch.points.map (·.seq)) := by
    refine mapM_samplePayload _ _ texts fun sample hsample => ?_
    obtain ⟨pose, keyframe, heq⟩ := h.poses sample hsample
    rw [heq]
    exact validate_samplePayload texts pose _ keyframe
  have hsize := h.size
  have hseqs := h.seqs_valid texts
  have hexecution : required (trajectoryPayload texts batch) "task_execution_id" =
      .ok (.str (texts.uuidText batch.taskExecutionId)) := by simp [required, trajectoryPayload]
  have hbatch : required (trajectoryPayload texts batch) "batch_id" =
      .ok (.str (texts.uuidText batch.batchId)) := by simp [required, trajectoryPayload]
  have hitems : required (trajectoryPayload texts batch) "points" =
      .ok (.arr (batch.points.map (samplePayload texts))) := by simp [required, trajectoryPayload]
  simp [validateTrajectoryBatch, hexecution, hbatch, hitems, parseUuid, bind, Except.bind, hsize,
    hpoints, hseqs]

theorem read (h : Emitted batch) (texts : Texts) :
    readBatch texts (trajectoryPayload texts batch) = some batch := by
  have hpoints : (batch.points.map (samplePayload texts)).mapM (readSample texts) =
      some (batch.points.map id) := by
    refine mapM_samplePayload _ _ texts fun sample hsample => ?_
    obtain ⟨pose, keyframe, heq⟩ := h.poses sample hsample
    rw [heq]
    exact readSample_samplePayload texts pose _ keyframe
  simp [readBatch, trajectoryPayload, charField?, hpoints]

variable {decimal : ℕ → ℕ → Json → Option ℚ} {points : List TrajectoryPoint}

theorem seq_bounds (h : Emitted batch) (hpoints : TrajectoryDb.buildPoints decimal batch = some points)
    {p : TrajectoryPoint} (hp : p ∈ points) :
    batch.firstSeq ≤ p.seq ∧ p.seq < batch.firstSeq + batch.points.length := by
  have hmem : p.seq ∈ points.map (·.seq) := List.mem_map_of_mem hp
  rw [TrajectoryDb.seq_buildPoints hpoints, h.seqs, List.mem_range'_1] at hmem
  exact hmem

theorem distinct (h : Emitted batch) (hpoints : TrajectoryDb.buildPoints decimal batch = some points) :
    points.Pairwise (fun p q => ¬p.SameKey q) := by
  have hseqs : (points.map (·.seq)).Nodup := by
    rw [TrajectoryDb.seq_buildPoints hpoints, h.seqs]
    exact List.nodup_range'
  exact (List.pairwise_map.1 hseqs).imp fun hne hkey => hne hkey.2

theorem receive (h : Emitted batch) {𝕜 : Type*} [Field 𝕜] [LinearOrder 𝕜] [FloorRing 𝕜]
    (hypot : ℚ → ℚ → 𝕜) (texts : Texts) (overlooked : Bool) (db : TrajectoryDb 𝕜) :
    receiveTrajectory hypot decimal texts overlooked db (trajectoryPayload texts batch) =
      match TrajectoryDb.handleTrajectory hypot decimal overlooked db batch with
      | .ok (db', result) => (db', some (TrajectoryResult.ack texts result))
      | .error .unknownTaskExecution =>
        (db, trajectoryRejection texts (trajectoryPayload texts batch)
          ⟨"UNKNOWN_TASK_EXECUTION", "task execution not found"⟩)
      | .error .raised => (db, none) := by
  rw [receiveTrajectory, h.validate texts]
  dsimp only
  rw [h.read texts]
  all_goals rfl

end Emitted

end RoamerX
