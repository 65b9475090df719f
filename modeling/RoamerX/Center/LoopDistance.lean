import RoamerX.Center.Trajectory
import RoamerX.Lib.Run
import Mathlib.Algebra.Order.Group.Abs
import Mathlib.Tactic.Linarith
import Mathlib.Tactic.Ring

set_option autoImplicit false

/-! # The distance of a patrol loop

`update_patrol_loop_distance` measures only the stretch of points around a batch, with and without
the batch. Whatever the order in which batches arrive, the total it keeps differs from the one
recomputed from all points by the rounding of the increments alone. -/

namespace RoamerX

open Path

/-! ## The order of the points -/

namespace TrajectoryPoint

theorem Before.trans {p q r : TrajectoryPoint} (h : p.Before q) (h' : q.Before r) : p.Before r := by
  simp only [Before] at *
  grind

/-- The two are one under the constraint `uniq_robot_execution_trajectory_seq`. -/
def SameKey (p q : TrajectoryPoint) : Prop := p.taskExecution = q.taskExecution ∧ p.seq = q.seq

theorem Before.asymm {p q : TrajectoryPoint} (h : p.Before q) : ¬q.Before p := by
  simp only [Before] at *
  grind

end TrajectoryPoint

namespace TrajectoryDb

/-! ## Storing points -/

section Insert

variable {point : TrajectoryPoint} {rows : List TrajectoryPoint}

theorem mem_insertPoint {p : TrajectoryPoint} (h : p ∈ insertPoint point rows) :
    p = point ∨ p ∈ rows := by
  induction rows with
  | nil => exact Or.inl (by simpa [insertPoint] using h)
  | cons q rest ih =>
    rw [insertPoint] at h
    split at h
    · simpa using h
    split at h
    · rcases List.mem_cons.1 h with rfl | hrest
      · exact Or.inr (by simp)
      · rcases ih hrest with rfl | hmem
        · exact Or.inl rfl
        · exact Or.inr (by simp [hmem])
    · exact Or.inr h

theorem insertPoint_sorted (h : rows.Pairwise TrajectoryPoint.Before) :
    (insertPoint point rows).Pairwise TrajectoryPoint.Before := by
  induction rows with
  | nil => exact List.pairwise_singleton _ _
  | cons q rest ih =>
    obtain ⟨hq, hrest⟩ := List.pairwise_cons.1 h
    rw [insertPoint]
    split
    · next hbefore =>
      refine List.pairwise_cons.2 ⟨fun r hr => ?_, h⟩
      rcases List.mem_cons.1 hr with rfl | hr
      · exact hbefore
      · exact hbefore.trans (hq r hr)
    split
    · next hafter =>
      refine List.pairwise_cons.2 ⟨fun r hr => ?_, ih hrest⟩
      rcases mem_insertPoint hr with rfl | hr
      · exact hafter
      · exact hq r hr
    · exact h

theorem filter_insertPoint {f : TrajectoryPoint → Bool} (hf : f point = false) :
    (insertPoint point rows).filter f = rows.filter f := by
  induction rows with
  | nil => simp [insertPoint, hf]
  | cons q rest ih =>
    rw [insertPoint]
    split
    · rw [List.filter_cons_of_neg (by simp [hf])]
    split
    · rw [List.filter_cons, ih, List.filter_cons]
    · rfl

variable {points : List TrajectoryPoint}

theorem mem_bulkCreate {p : TrajectoryPoint} (h : p ∈ bulkCreate points rows) :
    p ∈ points ∨ p ∈ rows := by
  induction points generalizing rows with
  | nil => exact Or.inr h
  | cons point points ih =>
    rcases ih h with hmem | hmem
    · exact Or.inl (by simp [hmem])
    · rcases mem_insertPoint hmem with rfl | hmem
      · exact Or.inl (by simp)
      · exact Or.inr hmem

theorem bulkCreate_sorted (h : rows.Pairwise TrajectoryPoint.Before) :
    (bulkCreate points rows).Pairwise TrajectoryPoint.Before := by
  induction points generalizing rows with
  | nil => exact h
  | cons point points ih => exact ih (insertPoint_sorted h)

theorem filter_bulkCreate {f : TrajectoryPoint → Bool} (hf : ∀ p ∈ points, f p = false) :
    (bulkCreate points rows).filter f = rows.filter f := by
  induction points generalizing rows with
  | nil => rfl
  | cons point points ih =>
    calc (bulkCreate points (insertPoint point rows)).filter f
        = (insertPoint point rows).filter f := ih (fun p hp => hf p (by simp [hp]))
      _ = rows.filter f := filter_insertPoint (hf point (by simp))

theorem mem_insertPoint_of_mem {p : TrajectoryPoint} (h : p ∈ rows) : p ∈ insertPoint point rows := by
  induction rows with
  | nil => exact absurd h (by simp)
  | cons q rest ih =>
    rw [insertPoint]
    split
    · exact List.mem_cons_of_mem _ h
    split
    · rcases List.mem_cons.1 h with rfl | hrest
      · exact List.mem_cons_self
      · exact List.mem_cons_of_mem _ (ih hrest)
    · exact h

theorem mem_bulkCreate_of_mem {p : TrajectoryPoint} (h : p ∈ rows) : p ∈ bulkCreate points rows := by
  induction points generalizing rows with
  | nil => exact h
  | cons point points ih => exact ih (mem_insertPoint_of_mem h)

theorem mem_insertPoint_self (h : ∀ q ∈ rows, ¬point.SameKey q) : point ∈ insertPoint point rows := by
  induction rows with
  | nil => exact List.mem_cons_self
  | cons q rest ih =>
    rw [insertPoint]
    split
    · exact List.mem_cons_self
    split
    · exact List.mem_cons_of_mem _ (ih fun r hr => h r (List.mem_cons_of_mem _ hr))
    · next hbefore hafter =>
      have hkey := h q List.mem_cons_self
      simp only [TrajectoryPoint.SameKey, TrajectoryPoint.Before] at hkey hbefore hafter
      grind

theorem mem_bulkCreate_of_new (hdistinct : points.Pairwise (fun p q => ¬p.SameKey q))
    (hnew : ∀ p ∈ points, ∀ q ∈ rows, ¬p.SameKey q) {p : TrajectoryPoint} (hp : p ∈ points) :
    p ∈ bulkCreate points rows := by
  induction points generalizing rows with
  | nil => exact absurd hp (by simp)
  | cons point points ih =>
    obtain ⟨hpoint, hrest⟩ := List.pairwise_cons.1 hdistinct
    have hstored := mem_insertPoint_self (hnew point List.mem_cons_self)
    rcases List.mem_cons.1 hp with rfl | hmem
    · have hkept : p ∈ bulkCreate points (insertPoint p rows) := mem_bulkCreate_of_mem hstored
      exact hkept
    · refine ih hrest (fun r hr q hq => ?_) hmem
      rcases mem_insertPoint hq with rfl | hold
      · exact fun hkey => hpoint r hr ⟨hkey.1.symm, hkey.2.symm⟩
      · exact hnew r (List.mem_cons_of_mem _ hr) q hold

end Insert

/-! ## Distances as lengths of paths -/

section Distance

variable {𝕜 : Type*} [Field 𝕜] [LinearOrder 𝕜] (hypot : ℚ → ℚ → 𝕜)

theorem trajectoryDistance_eq (points : List TrajectoryPoint) :
    trajectoryDistance hypot points = pathLength (segment hypot) points := by
  have hfold : ∀ (d : 𝕜) (points : List TrajectoryPoint),
      (points.zip points.tail).foldl (fun distance step => distance + segment hypot step.1 step.2)
        d = d + pathLength (segment hypot) points := by
    intro d points
    induction points generalizing d with
    | nil => simp
    | cons p rest ih =>
      cases rest with
      | nil => simp [pathLength]
      | cons q rest =>
        have hstep := ih (d + segment hypot p q)
        simp only [List.tail_cons, List.zip_cons_cons, List.foldl_cons] at hstep ⊢
        rw [hstep, pathLength, add_assoc]
  rw [trajectoryDistance, hfold, zero_add]

/-- The step from one point of a session to the next; a new execution starts anew. -/
def sessionStep (p q : TrajectoryPoint) : 𝕜 :=
  if p.taskExecution ≠ q.taskExecution then 0 else segment hypot p q

/-- The distance covered in a session, before any rounding. -/
def sessionDistance (db : TrajectoryDb 𝕜) (session : Uuid) : 𝕜 :=
  pathLength (sessionStep hypot) (db.sessionPoints session)

theorem foldl_totalOver (points : List TrajectoryPoint) :
    (points.foldl (totalOver hypot) (none, 0)).2 = pathLength (sessionStep hypot) points := by
  have hfold : ∀ (points : List TrajectoryPoint) (p : TrajectoryPoint) (d : 𝕜),
      (points.foldl (totalOver hypot) (some p, d)).2 =
        d + pathLength (sessionStep hypot) (p :: points) := by
    intro points
    induction points with
    | nil => simp [pathLength]
    | cons q rest ih =>
      intro p d
      have hstep : totalOver hypot (some p, d) q = (some q, d + sessionStep hypot p q) := by
        simp only [totalOver, sessionStep]
        split
        · rw [add_zero]
        · rw [trajectoryDistance_eq]
          simp [pathLength]
      rw [List.foldl_cons, hstep, ih, pathLength, add_assoc]
  cases points with
  | nil => rfl
  | cons p rest =>
    have hfirst : totalOver hypot (none, 0) p = (some p, 0) := rfl
    rw [List.foldl_cons, hfirst, hfold, zero_add]

theorem segment_nonneg (p q : TrajectoryPoint) : 0 ≤ segment hypot p q := by
  simp only [segment]
  split
  · exact le_rfl
  split
  · next h => exact h.1
  · exact le_rfl

theorem sessionDistance_nonneg [IsStrictOrderedRing 𝕜] (db : TrajectoryDb 𝕜) (session : Uuid) :
    0 ≤ db.sessionDistance hypot session := by
  have hlength : ∀ points : List TrajectoryPoint, 0 ≤ pathLength (sessionStep hypot) points := by
    intro points
    induction points with
    | nil => exact le_rfl
    | cons p rest ih =>
      cases rest with
      | nil => exact le_rfl
      | cons q rest =>
        have hstep : 0 ≤ sessionStep hypot p q := by
          simp only [sessionStep]
          split
          · exact le_rfl
          · exact segment_nonneg hypot p q
        exact add_nonneg hstep ih
  exact hlength _

end Distance

/-! ## The stretch around a batch -/

section Stretch

variable {𝕜 : Type*} [Field 𝕜] [LinearOrder 𝕜] {hypot : ℚ → ℚ → 𝕜} {db : TrajectoryDb 𝕜}
  {session execution batchId : Uuid} {first last : TrajectoryPoint}

theorem seq_le_of_not_before {p q : TrajectoryPoint} (h : ¬q.Before p)
    (he : p.taskExecution = q.taskExecution) : p.seq ≤ q.seq := by
  simp only [TrajectoryPoint.Before] at h
  grind

/-- The points a batch added, and its first and last. -/
structure Inserted (db : TrajectoryDb 𝕜) (session execution batchId : Uuid)
    (first last : TrajectoryPoint) : Prop where
  sorted : db.points.Pairwise TrajectoryPoint.Before
  inSession : ∀ p, p.taskExecution = execution → db.inSession session p = true
  ofExecution : ∀ p ∈ db.points, p.batchId = batchId → p.taskExecution = execution
  head : ((db.executionPoints execution).filter (fun p => decide (p.batchId = batchId))).head? =
    some first
  last : ((db.executionPoints execution).filter (fun p => decide (p.batchId = batchId))).getLast? =
    some last

namespace Inserted

omit [Field 𝕜] [LinearOrder 𝕜] in
theorem mem_inserted {p : TrajectoryPoint} (h : Inserted db session execution batchId first last)
    (hp : p ∈ db.points) (hb : p.batchId = batchId) :
    p ∈ (db.executionPoints execution).filter (fun p => decide (p.batchId = batchId)) := by
  simp [executionPoints, hp, hb, h.ofExecution p hp hb]

omit [Field 𝕜] [LinearOrder 𝕜] in
theorem between {p : TrajectoryPoint} (h : Inserted db session execution batchId first last)
    (hp : p ∈ db.points) (hb : p.batchId = batchId) :
    p.taskExecution = execution ∧ first.seq ≤ p.seq ∧ p.seq ≤ last.seq := by
  have hsorted : ((db.executionPoints execution).filter
      (fun p => decide (p.batchId = batchId))).Pairwise TrajectoryPoint.Before :=
    (h.sorted.filter _).filter _
  have hmem := h.mem_inserted hp hb
  have he := h.ofExecution p hp hb
  have hfirst := List.mem_of_mem_head? h.head
  have hlast := List.mem_of_getLast? h.last
  simp only [executionPoints, List.mem_filter, decide_eq_true_eq] at hfirst hlast
  refine ⟨he, seq_le_of_not_before (not_lt_head? ?_ hsorted h.head hmem) ?_,
    seq_le_of_not_before (not_getLast?_lt ?_ hsorted h.last hmem) ?_⟩
  · exact fun _ _ => TrajectoryPoint.Before.asymm
  · rw [hfirst.1.2, he]
  · exact fun _ _ => TrajectoryPoint.Before.asymm
  · rw [hlast.1.2, he]

/-! The bounds of the stretch, and what lies outside them. -/

def below (execution : Uuid) (lowerSeq : ℕ) (p : TrajectoryPoint) : Bool :=
  decide (p.taskExecution < execution) ||
    (decide (p.taskExecution = execution) && decide (p.seq < lowerSeq))

def above (execution : Uuid) (upperSeq : ℕ) (p : TrajectoryPoint) : Bool :=
  decide (execution < p.taskExecution) ||
    (decide (p.taskExecution = execution) && decide (upperSeq < p.seq))

variable {lowerSeq upperSeq : ℕ}

omit [Field 𝕜] [LinearOrder 𝕜] in
theorem mem_stretchPoints {p : TrajectoryPoint} :
    p ∈ db.stretchPoints execution lowerSeq upperSeq ↔
      p ∈ db.points ∧ p.taskExecution = execution ∧ lowerSeq ≤ p.seq ∧ p.seq ≤ upperSeq := by
  simp only [stretchPoints, executionPoints, List.mem_filter, decide_eq_true_eq, Bool.and_eq_true,
    and_assoc]

omit [Field 𝕜] [LinearOrder 𝕜] in
theorem sessionPoints_eq (h : Inserted db session execution batchId first last)
    (hle : lowerSeq ≤ upperSeq) :
    db.sessionPoints session = (db.sessionPoints session).filter (below execution lowerSeq) ++
      (db.stretchPoints execution lowerSeq upperSeq ++
        (db.sessionPoints session).filter (above execution upperSeq)) := by
  have hsorted : (db.sessionPoints session).Pairwise TrajectoryPoint.Before := h.sorted.filter _
  have hcut := eq_below_within_above hsorted (below execution lowerSeq) (above execution upperSeq)
    (by intro a b; simp only [below, TrajectoryPoint.Before]; grind)
    (by intro a b; simp only [above, TrajectoryPoint.Before]; grind)
    (by intro a; simp only [below, above]; grind)
  have hmid : (db.sessionPoints session).filter
      (fun p => !below execution lowerSeq p && !above execution upperSeq p) =
        db.stretchPoints execution lowerSeq upperSeq := by
    rw [sessionPoints, stretchPoints, executionPoints, List.filter_filter, List.filter_filter]
    refine List.filter_congr fun p _ => ?_
    have hin := h.inSession p
    simp only [below, above]
    grind
  rw [hmid] at hcut
  exact hcut

omit [Field 𝕜] [LinearOrder 𝕜] in
theorem filter_outside (h : Inserted db session execution batchId first last)
    {f : TrajectoryPoint → Bool}
    (hf : ∀ p ∈ db.points, f p = true → ¬(p.taskExecution = execution ∧ first.seq ≤ p.seq ∧
      p.seq ≤ last.seq)) :
    ((db.sessionPoints session).filter f).filter (fun p => decide (p.batchId ≠ batchId)) =
      (db.sessionPoints session).filter f := by
  refine List.filter_eq_self.2 fun p hp => ?_
  obtain ⟨hsession, hfp⟩ := List.mem_filter.1 hp
  have hmem := (List.mem_filter.1 hsession).1
  exact decide_eq_true (fun hb => hf p hmem hfp (h.between hmem hb))

theorem link_outside {l r : List TrajectoryPoint}
    (h : ∀ p ∈ l, ∀ q ∈ r, p.taskExecution ≠ q.taskExecution) :
    link (sessionStep hypot) l r = 0 :=
  link_eq_zero _ (fun p hp q hq => if_pos (h p hp q hq))

omit [Field 𝕜] [LinearOrder 𝕜] in
theorem lower_cases (db : TrajectoryDb 𝕜) (execution : Uuid) (first : TrajectoryPoint) :
    (∃ p ∈ db.points, p.taskExecution = execution ∧ p.seq < first.seq ∧
      ((db.previousPoint execution first).map (·.seq)).getD first.seq = p.seq) ∨
    (((db.previousPoint execution first).map (·.seq)).getD first.seq = first.seq ∧
      ∀ p ∈ db.points, p.taskExecution = execution → first.seq ≤ p.seq) := by
  cases hprevious : db.previousPoint execution first with
  | some p =>
    have hmem := List.mem_of_getLast? hprevious
    simp only [executionPoints, List.mem_filter, decide_eq_true_eq] at hmem
    exact Or.inl ⟨p, hmem.1.1, hmem.1.2, hmem.2, rfl⟩
  | none =>
    refine Or.inr ⟨rfl, fun p hp he => ?_⟩
    have hnone := List.getLast?_eq_none_iff.1 hprevious
    have hout := List.filter_eq_nil_iff.1 hnone p (List.mem_filter.2 ⟨hp, by simp [he]⟩)
    simpa using hout

omit [Field 𝕜] [LinearOrder 𝕜] in
theorem upper_cases (db : TrajectoryDb 𝕜) (execution : Uuid) (last : TrajectoryPoint) :
    (∃ p ∈ db.points, p.taskExecution = execution ∧ last.seq < p.seq ∧
      ((db.followingPoint execution last).map (·.seq)).getD last.seq = p.seq) ∨
    (((db.followingPoint execution last).map (·.seq)).getD last.seq = last.seq ∧
      ∀ p ∈ db.points, p.taskExecution = execution → p.seq ≤ last.seq) := by
  cases hfollowing : db.followingPoint execution last with
  | some p =>
    have hmem := List.mem_of_head? hfollowing
    simp only [executionPoints, List.mem_filter, decide_eq_true_eq] at hmem
    exact Or.inl ⟨p, hmem.1.1, hmem.1.2, hmem.2, rfl⟩
  | none =>
    refine Or.inr ⟨rfl, fun p hp he => ?_⟩
    have hnone := List.head?_eq_none_iff.1 hfollowing
    have hout := List.filter_eq_nil_iff.1 hnone p (List.mem_filter.2 ⟨hp, by simp [he]⟩)
    simpa using hout

omit [Field 𝕜] [LinearOrder 𝕜] in
theorem stretch_sorted (h : Inserted db session execution batchId first last) :
    (db.stretchPoints execution lowerSeq upperSeq).Pairwise TrajectoryPoint.Before :=
  (h.sorted.filter _).filter _

theorem link_below (h : Inserted db session execution batchId first last)
    (hlower : (∃ p ∈ db.points, p.taskExecution = execution ∧ p.seq < first.seq ∧
      lowerSeq = p.seq) ∨
      (lowerSeq = first.seq ∧ ∀ p ∈ db.points, p.taskExecution = execution → first.seq ≤ p.seq))
    (hspan : first.seq ≤ upperSeq) :
    link (sessionStep hypot) ((db.sessionPoints session).filter (below execution lowerSeq))
      (db.stretchPoints execution lowerSeq upperSeq ++
        (db.sessionPoints session).filter (above execution upperSeq)) =
      link (sessionStep hypot) ((db.sessionPoints session).filter (below execution lowerSeq))
        ((db.stretchPoints execution lowerSeq upperSeq).filter
          (fun p => decide (p.batchId ≠ batchId)) ++
            (db.sessionPoints session).filter (above execution upperSeq)) := by
  rcases hlower with ⟨p, hp, he, hlt, hseq⟩ | ⟨hseq, hnone⟩
  · -- The point before the batch begins both stretches.
    have hmem : p ∈ db.stretchPoints execution lowerSeq upperSeq :=
      mem_stretchPoints.2 ⟨hp, he, hseq.le, by omega⟩
    have hleast : ∀ q ∈ db.stretchPoints execution lowerSeq upperSeq, ¬q.Before p := by
      intro q hq
      have hq := (mem_stretchPoints.1 hq).2
      simp only [TrajectoryPoint.Before]
      grind
    have hkept : decide (p.batchId ≠ batchId) = true :=
      decide_eq_true (fun hb => by have := h.between hp hb; omega)
    refine link_congr_right _ ?_
    rw [List.head?_append, List.head?_append, head?_of_least h.stretch_sorted hmem hleast,
      head?_of_least (h.stretch_sorted.filter _) (List.mem_filter.2 ⟨hmem, hkept⟩)
        (fun q hq => hleast q (List.mem_filter.1 hq).1)]
  · -- The batch begins the execution, so the step comes from another execution.
    have hout : ∀ p ∈ (db.sessionPoints session).filter (below execution lowerSeq),
        p.taskExecution < execution := by
      intro p hp
      obtain ⟨hsession, hfp⟩ := List.mem_filter.1 hp
      have hlow := hnone p (List.mem_filter.1 hsession).1
      simp only [below] at hfp
      grind
    have hrest : ∀ q ∈ db.stretchPoints execution lowerSeq upperSeq ++
        (db.sessionPoints session).filter (above execution upperSeq),
          execution ≤ q.taskExecution := by
      intro q hq
      rcases List.mem_append.1 hq with hq | hq
      · exact (mem_stretchPoints.1 hq).2.1.ge
      · have habove := (List.mem_filter.1 hq).2
        simp only [above] at habove
        grind
    have hkept : ∀ q ∈ (db.stretchPoints execution lowerSeq upperSeq).filter
        (fun p => decide (p.batchId ≠ batchId)) ++
          (db.sessionPoints session).filter (above execution upperSeq),
            execution ≤ q.taskExecution := by
      intro q hq
      refine hrest q ?_
      rcases List.mem_append.1 hq with hq | hq
      · exact List.mem_append_left _ (List.mem_filter.1 hq).1
      · exact List.mem_append_right _ hq
    rw [link_outside (fun p hp q hq => ((hout p hp).trans_le (hrest q hq)).ne),
      link_outside (fun p hp q hq => ((hout p hp).trans_le (hkept q hq)).ne)]

theorem link_above (h : Inserted db session execution batchId first last)
    (hupper : (∃ p ∈ db.points, p.taskExecution = execution ∧ last.seq < p.seq ∧
      upperSeq = p.seq) ∨
      (upperSeq = last.seq ∧ ∀ p ∈ db.points, p.taskExecution = execution → p.seq ≤ last.seq))
    (hspan : lowerSeq ≤ last.seq) :
    link (sessionStep hypot) (db.stretchPoints execution lowerSeq upperSeq)
      ((db.sessionPoints session).filter (above execution upperSeq)) =
      link (sessionStep hypot) ((db.stretchPoints execution lowerSeq upperSeq).filter
        (fun p => decide (p.batchId ≠ batchId)))
          ((db.sessionPoints session).filter (above execution upperSeq)) := by
  rcases hupper with ⟨p, hp, he, hlt, hseq⟩ | ⟨hseq, hnone⟩
  · have hmem : p ∈ db.stretchPoints execution lowerSeq upperSeq :=
      mem_stretchPoints.2 ⟨hp, he, by omega, hseq.ge⟩
    have hgreatest : ∀ q ∈ db.stretchPoints execution lowerSeq upperSeq, ¬p.Before q := by
      intro q hq
      have hq := (mem_stretchPoints.1 hq).2
      simp only [TrajectoryPoint.Before]
      grind
    have hkept : decide (p.batchId ≠ batchId) = true :=
      decide_eq_true (fun hb => by have := h.between hp hb; omega)
    refine link_congr_left _ ?_
    rw [getLast?_of_greatest h.stretch_sorted hmem hgreatest,
      getLast?_of_greatest (h.stretch_sorted.filter _) (List.mem_filter.2 ⟨hmem, hkept⟩)
        (fun q hq => hgreatest q (List.mem_filter.1 hq).1)]
  · have hrest : ∀ q ∈ (db.sessionPoints session).filter (above execution upperSeq),
        execution < q.taskExecution := by
      intro q hq
      obtain ⟨hsession, hfq⟩ := List.mem_filter.1 hq
      have hhigh := hnone q (List.mem_filter.1 hsession).1
      simp only [above] at hfq
      grind
    have hS : ∀ p ∈ db.stretchPoints execution lowerSeq upperSeq, p.taskExecution = execution :=
      fun p hp => (mem_stretchPoints.1 hp).2.1
    rw [link_outside (fun p hp q hq => ((hS p hp).trans_lt (hrest q hq)).ne),
      link_outside (fun p hp q hq => ((hS p (List.mem_filter.1 hp).1).trans_lt (hrest q hq)).ne)]

/-- The distance that the points of a batch add to their session is the difference that is measured
    around them. -/
theorem batchDelta_eq (h : Inserted db session execution batchId first last) :
    db.sessionDistance hypot session - pathLength (sessionStep hypot)
        ((db.sessionPoints session).filter (fun p => decide (p.batchId ≠ batchId))) =
      batchDelta hypot db execution batchId first last := by
  have hlower := lower_cases db execution first
  have hupper := upper_cases db execution last
  have hfirst : first ∈ db.points ∧ first.batchId = batchId ∧ first.taskExecution = execution := by
    simpa [executionPoints, and_assoc] using List.mem_of_mem_head? h.head
  have hspan := (h.between hfirst.1 hfirst.2.1).2
  simp only [batchDelta]
  generalize ((db.previousPoint execution first).map (·.seq)).getD first.seq = lowerSeq at *
  generalize ((db.followingPoint execution last).map (·.seq)).getD last.seq = upperSeq at *
  have hlow : lowerSeq ≤ first.seq := by grind
  have hhigh : last.seq ≤ upperSeq := by grind
  have hcut := h.sessionPoints_eq (show lowerSeq ≤ upperSeq by omega)
  have hbelow := h.filter_outside (f := below execution lowerSeq) (by
    intro p _ hp
    simp only [below] at hp
    grind)
  have habove := h.filter_outside (f := above execution upperSeq) (by
    intro p _ hp
    simp only [above] at hp
    grind)
  have hsplice := pathLength_splice (sessionStep hypot)
    (h.link_below hlower (show first.seq ≤ upperSeq by omega))
    (h.link_above hupper (show lowerSeq ≤ last.seq by omega))
  have hsame : ∀ l : List TrajectoryPoint, (∀ p ∈ l, p.taskExecution = execution) →
      pathLength (sessionStep hypot) l = trajectoryDistance hypot l := by
    intro l hl
    rw [trajectoryDistance_eq]
    exact pathLength_congr (fun p hp q hq => if_neg (by simp [hl p hp, hl q hq]))
  have hS : ∀ p ∈ db.stretchPoints execution lowerSeq upperSeq, p.taskExecution = execution :=
    fun p hp => (mem_stretchPoints.1 hp).2.1
  rw [hsame _ hS, hsame _ (fun p hp => hS p (List.mem_filter.1 hp).1)] at hsplice
  rw [← hsplice, sessionDistance]
  conv_lhs => rw [hcut]
  rw [List.filter_append, List.filter_append, hbelow, habove]

end Inserted

end Stretch

/-! ## Rounding -/

section Rounding

variable {𝕜 : Type*} [Field 𝕜] [LinearOrder 𝕜] [IsStrictOrderedRing 𝕜] [FloorRing 𝕜]

omit [FloorRing 𝕜] in
theorem distanceQuantum_pos : (0 : 𝕜) < distanceQuantum := by
  rw [distanceQuantum]
  positivity

theorem abs_roundHalfEven_sub (v : 𝕜) : |(roundHalfEven v : 𝕜) - v| ≤ 1 / 2 := by
  have hlow := Int.floor_le v
  have hhigh := Int.lt_floor_add_one v
  rw [abs_le]
  unfold roundHalfEven
  split_ifs <;> push_cast <;> constructor <;> linarith

theorem abs_quantize_sub (v : 𝕜) : |quantize v - v| ≤ distanceQuantum / 2 := by
  have hq : (0 : 𝕜) < distanceQuantum := distanceQuantum_pos
  have hround := abs_roundHalfEven_sub (v / distanceQuantum)
  calc |quantize v - v|
      = |((roundHalfEven (v / distanceQuantum) : 𝕜) - v / distanceQuantum) * distanceQuantum| := by
        rw [quantize, sub_mul, div_mul_cancel₀ v hq.ne']
    _ = |(roundHalfEven (v / distanceQuantum) : 𝕜) - v / distanceQuantum| * distanceQuantum := by
        rw [abs_mul, abs_of_pos hq]
    _ ≤ 1 / 2 * distanceQuantum := mul_le_mul_of_nonneg_right hround hq.le
    _ = distanceQuantum / 2 := by ring

theorem roundHalfEven_intCast (n : ℤ) : roundHalfEven (n : 𝕜) = n := by
  simp [roundHalfEven]

theorem quantize_quantize (v : 𝕜) : quantize (quantize v) = quantize v := by
  have hq : (distanceQuantum : 𝕜) ≠ 0 := distanceQuantum_pos.ne'
  have hdiv : quantize v / distanceQuantum = (roundHalfEven (v / distanceQuantum) : 𝕜) := by
    rw [quantize, mul_div_cancel_right₀ _ hq]
  rw [quantize, hdiv, roundHalfEven_intCast, quantize]

theorem quantize_nonneg {v : 𝕜} (h : 0 ≤ v) : 0 ≤ quantize v := by
  have hfloor : 0 ≤ ⌊v / distanceQuantum⌋ :=
    Int.floor_nonneg.2 (div_nonneg h distanceQuantum_pos.le)
  have hround : 0 ≤ roundHalfEven (v / distanceQuantum) := by
    unfold roundHalfEven
    split_ifs <;> omega
  exact mul_nonneg (by exact_mod_cast hround) distanceQuantum_pos.le

omit [IsStrictOrderedRing 𝕜] in
theorem normalizeDistance_eq {v : 𝕜} (h : 0 ≤ v) : normalizeDistance v = some (quantize v) :=
  if_neg (not_lt.2 h)

theorem calculateLoopTotalDistance_eq (hypot : ℚ → ℚ → 𝕜) (db : TrajectoryDb 𝕜) (session : Uuid) :
    calculateLoopTotalDistance hypot db session = quantize (db.sessionDistance hypot session) := by
  rw [calculateLoopTotalDistance, foldl_totalOver]
  exact congrArg (·.getD 0) (normalizeDistance_eq (db.sessionDistance_nonneg hypot session))

end Rounding

end TrajectoryDb

end RoamerX
