import RoamerX.Edge.RouteRun

set_option autoImplicit false

/-! # The segment the executor is in

A goal is right when its waypoint lies in the segment the context names and the submap activated last
is the one its waypoint is assigned to. A dispatch that starts in the segment the executor is in, and
does not pass its end, sends right goals and stays in it. -/

namespace RoamerX

/-- On a map set that is accepted, the waypoint of the goal lies in the segment of the context in the
    order of the round, and is assigned to the submap that was activated last. -/
def SentGoal.Right (g : SentGoal) : Prop :=
  ∀ segs, g.submaps ≠ [] → buildSegments g.waypoints g.submaps = .ok segs →
    (∃ seg, segs[g.segmentIndex]? = some seg ∧ seg.startIndex ≤ g.waypointIndex
      ∧ g.waypointIndex < seg.endIndex)
    ∧ g.waypoints[g.waypointIndex]?.bind (assignedSubmap g.submaps) = some g.submapId

/-- A look at the legs of a segment, from `lo` up to `hi`, does not leave it: the robot is not found to
    have passed its last waypoint, unless that is the last of the route, and a task that runs does not
    turn towards its first waypoint from the waypoint before. -/
structure Look.KeepsTo (look : Look) (waypoints : List RouteWaypoint) (running : Prop) (lo hi : ℕ) :
    Prop where
  passed : hi < waypoints.length → waypoints[hi - 1]?.any (·.passThrough) = true →
    look.occupied (hi - 1) = false
      ∧ (look.near (hi - 1) = true → look.near hi = true ∨ look.turnNeeded hi = false)
  colocated : hi < waypoints.length → lo = 0 → look.colocated (hi - 1) = false
  turned : 0 < lo → running → look.near lo = false → look.turnNeeded lo = false

/-- The fields the segments and the submap depend on. -/
structure RouteCore where
  waypoints : List RouteWaypoint
  baseWaypoints : List RouteWaypoint
  submaps : List Submap
  segments : List RouteSegment
  currentSegmentIndex : ℕ
  coordinator : MapSetCoordinator
  activatedSubmapId : String
  prepared : Bool
  sent : List SentGoal
  indexError : Bool

namespace RouteCore

/-- Every goal so far was right, and the coordinator knows the submap that was activated last or none. -/
structure Sound (c : RouteCore) : Prop where
  right : ∀ g ∈ c.sent, g.Right
  noError : c.indexError = false
  known : c.coordinator.currentSubmapId ≠ "" →
    c.activatedSubmapId = c.coordinator.currentSubmapId

/-- The route of the task has the segments `segs`; those the executor keeps are no others. -/
structure Routed (segs : List RouteSegment) (c : RouteCore) : Prop extends c.Sound where
  built : buildSegments c.waypoints c.submaps = .ok segs
  order : c.waypoints = c.baseWaypoints ∨ c.waypoints = c.baseWaypoints.reverse
  nonempty : c.baseWaypoints ≠ []

/-- The executor is in the segment from `lo` up to `hi`, or there is no map set. -/
structure Sits (segs : List RouteSegment) (lo hi : ℕ) (c : RouteCore) : Prop extends
    c.Routed segs where
  kept : c.segments = segs ∨ c.segments = [] ∧ segs.length ≤ 1
  window : (c.submaps = [] ∧ lo = 0 ∧ hi = c.waypoints.length) ∨
    (c.submaps ≠ [] ∧ ∃ seg, segs[c.currentSegmentIndex]? = some seg ∧ lo = seg.startIndex
      ∧ hi = seg.endIndex ∧ c.activatedSubmapId = seg.submapId)
  prepared : c.prepared = true ∨ c.submaps = []

variable {segs : List RouteSegment} {lo hi i : ℕ} {c : RouteCore}

theorem Sits.le_length (h : c.Sits segs lo hi) : hi ≤ c.waypoints.length := by
  rcases h.window with ⟨-, -, rfl⟩ | ⟨hsubmaps, seg, hseg, -, rfl, -⟩
  · exact Nat.le_refl _
  · exact (segment_bounds hsubmaps h.built hseg).2

theorem Sits.right_goal (h : c.Sits segs lo hi) (hlo : lo ≤ i) (hhi : i < hi) :
    SentGoal.Right ⟨i, c.currentSegmentIndex, c.activatedSubmapId, c.waypoints, c.submaps⟩ := by
  intro segs' hsubmaps hbuilt
  obtain rfl : segs = segs' := Except.ok.inj (h.built.symm.trans hbuilt)
  rcases h.window with ⟨hnone, -⟩ | ⟨-, seg, hseg, rfl, rfl, hactivated⟩
  · exact absurd hnone hsubmaps
  · refine ⟨⟨seg, hseg, hlo, hhi⟩, ?_⟩
    rw [hactivated]
    exact assigned_of_mem_segment hsubmaps hbuilt hseg hlo hhi

theorem Sits.end_of_length_le_one (h : c.Sits segs lo hi) (hone : segs.length ≤ 1) :
    lo = 0 ∧ hi = c.waypoints.length := by
  rcases h.window with ⟨-, hlo, hhi⟩ | ⟨hsubmaps, seg, hseg, rfl, rfl, -⟩
  · exact ⟨hlo, hhi⟩
  · have hbounds := segment_bounds hsubmaps h.built hseg
    have hindex := (List.getElem?_eq_some_iff.1 hseg).1
    constructor
    · obtain ⟨n, first, hfirst, hle, hlt⟩ :=
        exists_segment hsubmaps h.built (show 0 < c.waypoints.length by omega)
      have hn := (List.getElem?_eq_some_iff.1 hfirst).1
      obtain rfl : n = c.currentSegmentIndex := by omega
      obtain rfl : first = seg := Option.some.inj (hfirst.symm.trans hseg)
      omega
    · by_contra hne
      obtain ⟨next, hnext, -⟩ :=
        segment_next hsubmaps h.built hseg (show seg.endIndex < c.waypoints.length by omega)
      have hn := (List.getElem?_eq_some_iff.1 hnext).1
      omega

end RouteCore

namespace RouteExecutor

def core (s : RouteExecutor) : RouteCore where
  waypoints := s.waypoints
  baseWaypoints := s.baseWaypoints
  submaps := s.submaps
  segments := s.segments
  currentSegmentIndex := s.currentSegmentIndex
  coordinator := s.coordinator
  activatedSubmapId := s.activatedSubmapId
  prepared := s.prepared
  sent := s.sent
  indexError := s.indexError

/-- The executor is in the segment from `lo` up to `hi`, and so are the waypoints it is at. -/
structure OnRoute (segs : List RouteSegment) (lo hi : ℕ) (s : RouteExecutor) : Prop where
  sits : s.core.Sits segs lo hi
  current : lo ≤ s.currentWaypointIndex ∧ s.currentWaypointIndex < hi
  post : ∀ i ∈ s.postArrivalIndex, lo ≤ i ∧ i < hi

variable {segs : List RouteSegment} {lo hi index : ℕ} {s s' : RouteExecutor} {look : Look}

theorem OnRoute.of_core (h : s.OnRoute segs lo hi) (hcore : s'.core = s.core)
    (hcurrent : lo ≤ s'.currentWaypointIndex ∧ s'.currentWaypointIndex < hi)
    (hpost : s'.postArrivalIndex = s.postArrivalIndex) : s'.OnRoute segs lo hi :=
  ⟨hcore ▸ h.sits, hcurrent, hpost ▸ h.post⟩

/-! ## Progress -/

/-- What `on_feedback` and the passed waypoints leave as it is. -/
structure Reports (s s' : RouteExecutor) : Prop where
  core : s'.core = s.core
  post : s'.postArrivalIndex = s.postArrivalIndex
  state : s'.state = s.state
  roundNumber : s'.roundNumber = s.roundNumber
  loopTotal : s'.loopTotal = s.loopTotal

theorem Reports.refl (s : RouteExecutor) : Reports s s := ⟨rfl, rfl, rfl, rfl, rfl⟩

theorem Reports.trans {s₁ s₂ s₃ : RouteExecutor} (h : Reports s₁ s₂) (h' : Reports s₂ s₃) :
    Reports s₁ s₃ :=
  ⟨h'.core.trans h.core, h'.post.trans h.post, h'.state.trans h.state,
    h'.roundNumber.trans h.roundNumber, h'.loopTotal.trans h.loopTotal⟩

theorem Reports.waypoints (h : Reports s s') : s'.waypoints = s.waypoints :=
  congrArg RouteCore.waypoints h.core

theorem Reports.submaps (h : Reports s s') : s'.submaps = s.submaps :=
  congrArg RouteCore.submaps h.core

theorem OnRoute.reported (h : s.OnRoute segs lo hi) (hr : Reports s s')
    (hcurrent : lo ≤ s'.currentWaypointIndex ∧ s'.currentWaypointIndex < hi) :
    s'.OnRoute segs lo hi :=
  h.of_core hr.core hcurrent hr.post

theorem passTarget_reports (s : RouteExecutor) : Reports s s.passTarget := by
  unfold passTarget
  split_ifs <;> exact ⟨rfl, rfl, rfl, rfl, rfl⟩

theorem passTarget_last (s : RouteExecutor) :
    s.passTarget.lastTargetIndex = s.lastTargetIndex + 1
      ∧ s.passTarget.currentWaypointIndex = (s.lastTargetIndex + 1).toNat := ⟨rfl, rfl⟩

theorem passTarget_iterate (n : ℕ) (s : RouteExecutor) :
    Reports s (passTarget^[n] s) ∧ (passTarget^[n] s).lastTargetIndex = s.lastTargetIndex + n
      ∧ (0 < n → (passTarget^[n] s).currentWaypointIndex = (s.lastTargetIndex + n).toNat) := by
  induction n with
  | zero => exact ⟨Reports.refl s, by simp, by simp⟩
  | succ n ih =>
    rw [Function.iterate_succ_apply']
    obtain ⟨hreports, hlast, -⟩ := ih
    obtain ⟨htarget, hcurrent⟩ := passTarget_last (passTarget^[n] s)
    refine ⟨hreports.trans (passTarget_reports _), ?_, ?_⟩
    · rw [htarget, hlast]
      omega
    · intro _
      rw [hcurrent, hlast]
      omega

theorem confirmReached_iterate (n : ℕ) (s : RouteExecutor) :
    Reports s (confirmReached^[n] s)
      ∧ (confirmReached^[n] s).lastReachedIndex = s.lastReachedIndex + n
      ∧ (0 < n → (confirmReached^[n] s).currentWaypointIndex = (s.lastReachedIndex + n).toNat) := by
  induction n with
  | zero => exact ⟨Reports.refl s, by simp, by simp⟩
  | succ n ih =>
    rw [Function.iterate_succ_apply']
    obtain ⟨hreports, hlast, -⟩ := ih
    refine ⟨hreports.trans ⟨rfl, rfl, rfl, rfl, rfl⟩, ?_, ?_⟩
    · change (confirmReached^[n] s).lastReachedIndex + 1 = _
      rw [hlast]
      omega
    · intro _
      change ((confirmReached^[n] s).lastReachedIndex + 1).toNat = _
      rw [hlast]
      omega

/-- Feedback sets the route index to the reported waypoint, or leaves it; only that of a running task
    does. -/
theorem onFeedback_spec (s : RouteExecutor) (index : ℕ) (milestone : FeedbackMilestone) (due : Bool) :
    Reports s (s.onFeedback index milestone due)
      ∧ ((s.onFeedback index milestone due).currentWaypointIndex = s.currentWaypointIndex
        ∨ s.state = .running ∧ (s.onFeedback index milestone due).currentWaypointIndex = index) := by
  unfold RouteExecutor.onFeedback
  by_cases hoff : s.state ≠ .running ∨ s.waypoints.length ≤ index
  · rw [if_pos hoff]
    exact ⟨Reports.refl s, .inl rfl⟩
  · have hrunning : s.state = .running := by
      by_contra hne
      exact hoff (.inl hne)
    rw [if_neg hoff]
    cases milestone with
    | targetDispatched =>
      dsimp only
      split_ifs
      · exact ⟨⟨rfl, rfl, rfl, rfl, rfl⟩, .inr ⟨hrunning, rfl⟩⟩
      · exact ⟨Reports.refl s, .inl rfl⟩
    | arrived =>
      dsimp only
      obtain ⟨hreports, -, hcurrent⟩ := confirmReached_iterate (index - s.lastReachedIndex).toNat s
      refine ⟨hreports, ?_⟩
      by_cases hlt : s.lastReachedIndex < index
      · right
        refine ⟨hrunning, (hcurrent (by omega)).trans ?_⟩
        omega
      · left
        have hzero : (index - s.lastReachedIndex).toNat = 0 := by omega
        rw [hzero]
        rfl
    | other =>
      dsimp only
      split_ifs with hlt
      · obtain ⟨hreports, -, hcurrent⟩ := passTarget_iterate (index - s.lastTargetIndex).toNat s
        refine ⟨hreports, .inr ⟨hrunning, (hcurrent (by omega)).trans ?_⟩⟩
        omega
      · exact ⟨⟨rfl, rfl, rfl, rfl, rfl⟩, .inr ⟨hrunning, rfl⟩⟩
      · exact ⟨Reports.refl s, .inl rfl⟩

theorem OnRoute.onFeedback (h : s.OnRoute segs lo hi) (hlo : s.state = .running → lo ≤ index)
    (hhi : index < hi) (milestone : FeedbackMilestone) (due : Bool) :
    (s.onFeedback index milestone due).OnRoute segs lo hi := by
  obtain ⟨hreports, hcurrent⟩ := onFeedback_spec s index milestone due
  refine h.reported hreports ?_
  rcases hcurrent with hsame | ⟨hrunning, hindex⟩
  · rw [hsame]
    exact h.current
  · rw [hindex]
    exact ⟨hlo hrunning, hhi⟩

/-! ## Passed waypoints -/

theorem passWaypoints_spec (isPassed : ℕ → Bool) (n advanced : ℕ) (s : RouteExecutor) :
    Reports s (passWaypoints isPassed n advanced s).2
      ∧ advanced ≤ (passWaypoints isPassed n advanced s).1
      ∧ (passWaypoints isPassed n advanced s).1 ≤ advanced + n
      ∧ (∀ j, isPassed j = false → advanced ≤ j → (passWaypoints isPassed n advanced s).1 ≤ j)
      ∧ ((passWaypoints isPassed n advanced s).1 = advanced →
        (passWaypoints isPassed n advanced s).2 = s) := by
  induction n generalizing advanced s with
  | zero => exact ⟨Reports.refl s, Nat.le_refl _, Nat.le_refl _, fun j _ hj => hj, fun _ => rfl⟩
  | succ n ih =>
    rw [passWaypoints]
    split_ifs with hpassed
    · obtain ⟨hreports, hle, hmax, hstop, -⟩ := ih (advanced + 1)
        { s.buildProgress advanced with
          lastReachedIndex := max s.lastReachedIndex advanced
          lastTargetIndex := max s.lastTargetIndex advanced }
      have hstep : Reports s { s.buildProgress advanced with
          lastReachedIndex := max s.lastReachedIndex advanced
          lastTargetIndex := max s.lastTargetIndex advanced } := ⟨rfl, rfl, rfl, rfl, rfl⟩
      refine ⟨hstep.trans hreports, by omega, by omega, ?_, fun hsame => by omega⟩
      intro j hj hadvanced
      refine hstop j hj ?_
      rcases Nat.lt_or_ge advanced j with hlt | hge
      · omega
      · obtain rfl : advanced = j := by omega
        exact absurd hpassed (by simp [hj])
    · exact ⟨Reports.refl s, Nat.le_refl _, by omega, fun j _ hj => hj, fun _ => rfl⟩

theorem OnRoute.advanceWhile (h : s.OnRoute segs lo hi) {isPassed : ℕ → Bool}
    (hstop : hi < s.waypoints.length → isPassed (hi - 1) = false) (hlo : lo ≤ index)
    (hhi : index < hi) :
    (s.advanceWhile isPassed index).2.OnRoute segs lo hi
      ∧ Reports s (s.advanceWhile isPassed index).2
      ∧ lo ≤ (s.advanceWhile isPassed index).1 ∧ (s.advanceWhile isPassed index).1 < hi := by
  have hlength : hi ≤ s.waypoints.length := h.sits.le_length
  obtain ⟨hreports, hle, hmax, hpassed, hsame⟩ :=
    passWaypoints_spec isPassed (s.waypoints.length - 1 - index) index s
  unfold RouteExecutor.advanceWhile
  generalize passWaypoints isPassed (s.waypoints.length - 1 - index) index s = r at *
  have hlt : r.1 < hi := by
    by_cases hend : hi < s.waypoints.length
    · have hbefore := hpassed (hi - 1) (hstop hend) (by omega)
      omega
    · omega
  have hin : lo ≤ r.1 ∧ r.1 < hi := ⟨by omega, hlt⟩
  by_cases hmoved : r.1 = index
  · rw [if_neg (not_not.2 hmoved), hsame hmoved]
    exact ⟨h, Reports.refl s, hin⟩
  · rw [if_pos hmoved]
    have hprogress : Reports s (r.2.buildProgress r.1) := hreports.trans ⟨rfl, rfl, rfl, rfl, rfl⟩
    exact ⟨h.reported hprogress hin, hprogress, hin⟩

theorem OnRoute.advancePast (h : s.OnRoute segs lo hi) (hlo : lo ≤ index) (hhi : index < hi)
    (hkeep : look.KeepsTo s.waypoints (s.state = .running) lo hi) :
    (s.advancePastColocatedWaypoints look index).2.OnRoute segs lo hi
      ∧ Reports s (s.advancePastColocatedWaypoints look index).2
      ∧ lo ≤ (s.advancePastColocatedWaypoints look index).1
      ∧ (s.advancePastColocatedWaypoints look index).1 < hi := by
  unfold advancePastColocatedWaypoints
  split_ifs with hoff
  · exact ⟨h, Reports.refl s, hlo, hhi⟩
  · -- only the first waypoint of the route is skipped, so the segment is the first
    have hfirst : index = 0 := by
      by_contra hne
      exact hoff (.inr (.inr (.inr (.inl hne))))
    have hzero : lo = 0 := by omega
    exact h.advanceWhile (fun hend => hkeep.colocated hend hzero) hlo hhi

theorem OnRoute.advanceArrived (h : s.OnRoute segs lo hi) (hlo : lo ≤ index) (hhi : index < hi)
    (hkeep : look.KeepsTo s.waypoints (s.state = .running) lo hi) :
    (s.advanceIfAlreadyArrived look index).2.OnRoute segs lo hi
      ∧ Reports s (s.advanceIfAlreadyArrived look index).2
      ∧ lo ≤ (s.advanceIfAlreadyArrived look index).1
      ∧ (s.advanceIfAlreadyArrived look index).1 < hi := by
  unfold advanceIfAlreadyArrived
  split_ifs with hoff
  · exact ⟨h, Reports.refl s, hlo, hhi⟩
  · refine h.advanceWhile ?_ hlo hhi
    intro hend
    cases hpass : s.waypointIsPassThrough (hi - 1) with
    | false => rfl
    | true => exact (hkeep.passed hend hpass).1

/-! ## Turns -/

theorem OnRoute.turns (h : s.OnRoute segs lo hi) (hlo : s.state = .running → lo ≤ index)
    (hhi : index < hi) (look : Look) (cruise : Option ℕ) (arrival : Bool) :
    (s.startDepartureHeading look index cruise arrival).2.OnRoute segs lo hi
      ∧ Reports s (s.startDepartureHeading look index cruise arrival).2 := by
  have hturning : ∀ t : RouteExecutor, Reports s t → t.currentWaypointIndex = s.currentWaypointIndex →
      (t.onFeedback index .other look.progressDue).OnRoute segs lo hi
        ∧ Reports s (t.onFeedback index .other look.progressDue) := by
    intro t ht hcurrent
    have hroute : t.OnRoute segs lo hi := h.reported ht (hcurrent ▸ h.current)
    exact ⟨hroute.onFeedback (fun hrunning => hlo (ht.state ▸ hrunning)) hhi _ _,
      ht.trans (onFeedback_spec t index _ _).1⟩
  unfold startDepartureHeading
  dsimp only
  split_ifs
  · exact hturning _ ⟨rfl, rfl, rfl, rfl, rfl⟩ rfl
  · exact ⟨h, Reports.refl s⟩
  · exact hturning _ ⟨rfl, rfl, rfl, rfl, rfl⟩ rfl
  · exact ⟨h.of_core rfl h.current rfl, ⟨rfl, rfl, rfl, rfl, rfl⟩⟩

theorem OnRoute.faces (h : s.OnRoute segs lo hi) (hlo : lo ≤ index) (hhi : index < hi)
    (hkeep : look.KeepsTo s.waypoints (s.state = .running) lo hi) :
    (s.maybeFaceTravelDirection look index).2.OnRoute segs lo hi
      ∧ Reports s (s.maybeFaceTravelDirection look index).2 := by
  have hlength : hi ≤ s.waypoints.length := h.sits.le_length
  unfold maybeFaceTravelDirection
  cases hdirection : s.travelDirection look index with
  | none => exact ⟨h, Reports.refl s⟩
  | some direction =>
    obtain ⟨heading, cruise⟩ := direction
    have hheading : (s.state = .running → lo ≤ heading - 1) ∧ heading - 1 < hi := by
      unfold travelDirection at hdirection
      split_ifs at hdirection
      · obtain ⟨rfl, -⟩ := Prod.mk.inj (Option.some.inj hdirection)
        exact ⟨fun _ => by omega, by omega⟩
      · obtain ⟨rfl, -⟩ := Prod.mk.inj (Option.some.inj hdirection)
        exact ⟨fun _ => by omega, by omega⟩
      · obtain ⟨rfl, -⟩ := Prod.mk.inj (Option.some.inj hdirection)
        rename_i hnear hneeded
        refine ⟨?_, by omega⟩
        intro hrunning
        by_contra hbefore
        -- the turn would be at the waypoint before the segment
        obtain rfl : index = lo := by omega
        have hquiet := hkeep.turned (by omega) hrunning (by simpa using hnear)
        exact absurd hneeded (by simp [hquiet])
    exact h.turns hheading.1 hheading.2 look (some cruise) false

/-! ## Dispatch -/

theorem OnRoute.batchEndIndex (h : s.OnRoute segs lo hi) (hhi : index < hi) :
    s.batchEndIndex index = some (index + 1) := by
  have hlength : hi ≤ s.waypoints.length := h.sits.le_length
  unfold RouteExecutor.batchEndIndex
  split_ifs with hnone
  · rw [Nat.min_eq_left (by omega)]
  · rcases h.sits.kept with hkept | ⟨hempty, -⟩
    · rcases h.sits.window with ⟨hsubmaps, -, -⟩ | ⟨-, seg, hseg, -, hend, -⟩
      · -- without a map set there are no segments
        have hbuilt := h.sits.built
        rw [hsubmaps, RoamerX.buildSegments, if_pos rfl] at hbuilt
        exact absurd (hkept.trans (Except.ok.inj hbuilt).symm) hnone
      · have hat : s.segments[s.currentSegmentIndex]? = some seg := by
          have hsegments : s.segments = segs := hkept
          rw [hsegments]
          exact hseg
        rw [hat, Option.map_some, ← hend, Nat.min_eq_left (by omega)]
    · exact absurd hempty hnone

theorem OnRoute.sends (h : s.OnRoute segs lo hi) (hlo : lo ≤ index) (hhi : index < hi) :
    (s.sendWaypoint index).OnRoute segs lo hi := by
  have hsits := h.sits
  refine ⟨{ hsits with right := ?_ }, h.current, h.post⟩
  intro g hg
  rcases List.mem_append.1 hg with hold | hnew
  · exact hsits.right g hold
  · obtain rfl := List.mem_singleton.1 hnew
    exact hsits.right_goal hlo hhi

theorem OnRoute.fail (h : s.OnRoute segs lo hi) : s.fail.OnRoute segs lo hi :=
  h.of_core rfl h.current rfl

theorem OnRoute.schedules (h : s.OnRoute segs lo hi) (hlo : lo ≤ index) (hhi : index < hi)
    (left : Bool) : (s.scheduleNavDispatchRetry index left).OnRoute segs lo hi := by
  unfold scheduleNavDispatchRetry
  split_ifs
  · exact h
  · exact h.fail
  · exact h.of_core rfl ⟨hlo, hhi⟩ rfl
  · exact h.of_core rfl ⟨hlo, hhi⟩ rfl

theorem OnRoute.dispatchLeg (h : s.OnRoute segs lo hi) (hlo : lo ≤ index) (hhi : index < hi)
    (look : Look) : (s.dispatchLeg look index).OnRoute segs lo hi := by
  unfold RouteExecutor.dispatchLeg
  rw [h.batchEndIndex hhi]
  dsimp only
  have hsending : ({ s with goalOffset := index, dispatchedCount := index + 1 - index }.sendWaypoint
      index).OnRoute segs lo hi :=
    OnRoute.sends (h.of_core rfl h.current rfl) hlo hhi
  split_ifs with _ _ _ hempty
  · exact h.fail
  · exact h
  · exact h.schedules hlo hhi _
  · omega
  · exact hsending.schedules hlo hhi _
  · refine OnRoute.onFeedback ?_ (fun _ => hlo) hhi _ _
    exact hsending.of_core rfl ⟨hlo, hhi⟩ rfl

theorem OnRoute.sendFromWith (h : s.OnRoute segs lo hi) (hlo : lo ≤ index) (hhi : index < hi)
    (hkeep : look.KeepsTo s.waypoints (s.state = .running) lo hi)
    {dispatch : RouteExecutor → ℕ → RouteExecutor}
    (hdispatch : ∀ (t : RouteExecutor) (j : ℕ), Reports s t → t.OnRoute segs lo hi → lo ≤ j → j < hi →
      (dispatch t j).OnRoute segs lo hi) :
    (s.sendFromWith look dispatch index).OnRoute segs lo hi := by
  unfold RouteExecutor.sendFromWith
  by_cases hreapproach : s.arrivalReapproachIndex = some index
  · rw [if_pos hreapproach]
    exact h.dispatchLeg hlo hhi look
  · rw [if_neg hreapproach]
    obtain ⟨hpast, hpastReports, hpastLo, hpastHi⟩ := h.advancePast hlo hhi hkeep
    rw [← hpastReports.waypoints, ← hpastReports.state] at hkeep
    obtain ⟨harrived, harrivedReports, harrivedLo, harrivedHi⟩ :=
      hpast.advanceArrived hpastLo hpastHi hkeep
    rw [← harrivedReports.waypoints, ← harrivedReports.state] at hkeep
    obtain ⟨hfaces, hfacesReports⟩ := harrived.faces harrivedLo harrivedHi hkeep
    dsimp only
    split_ifs
    · exact hfaces
    · exact hdispatch _ _ ((hpastReports.trans harrivedReports).trans hfacesReports) hfaces harrivedLo
        harrivedHi

theorem OnRoute.dispatchLegs {looks : ℕ → Look} (n leg : ℕ) (h : s.OnRoute segs lo hi)
    (hlo : lo ≤ index) (hhi : index < hi)
    (hkeep : ∀ leg, (looks leg).KeepsTo s.waypoints (s.state = .running) lo hi) :
    (dispatchLegs looks n leg s index).OnRoute segs lo hi := by
  induction n generalizing leg s index with
  | zero => exact h
  | succ n ih =>
    obtain ⟨harrived, hreports, harrivedLo, harrivedHi⟩ := h.advanceArrived hlo hhi (hkeep leg)
    unfold RouteExecutor.dispatchLegs
    dsimp only
    split_ifs
    · exact harrived.dispatchLeg hlo hhi _
    · have hkeep' : ∀ leg', (looks leg').KeepsTo
          (s.advanceIfAlreadyArrived (looks leg) index).2.waypoints
          ((s.advanceIfAlreadyArrived (looks leg) index).2.state = .running) lo hi := by
        intro leg'
        rw [hreports.waypoints, hreports.state]
        exact hkeep leg'
      refine harrived.sendFromWith harrivedLo harrivedHi (hkeep' leg) ?_
      intro t j ht hroute hjlo hjhi
      refine ih (leg + 1) hroute hjlo hjhi ?_
      intro leg'
      rw [ht.waypoints, ht.state, hreports.waypoints, hreports.state]
      exact hkeep leg'

/-! ## Legs of a dispatch -/

/-- The looks of a dispatch keep to the segment that `index` lies in. -/
def KeepsFrom (s : RouteExecutor) (running : Prop) (looks : ℕ → Look) (index : ℕ) : Prop :=
  ∀ segs, RoamerX.buildSegments s.waypoints s.submaps = .ok segs → ∀ seg ∈ segs,
    seg.startIndex ≤ index → index < seg.endIndex → ∀ leg,
      (looks leg).KeepsTo s.waypoints running seg.startIndex seg.endIndex

theorem KeepsFrom.of_route {running : Prop} {looks : ℕ → Look} (h : s.KeepsFrom running looks index)
    (hwaypoints : s'.waypoints = s.waypoints) (hsubmaps : s'.submaps = s.submaps) :
    s'.KeepsFrom running looks index := by
  intro segs hbuilt
  rw [hwaypoints, hsubmaps] at hbuilt
  rw [hwaypoints]
  exact h segs hbuilt

theorem keepsTo_whole (look : Look) (waypoints : List RouteWaypoint) (running : Prop) :
    look.KeepsTo waypoints running 0 waypoints.length where
  passed := fun hlt => absurd hlt (Nat.lt_irrefl _)
  colocated := fun hlt => absurd hlt (Nat.lt_irrefl _)
  turned := fun hlt => absurd hlt (Nat.lt_irrefl 0)

theorem OnRoute.keepsTo (h : s.OnRoute segs lo hi) (hlo : lo ≤ index) (hhi : index < hi)
    {looks : ℕ → Look} {running : Prop} (hrunning : s.state = .running → running)
    (hkeep : s.KeepsFrom running looks index) (leg : ℕ) :
    (looks leg).KeepsTo s.waypoints (s.state = .running) lo hi := by
  rcases h.sits.window with ⟨-, rfl, rfl⟩ | ⟨-, seg, hseg, rfl, rfl, -⟩
  · exact keepsTo_whole _ _ _
  · have hto := hkeep segs h.sits.built seg (List.mem_of_getElem? hseg) hlo hhi leg
    exact ⟨hto.passed, hto.colocated, fun hpos hrun => hto.turned hpos (hrunning hrun)⟩

theorem OnRoute.dispatchNavigation (h : s.OnRoute segs lo hi) (hlo : lo ≤ index) (hhi : index < hi)
    {looks : ℕ → Look}
    (hkeep : ∀ leg, (looks leg).KeepsTo s.waypoints (s.state = .running) lo hi) :
    (s.dispatchNavigation looks index).OnRoute segs lo hi :=
  h.dispatchLegs _ 0 hlo hhi hkeep

theorem OnRoute.sendFrom (h : s.OnRoute segs lo hi) (hlo : lo ≤ index) (hhi : index < hi)
    {looks : ℕ → Look}
    (hkeep : ∀ leg, (looks leg).KeepsTo s.waypoints (s.state = .running) lo hi) :
    (s.sendFrom looks index).OnRoute segs lo hi := by
  refine h.sendFromWith hlo hhi (hkeep 0) ?_
  intro t j ht hroute hjlo hjhi
  refine hroute.dispatchLegs _ 1 hjlo hjhi ?_
  intro leg
  rw [ht.waypoints, ht.state]
  exact hkeep leg

/-! ## Submaps -/

section Submaps

variable (answer : Except String Unit)

theorem buildSegments_spec (hrouted : s.core.Routed segs)
    (hkept : s.segments = [] ∨ s.segments = segs) :
    s.buildSegments = (true, { s with segments := segs }) := by
  have hbuilt : RoamerX.buildSegments s.waypoints s.submaps = .ok segs := hrouted.built
  unfold RouteExecutor.buildSegments
  rcases hkept with hempty | hsame
  · rw [if_pos hempty, hbuilt]
  · split_ifs
    · rw [hbuilt]
    · rw [← hsame]

theorem segmentOf_eq (hrouted : s.core.Routed segs) (hsubmaps : s.submaps ≠ [])
    (hsegments : s.segments = segs) {n : ℕ} {seg : RouteSegment} (hseg : segs[n]? = some seg)
    (hin : seg.startIndex ≤ index ∧ index < seg.endIndex) : s.segmentOf index = n := by
  unfold segmentOf
  rw [hsegments]
  have hn := List.getElem?_eq_some_iff.1 hseg
  cases hfound : segs.findIdx? fun seg =>
      decide (seg.startIndex ≤ index ∧ index < seg.endIndex) with
  | none =>
    have hnot := List.findIdx?_eq_none_iff.1 hfound seg (List.mem_of_getElem? hseg)
    exact absurd hin (by simpa using hnot)
  | some m =>
    obtain ⟨hm, hmin, -⟩ := List.findIdx?_eq_some_iff_getElem.1 hfound
    exact segment_unique hsubmaps hrouted.built (List.getElem?_eq_getElem hm) hseg
      (by simpa using hmin) hin

theorem activate_spec (hsound : s.core.Sound) (segment : RouteSegment) :
    ∃ coordinator submapId,
      (s.activate segment answer).2 =
          { s with coordinator := coordinator, activatedSubmapId := submapId }
        ∧ (coordinator.currentSubmapId ≠ "" → submapId = coordinator.currentSubmapId)
        ∧ ((s.activate segment answer).1 = true → submapId = segment.submapId) := by
  have hknown : s.coordinator.currentSubmapId ≠ "" →
      s.activatedSubmapId = s.coordinator.currentSubmapId := hsound.known
  unfold activate MapSetCoordinator.activate
  dsimp only
  split_ifs
  · exact ⟨_, s.activatedSubmapId, rfl, hknown, fun h => absurd h (by simp)⟩
  · cases answer with
    | error reason => exact ⟨_, s.activatedSubmapId, rfl, hknown, fun h => absurd h (by simp)⟩
    | ok _ => exact ⟨_, segment.submapId, rfl, fun _ => rfl, fun _ => rfl⟩

/-- What the preparation of the map set leaves as it is. -/
structure Prepares (segs : List RouteSegment) (s s' : RouteExecutor) : Prop where
  waypoints : s'.waypoints = s.waypoints
  submaps : s'.submaps = s.submaps
  current : s'.currentWaypointIndex = s.currentWaypointIndex
  state : s'.state = s.state
  segments : s'.segments = segs

/-- The preparation that returns leaves the executor in the segment of its waypoint, with the submap of
    that segment activated. -/
theorem prepare_spec (hrouted : s.core.Routed segs) (hsubmaps : s.submaps ≠ [])
    (hkept : s.segments = [] ∨ s.segments = segs) {n : ℕ} {seg : RouteSegment}
    (hseg : segs[n]? = some seg)
    (hin : seg.startIndex ≤ s.currentWaypointIndex ∧ s.currentWaypointIndex < seg.endIndex)
    (hpost : ∀ i ∈ s.postArrivalIndex, seg.startIndex ≤ i ∧ i < seg.endIndex) :
    ((s.prepareMapSetForCurrentWaypoint answer).1 = false →
        (s.prepareMapSetForCurrentWaypoint answer).2.core.Sound)
      ∧ ((s.prepareMapSetForCurrentWaypoint answer).1 = true →
        (s.prepareMapSetForCurrentWaypoint answer).2.OnRoute segs seg.startIndex seg.endIndex
          ∧ Prepares segs s (s.prepareMapSetForCurrentWaypoint answer).2
          ∧ (s.prepareMapSetForCurrentWaypoint answer).2.currentSegmentIndex = n) := by
  have hbuilt : ({ s with segments := segs } : RouteExecutor).core.Routed segs :=
    { hrouted with built := hrouted.built }
  have hof : ({ s with segments := segs } : RouteExecutor).segmentOf s.currentWaypointIndex = n :=
    segmentOf_eq hbuilt hsubmaps rfl hseg hin
  unfold prepareMapSetForCurrentWaypoint
  rw [buildSegments_spec hrouted hkept]
  dsimp only
  rw [if_neg (by simp), hof, hseg]
  dsimp only
  -- the executor once the submap of the segment is activated
  have hready : ∀ (coordinator : MapSetCoordinator),
      (coordinator.currentSubmapId ≠ "" → seg.submapId = coordinator.currentSubmapId) →
      ({ s with
        segments := segs
        coordinator := coordinator
        activatedSubmapId := seg.submapId
        currentSegmentIndex := n
        prepared := true } : RouteExecutor).OnRoute segs seg.startIndex seg.endIndex := by
    intro coordinator hknown
    refine ⟨{ hbuilt with known := hknown, kept := .inl rfl, window := ?_, prepared := .inl rfl },
      hin, hpost⟩
    exact .inr ⟨hsubmaps, seg, hseg, rfl, rfl, rfl⟩
  by_cases hold : seg.submapId = "" ∨ s.coordinator.currentSubmapId ≠ seg.submapId
  · rw [if_pos hold]
    obtain ⟨coordinator, submapId, heq, hknown, hdone⟩ :=
      activate_spec (s := { s with segments := segs }) answer hbuilt.toSound seg
    split_ifs with hfailed
    · refine ⟨fun _ => ?_, fun h => absurd h (by simp [hfailed])⟩
      rw [heq]
      exact { hbuilt.toSound with known := hknown }
    · obtain rfl : submapId = seg.submapId := hdone (by simpa using hfailed)
      refine ⟨fun h => absurd h (by simp), fun _ => ?_⟩
      rw [heq]
      exact ⟨hready coordinator hknown, ⟨rfl, rfl, rfl, rfl, rfl⟩, rfl⟩
  · rw [if_neg hold]
    have hactivated : s.activatedSubmapId = seg.submapId := by
      have hknown : s.coordinator.currentSubmapId ≠ "" →
          s.activatedSubmapId = s.coordinator.currentSubmapId := hrouted.known
      rw [not_or, not_not] at hold
      rw [← hold.2]
      exact hknown (hold.2.symm ▸ hold.1)
    have hcoordinator := hready s.coordinator (hactivated ▸ hrouted.known)
    refine ⟨fun h => absurd h (by simp), fun _ => ?_⟩
    rw [if_neg (by simp)]
    rw [← hactivated] at hcoordinator
    exact ⟨hcoordinator, ⟨rfl, rfl, rfl, rfl, rfl⟩, rfl⟩

end Submaps

/-! ## After a waypoint -/

/-- The task has ended, or the executor is in a segment of its route. -/
def Settled (s : RouteExecutor) : Prop :=
  s.core.Sound ∧ (s.state.isTerminal = true ∨ ∃ segs lo hi, s.OnRoute segs lo hi)

theorem OnRoute.settled (h : s.OnRoute segs lo hi) : s.Settled :=
  ⟨h.sits.toSound, .inr ⟨segs, lo, hi, h⟩⟩

theorem settled_of_ended (hsound : s.core.Sound) (hended : s.state.isTerminal = true) : s.Settled :=
  ⟨hsound, .inl hended⟩

/-- What follows a waypoint keeps to the segment of the next one; a route with borders between segments
    is driven in one round. -/
structure KeepsOnward (s : RouteExecutor) (onward : Onward) (reached : ℕ) : Prop where
  next : reached + 1 < s.waypoints.length → s.KeepsFrom True onward.looks (reached + 1)
  round : s.waypoints.length ≤ reached + 1 → s.roundNumber < s.loopTotal →
    ∀ segs, RoamerX.buildSegments s.waypoints s.submaps = .ok segs → segs.length ≤ 1

theorem submaps_ne_of_segments (hsits : s.core.Sits segs lo hi) (hsegments : s.segments ≠ []) :
    s.submaps ≠ [] ∧ s.segments = segs := by
  have hsame : s.segments = segs := by
    rcases hsits.kept with hkept | ⟨hempty, -⟩
    · exact hkept
    · exact absurd hempty hsegments
  refine ⟨?_, hsame⟩
  intro hnone
  have hbuilt : RoamerX.buildSegments s.waypoints s.submaps = .ok segs := hsits.built
  rw [hnone, RoamerX.buildSegments, if_pos rfl] at hbuilt
  exact hsegments (hsame.trans (Except.ok.inj hbuilt).symm)

/-- The next waypoint is sent in its segment: over a border, the submap of the next segment is activated
    first. -/
theorem continueToNext_settled (hsits : s.core.Sits segs lo hi) {next : ℕ}
    (hcurrent : s.currentWaypointIndex = next) (hlo : lo ≤ next) (hhi : next ≤ hi)
    (hlength : next < s.waypoints.length) (hpost : s.postArrivalIndex = none) {onward : Onward}
    (hkeep : s.KeepsFrom True onward.looks next) : (s.continueToNext onward next).Settled := by
  have hnopost : ∀ i ∈ s.postArrivalIndex, lo ≤ i ∧ i < hi := by simp [hpost]
  -- within the segment the task goes on from the waypoint
  have hwithin : next < hi → (s.sendFrom onward.looks next).Settled := by
    intro hlt
    have hroute : s.OnRoute segs lo hi := ⟨hsits, hcurrent.symm ▸ ⟨hlo, hlt⟩, hnopost⟩
    exact (hroute.sendFrom hlo hlt (hroute.keepsTo hlo hlt (fun _ => trivial) hkeep)).settled
  unfold continueToNext
  by_cases hnone : s.segments = []
  · rw [if_pos hnone]
    refine hwithin ?_
    rcases hsits.window with ⟨-, -, rfl⟩ | ⟨hsubmaps, seg, hseg, rfl, rfl, -⟩
    · exact hlength
    · rcases hsits.kept with hkept | ⟨-, hone⟩
      · rw [← hkept, show s.core.segments = [] from hnone] at hseg
        exact absurd hseg (by simp)
      · rw [(hsits.end_of_length_le_one hone).2]
        exact hlength
  · rw [if_neg hnone]
    obtain ⟨hsubmaps, hsegments⟩ := submaps_ne_of_segments hsits hnone
    obtain ⟨seg, hseg, rfl, rfl⟩ : ∃ seg, segs[s.currentSegmentIndex]? = some seg
        ∧ lo = seg.startIndex ∧ hi = seg.endIndex := by
      rcases hsits.window with ⟨hempty, -, -⟩ | ⟨-, seg, hseg, rfl, rfl, -⟩
      · exact absurd hempty hsubmaps
      · exact ⟨seg, hseg, rfl, rfl⟩
    rw [hsegments, hseg]
    dsimp only
    by_cases hlt : next < seg.endIndex
    · rw [if_pos hlt]
      exact hwithin hlt
    · obtain rfl : next = seg.endIndex := by omega
      obtain ⟨nextSeg, hnext, hstart⟩ := segment_next hsubmaps hsits.built hseg hlength
      have hbounds := segment_bounds hsubmaps hsits.built hnext
      rw [if_neg hlt, hnext]
      dsimp only
      obtain ⟨coordinator, submapId, heq, hknown, -⟩ :=
        activate_spec onward.switch hsits.toSound nextSeg
      have hrouted : ({ s with coordinator := coordinator, activatedSubmapId := submapId } :
          RouteExecutor).core.Routed segs := { hsits.toRouted with known := hknown }
      rw [heq]
      split_ifs with _ hfailed
      · exact settled_of_ended hrouted.toSound rfl
      all_goals
        have hin : nextSeg.startIndex ≤ s.currentWaypointIndex
            ∧ s.currentWaypointIndex < nextSeg.endIndex := by omega
        obtain ⟨hraised, hprepared⟩ :=
          prepare_spec onward.startup hrouted hsubmaps (.inr hsegments) hnext hin (by simp [hpost])
      · exact settled_of_ended (hraised hfailed) rfl
      · obtain ⟨hroute, hprepares, hindex⟩ := hprepared (by simpa using hfailed)
        have hnextKeep := hkeep.of_route hprepares.waypoints hprepares.submaps
        unfold sendSegment
        rw [← hindex, Nat.max_eq_right (Nat.le_of_eq hstart)]
        have hstarts : nextSeg.startIndex ≤ seg.endIndex := by omega
        have hends : seg.endIndex < nextSeg.endIndex := by omega
        exact (hroute.dispatchNavigation hstarts hends
          (hroute.keepsTo hstarts hends (fun _ => trivial) hnextKeep)).settled

theorem KeepsOnward.reported {onward : Onward} {reached : ℕ} (h : s.KeepsOnward onward reached)
    (hr : Reports s s') : s'.KeepsOnward onward reached := by
  refine ⟨fun hlt => ?_, fun hle hround => ?_⟩
  · rw [hr.waypoints] at hlt
    exact (h.next hlt).of_route hr.waypoints hr.submaps
  · rw [hr.waypoints] at hle
    rw [hr.roundNumber, hr.loopTotal] at hround
    rw [hr.waypoints, hr.submaps]
    exact h.round hle hround

theorem nextRound_onRoute (hsits : s.core.Sits segs lo hi) (hpost : s.postArrivalIndex = none)
    (hone : segs.length ≤ 1) (roundEnd : RoundEnd) :
    (s.nextRound roundEnd).OnRoute segs 0 (s.nextRound roundEnd).waypoints.length := by
  have hbase : s.roundBase = s.baseWaypoints := if_neg hsits.nonempty
  have hwindow := hsits.end_of_length_le_one hone
  have hbuilt : RoamerX.buildSegments s.baseWaypoints s.submaps = .ok segs := by
    have hcurrent : RoamerX.buildSegments s.waypoints s.submaps = .ok segs := hsits.built
    rcases hsits.order with hsame | hreverse
    · rwa [show s.waypoints = s.baseWaypoints from hsame] at hcurrent
    · have hback := buildSegments_reverse hcurrent hone
      rwa [show s.waypoints = s.baseWaypoints.reverse from hreverse, List.reverse_reverse] at hback
  have hordered : (s.nextRound roundEnd).waypoints = s.baseWaypoints
      ∨ (s.nextRound roundEnd).waypoints = s.baseWaypoints.reverse := by
    rw [← hbase]
    change (if _ then _ else _) = _ ∨ (if _ then _ else _) = _
    split_ifs
    · exact .inr rfl
    · exact .inl rfl
  have hlength : (s.nextRound roundEnd).waypoints.length = s.waypoints.length := by
    have hold : s.waypoints.length = s.baseWaypoints.length := by
      rcases hsits.order with hsame | hreverse
      · rw [show s.waypoints = s.baseWaypoints from hsame]
      · rw [show s.waypoints = s.baseWaypoints.reverse from hreverse, List.length_reverse]
    rcases hordered with hsame | hreverse
    · rw [hsame, hold]
    · rw [hreverse, hold, List.length_reverse]
  have hpos : 0 < (s.nextRound roundEnd).waypoints.length := by
    have hne := List.length_pos_iff.2 hsits.nonempty
    rcases hordered with hsame | hreverse
    · rw [hsame]
      exact hne
    · rw [hreverse, List.length_reverse]
      exact hne
  have hrouted : (s.nextRound roundEnd).core.Routed segs := by
    refine { hsits.toSound with built := ?_, order := hordered, nonempty := hsits.nonempty }
    change RoamerX.buildSegments (s.nextRound roundEnd).waypoints s.submaps = .ok segs
    rcases hordered with hsame | hreverse
    · rw [hsame]
      exact hbuilt
    · rw [hreverse]
      exact buildSegments_reverse hbuilt hone
  refine ⟨{ hrouted with kept := hsits.kept, window := ?_, prepared := hsits.prepared },
    ⟨Nat.le_refl _, hpos⟩, ?_⟩
  · rcases hsits.window with ⟨hsubmaps, -, -⟩ | ⟨hsubmaps, seg, hseg, hlo, hhi, hactivated⟩
    · exact .inl ⟨hsubmaps, rfl, rfl⟩
    · refine .inr ⟨hsubmaps, seg, hseg, by omega, ?_, hactivated⟩
      rw [hlength, ← hhi, hwindow.2]
      rfl
  · intro i hi
    rw [show (s.nextRound roundEnd).postArrivalIndex = none from hpost] at hi
    exact absurd hi (by simp)

theorem endRound_settled (hsits : s.core.Sits segs lo hi) (hpost : s.postArrivalIndex = none)
    {onward : Onward} (hround : s.roundNumber < s.loopTotal → segs.length ≤ 1) :
    (s.endRound onward).Settled := by
  unfold endRound
  split_ifs with _ hmore
  · exact settled_of_ended hsits.toSound rfl
  · have hroute := nextRound_onRoute hsits hpost (hround hmore) onward.roundEnd
    unfold startRound
    dsimp only
    generalize s.nextRound onward.roundEnd = t at *
    split_ifs with hanchor
    · have hsecond : ({ t with
          currentWaypointIndex := 1
          lastTargetIndex := 0
          lastReachedIndex := 0 } : RouteExecutor).OnRoute segs 0 t.waypoints.length :=
        hroute.of_core rfl ⟨Nat.zero_le _, hanchor.2.2⟩ rfl
      exact (hsecond.dispatchNavigation (Nat.zero_le _) hanchor.2.2
        (fun leg => keepsTo_whole _ _ _)).settled
    · obtain ⟨hpast, hreports, -, hlt⟩ :=
        hroute.advancePast (Nat.le_refl 0) (by have hcurrent := hroute.current; omega)
          (keepsTo_whole onward.turn _ _)
      refine (hpast.dispatchNavigation (Nat.zero_le _) hlt ?_).settled
      intro leg
      rw [← hreports.waypoints]
      exact keepsTo_whole _ _ _
  · exact settled_of_ended hsits.toSound rfl
  · exact settled_of_ended hsits.toSound rfl

theorem OnRoute.departs (h : s.OnRoute segs lo hi) (hlo : lo ≤ index) (hhi : index < hi)
    (look : Look) :
    (s.departureTurn look index).2.OnRoute segs lo hi ∧ Reports s (s.departureTurn look index).2 := by
  unfold departureTurn dispatchDepartureHeading
  split_ifs
  · exact ⟨h.of_core rfl h.current rfl, ⟨rfl, rfl, rfl, rfl, rfl⟩⟩
  · exact ⟨h, Reports.refl s⟩
  · exact ⟨h, Reports.refl s⟩
  · exact h.turns (fun _ => hlo) hhi look none false

theorem OnRoute.continues (h : s.OnRoute segs lo hi) {reached : ℕ} (hlo : lo ≤ reached)
    (hhi : reached < hi) {onward : Onward} (hkeep : s.KeepsOnward onward reached) :
    (s.continueAfterWaypoint onward reached).Settled := by
  have hcleared : ({ s with arrivalReapproachIndex := none } : RouteExecutor).OnRoute segs lo hi :=
    h.of_core rfl h.current rfl
  obtain ⟨hturned, hreports⟩ := hcleared.departs hlo hhi onward.turn
  have hclears : Reports s { s with arrivalReapproachIndex := none } := ⟨rfl, rfl, rfl, rfl, rfl⟩
  have hkeep' := hkeep.reported (hclears.trans hreports)
  unfold continueAfterWaypoint
  by_cases hrunning : s.state ≠ .running
  · rw [if_pos hrunning]
    exact h.settled
  · rw [if_neg hrunning]
    dsimp only
    generalize { s with arrivalReapproachIndex := none }.departureTurn onward.turn reached = turned at *
    have hsits : ({ turned.2 with
        currentWaypointIndex := reached + 1
        postArrivalIndex := none } : RouteExecutor).core.Sits segs lo hi := hturned.sits
    have hnextLo : lo ≤ reached + 1 := by omega
    split_ifs with _ hlt
    · exact hturned.settled
    · exact continueToNext_settled hsits rfl hnextLo hhi hlt rfl ((hkeep'.next hlt).of_route rfl rfl)
    · refine endRound_settled hsits rfl ?_
      intro hmore
      exact hkeep'.round (Nat.le_of_not_lt hlt) hmore segs hturned.sits.built

theorem OnRoute.arrived (h : s.OnRoute segs lo hi) (hlo : lo ≤ index) (hhi : index < hi)
    (hcore : s'.core = s.core)
    (hcurrent : s'.currentWaypointIndex = s.currentWaypointIndex ∨ s'.currentWaypointIndex = index)
    (hpost : s'.postArrivalIndex = s.postArrivalIndex ∨ s'.postArrivalIndex = some index) :
    s'.OnRoute segs lo hi := by
  refine ⟨hcore ▸ h.sits, ?_, ?_⟩
  · rcases hcurrent with hsame | hsame
    · rw [hsame]
      exact h.current
    · rw [hsame]
      exact ⟨hlo, hhi⟩
  · rcases hpost with hsame | hsame
    · rw [hsame]
      exact h.post
    · intro i hi
      obtain rfl : index = i := by simpa [hsame] using hi
      exact ⟨hlo, hhi⟩

theorem OnRoute.maybeContinues (h : s.OnRoute segs lo hi) (hlo : lo ≤ index) (hhi : index < hi)
    {onward : Onward} (hkeep : s.KeepsOnward onward index) :
    (s.maybeContinueAfterWaypoint onward index).Settled := by
  have hpassed : ∀ t : RouteExecutor, t.OnRoute segs lo hi → t.KeepsOnward onward index →
      (t.continueAfterWaypoint onward index).Settled := fun t ht hkeep => ht.continues hlo hhi hkeep
  unfold maybeContinueAfterWaypoint
  by_cases hwaits : s.state ≠ .running ∨ s.localizationReadyIndex ≠ some index
      ∨ s.speechWaiting = some (index, false) ∨ s.dwellWaiting = some (index, false)
  · rw [if_pos hwaits]
    exact h.settled
  · rw [if_neg hwaits]
    exact hpassed _ (h.arrived hlo hhi rfl (.inl rfl) (.inr rfl)) ⟨hkeep.next, hkeep.round⟩

/-! ## Arrivals -/

theorem OnRoute.confirms (h : s.OnRoute segs lo hi) (hlo : lo ≤ index) (hhi : index < hi)
    {onward : Onward} (hkeep : s.KeepsOnward onward index) (started speech dwell : Bool) :
    (s.confirmArrival started speech dwell onward index).Settled := by
  have hready : ∀ t : RouteExecutor, t.OnRoute segs lo hi → t.KeepsOnward onward index →
      ({ t with localizationReadyIndex := some index }.maybeContinueAfterWaypoint onward
        index).Settled := by
    intro t ht hkeep
    have hmarked : ({ t with localizationReadyIndex := some index } : RouteExecutor).OnRoute segs lo
        hi := ht.of_core rfl ht.current rfl
    exact hmarked.maybeContinues hlo hhi ⟨hkeep.next, hkeep.round⟩
  -- the milestone of the arrival, with the waits set
  have hreported : ∀ t : RouteExecutor, t.OnRoute segs lo hi → t.KeepsOnward onward index →
      (t.onFeedback index .arrived onward.turn.progressDue).OnRoute segs lo hi
        ∧ (t.onFeedback index .arrived onward.turn.progressDue).KeepsOnward onward index :=
    fun t ht hkeep =>
      ⟨ht.onFeedback (fun _ => hlo) hhi _ _, hkeep.reported (onFeedback_spec t index _ _).1⟩
  unfold confirmArrival
  cases started with
  | true => exact hready s h hkeep
  | false =>
    have hwaiting : ({ s with
        speechWaiting := if speech then some (index, false) else s.speechWaiting
        dwellWaiting := if dwell then some (index, false) else none } : RouteExecutor).OnRoute segs
        lo hi := h.of_core rfl h.current rfl
    obtain ⟨hroute, hkeep'⟩ := hreported _ hwaiting ⟨hkeep.next, hkeep.round⟩
    exact hready _ hroute hkeep'

theorem OnRoute.arrivesAt (h : s.OnRoute segs lo hi) (hlo : lo ≤ index) (hhi : index < hi)
    {onward : Onward} (hkeep : s.KeepsOnward onward index) (arrival : Arrival) :
    (s.arriveAt arrival onward index).Settled := by
  have hstaged : ({ s with postArrivalIndex := some index } : RouteExecutor).OnRoute segs lo hi :=
    h.arrived hlo hhi rfl (.inl rfl) (.inr rfl)
  cases arrival with
  | missed => exact h.fail.settled
  | held staged =>
    have hheld : ({ s with
        postArrivalIndex := if staged then some index else s.postArrivalIndex
        state := .paused } : RouteExecutor).OnRoute segs lo hi := by
      refine h.arrived hlo hhi rfl (.inl rfl) ?_
      cases staged with
      | false => exact .inl rfl
      | true => exact .inr rfl
    exact hheld.settled
  | paused =>
    have hpaused : ({ s with
        postArrivalIndex := some index
        state := .paused
        currentWaypointIndex := index } : RouteExecutor).OnRoute segs lo hi :=
      h.arrived hlo hhi rfl (.inr rfl) (.inr rfl)
    exact hpaused.settled
  | reapproached look =>
    have hagain : ({ s with
        arrivalReapproachIndex := some index
        currentWaypointIndex := index
        state := .running } : RouteExecutor).OnRoute segs lo hi :=
      h.arrived hlo hhi rfl (.inr rfl) (.inl rfl)
    exact (hagain.dispatchLeg hlo hhi look).settled
  | headingTurn look =>
    obtain ⟨hturns, -⟩ := hstaged.turns (fun _ => hlo) hhi look none true
    unfold arriveAt
    dsimp only
    split_ifs
    · exact hturns.settled
    · exact OnRoute.settled (hturns.of_core rfl hturns.current rfl)
  | microGoal => exact (hstaged.sends hlo hhi).settled
  | accepted started speech dwell =>
    have haccepted : ({ s with
        postArrivalIndex := some index
        arrivalReapproachIndex := none } : RouteExecutor).OnRoute segs lo hi :=
      h.arrived hlo hhi rfl (.inl rfl) (.inr rfl)
    exact haccepted.confirms hlo hhi ⟨hkeep.next, hkeep.round⟩ started speech dwell

theorem OnRoute.results (h : s.OnRoute segs lo hi) (hlo : lo ≤ index) (hhi : index < hi)
    {onward : Onward} (hkeep : s.KeepsOnward onward index) (arrival : Arrival) :
    (s.resultAt arrival onward index).Settled := by
  unfold resultAt
  split_ifs
  · exact h.settled
  · have hready : ({ s with localizationReadyIndex := some index } : RouteExecutor).OnRoute segs lo
        hi := h.of_core rfl h.current rfl
    have hreports := onFeedback_spec { s with localizationReadyIndex := some index } index .other
      onward.turn.progressDue
    refine (hready.onFeedback (fun _ => hlo) hhi _ _).maybeContinues hlo hhi ?_
    have hreadies : Reports s { s with localizationReadyIndex := some index } :=
      ⟨rfl, rfl, rfl, rfl, rfl⟩
    exact hkeep.reported (hreadies.trans hreports.1)
  · exact h.arrivesAt hlo hhi hkeep arrival

end RouteExecutor

end RoamerX
