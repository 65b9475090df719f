import RoamerX.Edge.RouteSegments

set_option autoImplicit false

/-! # The right submap

Every goal of a run is right, and no dispatch indexes an empty batch, as long as no step takes one of
the ways on which the executor loses its segment: segments of an earlier task, a new round or a restart
on several segments, waypoints passed over a border, and indices left from before a border. -/

namespace RoamerX

namespace RouteExecutor

variable {segs : List RouteSegment} {lo hi index : ℕ} {s s' : RouteExecutor}

/-! ## Steps that keep to the segment -/

/-- The map set of the task has been prepared, or there is none. -/
def MapSetReady (s : RouteExecutor) : Prop := s.prepared = true ∨ s.submaps = []

/-- The waypoint lies in the segment the context names. -/
def Recorded (s : RouteExecutor) (i : ℕ) : Prop :=
  i < s.waypoints.length ∧ ∀ segs, RoamerX.buildSegments s.waypoints s.submaps = .ok segs →
    ∀ seg, segs[s.currentSegmentIndex]? = some seg → seg.startIndex ≤ i ∧ i < seg.endIndex

/-- A leg to the waypoint keeps to the segment the context names. -/
structure LegKeeps (s : RouteExecutor) (looks : ℕ → Look) (i : ℕ) : Prop where
  recorded : s.Recorded i
  keeps : s.KeepsFrom (s.state = .running) looks i

/-- The waypoint was reached in the segment the context names, and what follows it keeps to a segment. -/
structure ReachedKeeps (s : RouteExecutor) (onward : Onward) (reached : ℕ) : Prop where
  recorded : s.Recorded reached
  onward : s.KeepsOnward onward reached

/-- The waypoint a result is taken for. -/
def resultIndex (s : RouteExecutor) : ℕ :=
  s.departureHeadingIndex.getD (s.goalOffset + max s.dispatchedCount 1 - 1)

/-- A result is taken up in the segment. -/
def ResultKeeps (s : RouteExecutor) (onward : Onward) : Prop :=
  s.turnedAway = false → ¬ (s.departureHeadingIndex.isSome ∧ s.departureTeleop) → s.MapSetReady ∧
    if s.departureHeadingIndex.isSome ∧ s.departureCruiseIndex.isSome then
      ∀ cruise ∈ s.departureCruiseIndex, s.LegKeeps onward.looks cruise
    else s.ReachedKeeps onward s.resultIndex

/-- The end of a turn by the teleop worker is taken up in the segment. -/
def AlignedKeeps (s : RouteExecutor) (onward : Onward) : Prop :=
  s.turnedAway = false → s.departureTeleop = true → ∀ reached ∈ s.departureHeadingIndex,
    s.MapSetReady ∧
    if s.departureIsArrival then
      s.Recorded reached ∧ s.ReachedKeeps onward (s.goalOffset + max s.dispatchedCount 1 - 1)
    else if s.departureCruiseIndex.isSome then
      ∀ cruise ∈ s.departureCruiseIndex, s.LegKeeps onward.looks cruise
    else s.ReachedKeeps onward reached

/-- The route of a start, in the order it is driven in. -/
def startWaypoints (c : RouteStart) (nearest : ℕ) : List RouteWaypoint :=
  if c.reversed nearest then c.waypoints.reverse else c.waypoints

/-- The step does not lose the segment. -/
def Careful (s : RouteExecutor) : Step → Prop
  -- no segments of an earlier task are left
  | .prepare c nearest =>
    s.segments = [] ∨ RoamerX.buildSegments (startWaypoints c nearest) c.submaps = .ok s.segments
  | .launch _ looks => s.KeepsFrom (s.state = .running) looks s.currentWaypointIndex
  | .result _ onward => s.ResultKeeps onward
  | .feedback _ => s.state = .running → s.Recorded s.goalOffset
  | .aligned _ onward => s.AlignedKeeps onward
  | .retry looks =>
    s.retryArmed = true → s.state.isTerminal = false → s.MapSetReady
      ∧ s.LegKeeps looks (s.pendingDispatchIndex.getD s.currentWaypointIndex)
  | .sendAgain looks =>
    s.state.isTerminal = false → s.MapSetReady
      ∧ s.KeepsFrom (s.state = .running) looks s.currentWaypointIndex
  | .replan looks =>
    ∀ i ∈ s.replanIndex, s.state.isTerminal = false ∧ s.MapSetReady ∧ s.LegKeeps looks i
  | .coarseReapproach looks =>
    s.state.isTerminal = false → s.KeepsFrom True looks s.currentWaypointIndex
  | .reapproach _ _ => s.state.isTerminal = false → s.MapSetReady
  | .resumePostArrival ready started _ _ _ onward =>
    s.state.isTerminal = false → s.postArrivalIndex = some s.currentWaypointIndex →
      if ready then s.KeepsOnward onward s.currentWaypointIndex
      else (s.takePostArrival started).ResultKeeps onward
  | .waited speech onward =>
    s.state = .running → ∀ waiting ∈ if speech then s.speechWaiting else s.dwellWaiting,
      s.ReachedKeeps onward waiting.1
  | .resumeWaiting onward =>
    s.state.isTerminal = false → ∀ i ∈ s.waitingWaypointIndex,
      s.MapSetReady ∧ s.ReachedKeeps onward i
  | .cruiseWatch look =>
    s.state = .running → s.KeepsFrom True (fun _ => look) s.currentWaypointIndex
  | .cruiseComplete onward =>
    s.cruiseCompletes = true → s.state = .running → 0 ≤ s.lastReachedIndex →
      s.ReachedKeeps onward s.lastReachedIndex.toNat
  -- a paused task on several segments does not survive a restart
  | .restart _ =>
    s.state = .paused → ∀ segs, RoamerX.buildSegments s.waypoints s.submaps = .ok segs →
      segs.length ≤ 1
  | .startup _ | .turnDropped | .sourceSwitch | .pause _ | .stop _ | .reconcile _ => True

/-! ## The invariant -/

/-- A start has not prepared the map set of its route yet. -/
structure Waiting (s : RouteExecutor) : Prop where
  sound : s.core.Sound
  unprepared : s.prepared = false
  submaps : s.submaps ≠ []
  kept : s.segments = [] ∨ RoamerX.buildSegments s.waypoints s.submaps = .ok s.segments
  order : s.waypoints = s.baseWaypoints ∨ s.waypoints = s.baseWaypoints.reverse
  nonempty : s.baseWaypoints ≠ []
  current : s.currentWaypointIndex < s.waypoints.length
  post : s.postArrivalIndex = none
  notRunning : s.state ≠ .running

/-- The task has ended, or its start has not prepared the map set, or the executor is in a segment. -/
def Inv (s : RouteExecutor) : Prop := s.Waiting ∨ s.Settled

theorem Inv.initial : Inv {} :=
  .inr (settled_of_ended ⟨by simp [core], rfl, by simp [core]⟩ rfl)

theorem Inv.sound (h : s.Inv) : s.core.Sound := by
  rcases h with hwaiting | hsettled
  · exact hwaiting.sound
  · exact hsettled.1

theorem Waiting.not_ready (h : s.Waiting) : ¬ s.MapSetReady := by
  rintro (hprepared | hnone)
  · exact absurd hprepared (by simp [h.unprepared])
  · exact h.submaps hnone

theorem OnRoute.recorded (h : s.OnRoute segs lo hi) {i : ℕ} (hi' : s.Recorded i) : lo ≤ i ∧ i < hi := by
  rcases h.sits.window with ⟨-, rfl, rfl⟩ | ⟨-, seg, hseg, rfl, rfl, -⟩
  · exact ⟨Nat.zero_le i, hi'.1⟩
  · exact hi'.2 segs h.sits.built seg hseg

theorem OnRoute.sendsFrom (h : s.OnRoute segs lo hi) {looks : ℕ → Look} (hkeep : s.LegKeeps looks index) :
    (s.sendFrom looks index).OnRoute segs lo hi := by
  obtain ⟨hlo, hhi⟩ := h.recorded hkeep.recorded
  exact h.sendFrom hlo hhi (h.keepsTo hlo hhi id hkeep.keeps)

theorem OnRoute.dispatches (h : s.OnRoute segs lo hi) {looks : ℕ → Look}
    (hkeep : s.LegKeeps looks index) : (s.dispatchNavigation looks index).OnRoute segs lo hi := by
  obtain ⟨hlo, hhi⟩ := h.recorded hkeep.recorded
  exact h.dispatchNavigation hlo hhi (h.keepsTo hlo hhi id hkeep.keeps)

theorem OnRoute.completes (h : s.OnRoute segs lo hi) {looks : ℕ → Look} {cruise : ℕ}
    (hkeep : s.LegKeeps looks cruise) (reached : ℕ) :
    (s.completeDepartureHeading looks reached (some cruise)).OnRoute segs lo hi := by
  have hcompleted : ({ s with
      departureHeadingIndex := none
      departureCruiseIndex := none
      departureTeleop := false
      departureIsArrival := false } : RouteExecutor).OnRoute segs lo hi := h.of_core rfl h.current rfl
  exact hcompleted.dispatches ⟨hkeep.recorded, hkeep.keeps⟩

theorem OnRoute.takesResult (h : s.OnRoute segs lo hi) {onward : Onward} (hkeep : s.ResultKeeps onward)
    (arrival : Arrival) : (s.onNavigationResult arrival onward).Settled := by
  unfold onNavigationResult
  by_cases haway : s.turnedAway = true
  · rw [if_pos haway]
    exact h.settled
  · have hkeep' := hkeep (by simpa using haway)
    rw [if_neg haway]
    unfold resultIndex at hkeep'
    cases hheading : s.departureHeadingIndex with
    | none =>
      rw [hheading] at hkeep'
      obtain ⟨-, hreached⟩ := hkeep' (by simp)
      rw [if_neg (by simp)] at hreached
      obtain ⟨hlo, hhi⟩ := h.recorded hreached.recorded
      exact h.results hlo hhi hreached.onward arrival
    | some reached =>
      rw [hheading] at hkeep'
      dsimp only
      split_ifs with hteleop hcruise
      · exact h.settled
      · obtain ⟨-, hleg⟩ := hkeep' (by simpa using hteleop)
        rw [if_pos ⟨rfl, hcruise⟩] at hleg
        obtain ⟨cruise, hcruise⟩ := Option.isSome_iff_exists.1 hcruise
        rw [hcruise]
        exact (h.completes (hleg cruise hcruise) reached).settled
      · obtain ⟨-, hreached⟩ := hkeep' (by simpa using hteleop)
        rw [if_neg (by simpa using hcruise)] at hreached
        obtain ⟨hlo, hhi⟩ := h.recorded hreached.recorded
        have hnone : s.departureCruiseIndex = none := by simpa using hcruise
        rw [hnone]
        have hcompleted : (s.completeDepartureHeading onward.looks reached none).OnRoute segs lo hi :=
          h.of_core rfl h.current rfl
        exact hcompleted.results hlo hhi ⟨hreached.onward.next, hreached.onward.round⟩ arrival

theorem OnRoute.aligns (h : s.OnRoute segs lo hi) {onward : Onward} (hkeep : s.AlignedKeeps onward)
    (arrival : Arrival) : (s.teleopAligned arrival onward).Settled := by
  unfold teleopAligned
  by_cases haway : s.turnedAway = true ∨ s.departureTeleop = false
  · rw [if_pos haway]
    exact h.settled
  · rw [if_neg haway]
    rw [not_or, Bool.not_eq_true, Bool.not_eq_false] at haway
    cases hheading : s.departureHeadingIndex with
    | none => exact h.settled
    | some reached =>
      obtain ⟨hready, hkeep'⟩ := hkeep haway.1 haway.2 reached hheading
      dsimp only
      by_cases harrival : s.departureIsArrival = true
      · rw [if_pos harrival] at hkeep' ⊢
        obtain ⟨hlo, hhi⟩ := h.recorded hkeep'.1
        have hstaged : ({ s.completeDepartureHeading onward.looks reached none with
            departureHeadingCompletedIndex := none
            postArrivalIndex := some reached } : RouteExecutor).OnRoute segs lo hi :=
          h.arrived hlo hhi rfl (.inl rfl) (.inr rfl)
        refine hstaged.takesResult ?_ arrival
        intro _ _
        refine ⟨hready, ?_⟩
        rw [if_neg (by simp [completeDepartureHeading])]
        exact ⟨hkeep'.2.recorded, ⟨hkeep'.2.onward.next, hkeep'.2.onward.round⟩⟩
      · rw [if_neg harrival] at hkeep' ⊢
        by_cases hcruise : s.departureCruiseIndex.isSome = true
        · rw [if_pos hcruise] at hkeep' ⊢
          obtain ⟨cruise, hcruise⟩ := Option.isSome_iff_exists.1 hcruise
          rw [hcruise]
          exact (h.completes (hkeep' cruise hcruise) reached).settled
        · rw [if_neg hcruise] at hkeep' ⊢
          have hnone : s.departureCruiseIndex = none := by simpa using hcruise
          obtain ⟨hlo, hhi⟩ := h.recorded hkeep'.recorded
          have hcompleted : (s.completeDepartureHeading onward.looks reached none).OnRoute segs lo hi :=
            h.of_core rfl h.current rfl
          rw [hnone]
          exact hcompleted.continues hlo hhi ⟨hkeep'.onward.next, hkeep'.onward.round⟩

/-! ## Start -/

/-- The segments of the route of a start, if they can be built. -/
structure Startable (segs : List RouteSegment) (n : ℕ) (seg : RouteSegment) (s : RouteExecutor) :
    Prop where
  routed : s.core.Routed segs
  submaps : s.submaps ≠ []
  kept : s.segments = [] ∨ s.segments = segs
  found : segs[n]? = some seg
  current : seg.startIndex ≤ s.currentWaypointIndex ∧ s.currentWaypointIndex < seg.endIndex
  post : ∀ i ∈ s.postArrivalIndex, seg.startIndex ≤ i ∧ i < seg.endIndex

theorem Waiting.startable (h : s.Waiting) :
    (∃ segs n seg, s.Startable segs n seg)
      ∨ s.segments = [] ∧ ∃ e, RoamerX.buildSegments s.waypoints s.submaps = .error e := by
  cases hbuilt : RoamerX.buildSegments s.waypoints s.submaps with
  | error e =>
    right
    refine ⟨?_, e, rfl⟩
    rcases h.kept with hempty | hkept
    · exact hempty
    · exact absurd hkept (by simp [hbuilt])
  | ok segs =>
    left
    obtain ⟨n, seg, hseg, hin⟩ := exists_segment h.submaps hbuilt h.current
    refine ⟨segs, n, seg, { h.sound with built := hbuilt, order := h.order, nonempty := h.nonempty },
      h.submaps, ?_, hseg, hin, by simp [h.post]⟩
    rcases h.kept with hempty | hkept
    · exact .inl hempty
    · exact .inr (Except.ok.inj (hkept.symm.trans hbuilt))

theorem OnRoute.startable (h : s.OnRoute segs lo hi) (hsubmaps : s.submaps ≠ []) :
    ∃ seg, s.Startable segs s.currentSegmentIndex seg := by
  rcases h.sits.window with ⟨hnone, -, -⟩ | ⟨-, seg, hseg, rfl, rfl, -⟩
  · exact absurd hnone hsubmaps
  · refine ⟨seg, h.sits.toRouted, hsubmaps, ?_, hseg, h.current, h.post⟩
    rcases h.sits.kept with hkept | ⟨hempty, -⟩
    · exact .inr hkept
    · exact .inl hempty

theorem Startable.prepares {n : ℕ} {seg : RouteSegment} (h : s.Startable segs n seg)
    (answer : Except String Unit) :
    ((s.prepareMapSetForCurrentWaypoint answer).1 = false →
        (s.prepareMapSetForCurrentWaypoint answer).2.fail.Settled)
      ∧ ((s.prepareMapSetForCurrentWaypoint answer).1 = true →
        (s.prepareMapSetForCurrentWaypoint answer).2.OnRoute segs seg.startIndex seg.endIndex
          ∧ Prepares segs s (s.prepareMapSetForCurrentWaypoint answer).2
          ∧ (s.prepareMapSetForCurrentWaypoint answer).2.currentSegmentIndex = n) := by
  obtain ⟨hraised, hprepared⟩ :=
    prepare_spec answer h.routed h.submaps h.kept h.found h.current h.post
  exact ⟨fun hfailed => settled_of_ended (hraised hfailed) rfl, hprepared⟩

theorem Startable.startup {n : ℕ} {seg : RouteSegment} (h : s.Startable segs n seg)
    (hsettled : s.Inv) (answer : Except String Unit) : (s.initializeBeforeNavigation answer).Inv := by
  obtain ⟨hraised, hprepared⟩ := h.prepares answer
  unfold initializeBeforeNavigation
  dsimp only
  split_ifs with _ hreturned
  · exact .inr (hprepared hreturned).1.settled
  · exact .inr (hraised (by simpa using hreturned))
  · exact hsettled

theorem Startable.launch {n : ℕ} {seg : RouteSegment} (h : s.Startable segs n seg) (hinv : s.Inv)
    (answer : Except String Unit) {looks : ℕ → Look}
    (hkeep : s.KeepsFrom (s.state = .running) looks s.currentWaypointIndex) :
    (s.launchPreparedTask answer looks).Inv := by
  have hnonempty : segs ≠ [] := by
    rintro rfl
    exact absurd h.found (by simp)
  have hbuilt : ({ s with segments := segs } : RouteExecutor).Startable segs n seg :=
    ⟨{ h.routed with }, h.submaps, .inr rfl, h.found, h.current, h.post⟩
  have hof : ({ s with segments := segs } : RouteExecutor).segmentOf s.currentWaypointIndex = n :=
    segmentOf_eq hbuilt.routed h.submaps rfl h.found h.current
  obtain ⟨hraised, hprepared⟩ := hbuilt.prepares answer
  unfold launchPreparedTask
  rw [buildSegments_spec h.routed h.kept]
  dsimp only
  by_cases haccepted : s.state = .accepted
  · rw [if_pos haccepted, if_neg (by simp), if_neg hnonempty, hof]
    generalize ({ s with segments := segs } : RouteExecutor).prepareMapSetForCurrentWaypoint answer =
      prepared at *
    by_cases hfailed : prepared.1 = false
    · rw [if_pos hfailed]
      exact .inr (hraised hfailed)
    · obtain ⟨hroute, hprepares, hindex⟩ := hprepared (by simpa using hfailed)
      have hleg := hkeep.of_route hprepares.waypoints hprepares.submaps
      rw [if_neg hfailed, hprepares.segments, h.found]
      unfold sendSegment
      dsimp only
      rw [← hindex, Nat.max_eq_right h.current.1]
      refine .inr (hroute.dispatchNavigation h.current.1 h.current.2 ?_).settled
      exact hroute.keepsTo h.current.1 h.current.2 (fun hrun => hprepares.state ▸ hrun) hleg
  · rw [if_neg haccepted]
    exact hinv

theorem Waiting.of_core (h : s.Waiting) (hcore : s'.core = s.core)
    (hcurrent : s'.currentWaypointIndex = s.currentWaypointIndex)
    (hpost : s'.postArrivalIndex = s.postArrivalIndex) (hstate : s'.state ≠ .running) : s'.Waiting := by
  have hwaypoints : s'.waypoints = s.waypoints := congrArg RouteCore.waypoints hcore
  have hbase : s'.baseWaypoints = s.baseWaypoints := congrArg RouteCore.baseWaypoints hcore
  have hsubmaps : s'.submaps = s.submaps := congrArg RouteCore.submaps hcore
  have hsegments : s'.segments = s.segments := congrArg RouteCore.segments hcore
  have hprepared : s'.prepared = s.prepared := congrArg RouteCore.prepared hcore
  refine ⟨hcore ▸ h.sound, hprepared ▸ h.unprepared, hsubmaps ▸ h.submaps, ?_, ?_, hbase ▸ h.nonempty,
    ?_, hpost ▸ h.post, hstate⟩
  · rw [hsegments, hwaypoints, hsubmaps]
    exact h.kept
  · rw [hwaypoints, hbase]
    exact h.order
  · rw [hcurrent, hwaypoints]
    exact h.current

/-! ## Steps -/

theorem prepareTaskStart_current (s : RouteExecutor) (c : RouteStart) (nearest : ℕ) :
    (s.prepareTaskStart c nearest).currentWaypointIndex
      < (s.prepareTaskStart c nearest).waypoints.length := by
  have hpos : 0 < c.waypoints.length := List.length_pos_iff.2 c.nonempty
  have hlength : (s.prepareTaskStart c nearest).waypoints.length = c.waypoints.length := by
    unfold prepareTaskStart
    dsimp only
    split_ifs
    · exact List.length_reverse
    · rfl
  rw [hlength]
  unfold prepareTaskStart RouteStart.initialIndex
  dsimp only
  split_ifs <;> omega

theorem Inv.prepares (h : s.Inv) (c : RouteStart) (nearest : ℕ)
    (hcareful : s.segments = []
      ∨ RoamerX.buildSegments (startWaypoints c nearest) c.submaps = .ok s.segments) :
    (s.prepareTaskStart c nearest).Inv := by
  have hcurrent := prepareTaskStart_current s c nearest
  have hsound : (s.prepareTaskStart c nearest).core.Sound := { h.sound with }
  have horder : startWaypoints c nearest = c.waypoints
      ∨ startWaypoints c nearest = c.waypoints.reverse := by
    unfold startWaypoints
    split_ifs
    · exact .inr rfl
    · exact .inl rfl
  by_cases hsubmaps : c.submaps = []
  · -- without a map set there is nothing to prepare
    have hbuilt : RoamerX.buildSegments (startWaypoints c nearest) c.submaps = .ok [] := by
      rw [RoamerX.buildSegments, if_pos hsubmaps]
    have hnone : s.segments = [] := by
      rcases hcareful with hempty | hkept
      · exact hempty
      · exact (Except.ok.inj (hbuilt.symm.trans hkept)).symm
    have hroute : (s.prepareTaskStart c nearest).OnRoute [] 0
        (s.prepareTaskStart c nearest).waypoints.length :=
      ⟨{ hsound with
          built := hbuilt
          order := horder
          nonempty := c.nonempty
          kept := .inl hnone
          window := .inl ⟨hsubmaps, rfl, rfl⟩
          prepared := .inr hsubmaps }, ⟨Nat.zero_le _, hcurrent⟩, by simp [prepareTaskStart]⟩
    exact .inr hroute.settled
  · exact .inl ⟨hsound, rfl, hsubmaps, hcareful, horder, c.nonempty, hcurrent, rfl, by
      simp [prepareTaskStart]⟩

theorem buildSegments_refused {e : ProtocolError} (hempty : s.segments = [])
    (hrefused : RoamerX.buildSegments s.waypoints s.submaps = .error e) :
    s.buildSegments = (false, s) := by
  unfold RouteExecutor.buildSegments
  rw [if_pos hempty, hrefused]

theorem Waiting.step (h : s.Waiting) (a : Step) (hcareful : s.Careful a) : (s.step a).Inv := by
  have hsame : s.Inv := .inl h
  have hnot := h.not_ready
  have hrunning := h.notRunning
  have hpost := h.post
  cases a with
  | prepare c nearest =>
    simp only [RouteExecutor.step]
    split_ifs
    · exact hsame.prepares c nearest hcareful
    · exact hsame
  | startup answer =>
    rcases h.startable with ⟨segs, n, seg, hstart⟩ | ⟨hempty, e, hrefused⟩
    · exact hstart.startup hsame answer
    · have hprepared : s.prepareMapSetForCurrentWaypoint answer = (false, s) := by
        unfold prepareMapSetForCurrentWaypoint
        rw [buildSegments_refused hempty hrefused]
        rfl
      simp only [RouteExecutor.step, initializeBeforeNavigation, hprepared, Bool.false_eq_true, if_false]
      split_ifs
      · exact .inr (settled_of_ended h.sound rfl)
      · exact hsame
  | launch answer looks =>
    rcases h.startable with ⟨segs, n, seg, hstart⟩ | ⟨hempty, e, hrefused⟩
    · exact hstart.launch hsame answer hcareful
    · simp only [RouteExecutor.step, launchPreparedTask, buildSegments_refused hempty hrefused, if_true]
      split_ifs
      · exact .inr (settled_of_ended h.sound rfl)
      · exact hsame
  | result arrival onward =>
    simp only [RouteExecutor.step, onNavigationResult]
    by_cases haway : s.turnedAway = true
    · rw [if_pos haway]
      exact hsame
    · by_cases hturning : s.departureHeadingIndex.isSome ∧ s.departureTeleop
      · obtain ⟨reached, hreached⟩ := Option.isSome_iff_exists.1 hturning.1
        rw [if_neg haway, hreached]
        simp only [hturning.2, if_true]
        exact hsame
      · exact absurd (hcareful (by simpa using haway) hturning).1 hnot
  | feedback due =>
    simp only [RouteExecutor.step, RouteExecutor.onFeedback]
    rw [if_pos (.inl hrunning)]
    exact hsame
  | aligned arrival onward =>
    simp only [RouteExecutor.step, teleopAligned]
    by_cases haway : s.turnedAway = true ∨ s.departureTeleop = false
    · rw [if_pos haway]
      exact hsame
    · rw [if_neg haway]
      rw [not_or, Bool.not_eq_true, Bool.not_eq_false] at haway
      cases hheading : s.departureHeadingIndex with
      | none => exact hsame
      | some reached => exact absurd (hcareful haway.1 haway.2 reached hheading).1 hnot
  | turnDropped => exact .inl (h.of_core rfl rfl rfl hrunning)
  | retry looks =>
    simp only [RouteExecutor.step, retryNavDispatch]
    split_ifs with hoff
    · exact hsame
    · rw [not_or, not_or, Bool.not_eq_false, Bool.not_eq_true] at hoff
      exact absurd (hcareful hoff.1 hoff.2.1).1 hnot
  | sendAgain looks =>
    simp only [RouteExecutor.step, RouteExecutor.sendAgain]
    by_cases hoff : s.state.isTerminal = true ∨ s.state = .cancelling
    · rw [if_pos hoff]
      exact hsame
    · rw [not_or, Bool.not_eq_true] at hoff
      exact absurd (hcareful hoff.1).1 hnot
  | sourceSwitch =>
    simp only [RouteExecutor.step, RouteExecutor.sourceSwitch]
    rw [if_neg hrunning]
    exact hsame
  | replan looks =>
    simp only [RouteExecutor.step, RouteExecutor.replan]
    cases hindex : s.replanIndex with
    | none => exact hsame
    | some i => exact absurd (hcareful i hindex).2.1 hnot
  | coarseReapproach looks =>
    simp only [RouteExecutor.step, RouteExecutor.coarseReapproach, hpost]
    rw [if_pos (.inr (by simp))]
    exact hsame
  | reapproach atCurrent look =>
    simp only [RouteExecutor.step, RouteExecutor.reapproach]
    by_cases hended : s.state.isTerminal = true
    · rw [if_pos hended]
      exact hsame
    · exact absurd (hcareful (by simpa using hended)) hnot
  | resumePostArrival ready started speech dwell arrival onward =>
    simp only [RouteExecutor.step, RouteExecutor.resumePostArrival, hpost]
    rw [if_pos (.inr (by simp))]
    exact hsame
  | waited speech onward =>
    have hquiet : ∀ (t : RouteExecutor) (i : ℕ), t.Waiting → (t.maybeContinueAfterWaypoint onward i).Inv := by
      intro t i ht
      unfold maybeContinueAfterWaypoint
      rw [if_pos (.inl ht.notRunning)]
      exact .inl ht
    simp only [RouteExecutor.step, RouteExecutor.waited]
    split
    · exact hsame
    · split_ifs
      · exact hquiet _ _ (h.of_core rfl rfl rfl hrunning)
      · exact hquiet _ _ (h.of_core rfl rfl rfl hrunning)
  | resumeWaiting onward =>
    simp only [RouteExecutor.step, RouteExecutor.resumeWaiting]
    cases hindex : s.waitingWaypointIndex with
    | none => exact hsame
    | some i =>
      by_cases hended : s.state.isTerminal = true
      · simp only [hended, if_true]
        exact hsame
      · exact absurd (hcareful (by simpa using hended) i hindex).1 hnot
  | cruiseWatch look =>
    simp only [RouteExecutor.step, RouteExecutor.cruiseWatch]
    rw [if_pos (.inl hrunning)]
    exact hsame
  | cruiseComplete onward =>
    simp only [RouteExecutor.step, RouteExecutor.cruiseComplete]
    rw [if_pos (.inr (.inl hrunning))]
    exact .inl (h.of_core rfl rfl rfl hrunning)
  | pause operator =>
    simp only [RouteExecutor.step, RouteExecutor.pause]
    split_ifs
    · exact hsame
    · exact .inl (h.of_core rfl rfl rfl (by simp))
    · exact .inl (h.of_core rfl rfl rfl (by simp))
  | stop final =>
    simp only [RouteExecutor.step]
    split_ifs with hended
    · exact .inr (settled_of_ended h.sound hended)
    · exact hsame
  | reconcile final =>
    simp only [RouteExecutor.step]
    split_ifs with hended
    · exact .inr (settled_of_ended h.sound hended)
    · exact hsame
  | restart started =>
    have hrestarts : (s.restart started).Waiting ∨ (s.restart started).Settled := by
      have hsound : (s.restart started).core.Sound := ⟨h.sound.right, h.sound.noError, by
        simp [core, restart]⟩
      by_cases hpaused : s.state = .paused
      · left
        refine ⟨hsound, h.unprepared, h.submaps, .inl rfl, h.order, h.nonempty, h.current, h.post, ?_⟩
        simp [restart, hpaused, ExecutionState.isTerminal, ExecutionState.isActive]
      · right
        refine settled_of_ended hsound ?_
        unfold restart
        dsimp only
        split_ifs with hended
        · exact hended
        · rfl
    exact hrestarts

theorem OnRoute.withoutSegments (h : s.OnRoute segs lo hi) (hsubmaps : s.submaps = []) :
    s.segments = [] ∧ s.buildSegments = (true, { s with segments := [] }) := by
  have hbuilt : RoamerX.buildSegments s.waypoints s.submaps = .ok [] := by
    rw [hsubmaps, RoamerX.buildSegments, if_pos rfl]
  have hnone : s.segments = [] := by
    rcases h.sits.kept with hkept | ⟨hempty, -⟩
    · exact hkept.trans (Except.ok.inj (h.sits.built.symm.trans hbuilt))
    · exact hempty
  refine ⟨hnone, ?_⟩
  unfold RouteExecutor.buildSegments
  rw [if_pos hnone, hbuilt]

theorem OnRoute.startsWithout (h : s.OnRoute segs lo hi) (hsubmaps : s.submaps = [])
    (answer : Except String Unit) : (s.initializeBeforeNavigation answer).OnRoute segs lo hi := by
  obtain ⟨hnone, hbuilds⟩ := h.withoutSegments hsubmaps
  have hroute : ({ s with segments := [] } : RouteExecutor).OnRoute segs lo hi :=
    h.of_core (by simp [core, hnone]) h.current rfl
  have hprepared : s.prepareMapSetForCurrentWaypoint answer = (true, { s with segments := [] }) := by
    unfold prepareMapSetForCurrentWaypoint
    rw [hbuilds]
    rfl
  simp only [initializeBeforeNavigation, hprepared, if_true]
  split_ifs
  · exact hroute
  · exact h

theorem OnRoute.launchesWithout (h : s.OnRoute segs lo hi) (hsubmaps : s.submaps = [])
    (answer : Except String Unit) {looks : ℕ → Look}
    (hkeep : s.KeepsFrom (s.state = .running) looks s.currentWaypointIndex) :
    (s.launchPreparedTask answer looks).OnRoute segs lo hi := by
  obtain ⟨hnone, hbuilds⟩ := h.withoutSegments hsubmaps
  have hroute : ({ s with segments := [], prepared := true } : RouteExecutor).OnRoute segs lo hi := by
    have hsits := h.sits
    have hkept : s.segments = segs ∨ s.segments = [] ∧ segs.length ≤ 1 := hsits.kept
    rw [hnone] at hkept
    exact ⟨{ hsits with kept := hkept, prepared := .inl rfl }, h.current, h.post⟩
  unfold launchPreparedTask
  rw [hbuilds]
  split_ifs
  · exact hroute.sendFrom h.current.1 h.current.2
      (hroute.keepsTo h.current.1 h.current.2 id (hkeep.of_route rfl rfl))
  · exact h

theorem OnRoute.reapproaches (h : s.OnRoute segs lo hi) (hlo : lo ≤ index) (hhi : index < hi)
    (look : Look) : (s.arriveAt (.reapproached look) {} index).OnRoute segs lo hi := by
  have hagain : ({ s with
      arrivalReapproachIndex := some index
      currentWaypointIndex := index
      state := .running } : RouteExecutor).OnRoute segs lo hi :=
    h.arrived hlo hhi rfl (.inr rfl) (.inl rfl)
  exact hagain.dispatchLeg hlo hhi look

theorem OnRoute.step (h : s.OnRoute segs lo hi) (a : Step) (hcareful : s.Careful a) :
    (s.step a).Inv := by
  have hsame : s.Inv := .inr h.settled
  obtain ⟨hlo, hhi⟩ := h.current
  cases a with
  | prepare c nearest =>
    simp only [RouteExecutor.step]
    split_ifs
    · exact hsame.prepares c nearest hcareful
    · exact hsame
  | startup answer =>
    by_cases hsubmaps : s.submaps = []
    · exact .inr (h.startsWithout hsubmaps answer).settled
    · obtain ⟨seg, hstart⟩ := h.startable hsubmaps
      exact hstart.startup hsame answer
  | launch answer looks =>
    by_cases hsubmaps : s.submaps = []
    · exact .inr (h.launchesWithout hsubmaps answer hcareful).settled
    · obtain ⟨seg, hstart⟩ := h.startable hsubmaps
      exact hstart.launch hsame answer hcareful
  | result arrival onward => exact .inr (h.takesResult hcareful arrival)
  | feedback due =>
    by_cases hrunning : s.state = .running
    · obtain ⟨hin, hlt⟩ := h.recorded (hcareful hrunning)
      exact .inr (h.onFeedback (fun _ => hin) hlt .other due).settled
    · simp only [RouteExecutor.step, RouteExecutor.onFeedback]
      rw [if_pos (.inl hrunning)]
      exact hsame
  | aligned arrival onward => exact .inr (h.aligns hcareful arrival)
  | turnDropped =>
    have hdropped : s.clearDepartureHeading.OnRoute segs lo hi := h.of_core rfl h.current rfl
    exact .inr hdropped.settled
  | retry looks =>
    simp only [RouteExecutor.step, retryNavDispatch]
    split_ifs with hoff
    · exact hsame
    · rw [not_or, not_or, Bool.not_eq_false, Bool.not_eq_true] at hoff
      exact .inr (h.sendsFrom (hcareful hoff.1 hoff.2.1).2).settled
  | sendAgain looks =>
    simp only [RouteExecutor.step, RouteExecutor.sendAgain]
    by_cases hoff : s.state.isTerminal = true ∨ s.state = .cancelling
    · rw [if_pos hoff]
      exact hsame
    · rw [if_neg hoff]
      rw [not_or, Bool.not_eq_true] at hoff
      have hkeep := (hcareful hoff.1).2
      split_ifs with hrunning hturning
      · exact .inr (h.sendFrom hlo hhi (h.keepsTo hlo hhi id hkeep)).settled
      all_goals
        -- a task that is held does not run while it turns
        have hresuming : ({ s with state := .resuming } : RouteExecutor).OnRoute segs lo hi :=
          h.of_core rfl h.current rfl
        have hsent : ({ s with state := .resuming }.sendFrom looks s.currentWaypointIndex).OnRoute segs
            lo hi := hresuming.sendFrom hlo hhi
          (hresuming.keepsTo hlo hhi (fun hrun => absurd hrun (by simp)) (hkeep.of_route rfl rfl))
      · exact .inr (OnRoute.settled (hsent.of_core rfl hsent.current rfl))
      · exact .inr hsent.settled
  | sourceSwitch =>
    simp only [RouteExecutor.step, RouteExecutor.sourceSwitch]
    split_ifs
    · have hread : ({ s with replanIndex := some s.currentWaypointIndex } : RouteExecutor).OnRoute segs
          lo hi := h.of_core rfl h.current rfl
      exact .inr hread.settled
    · exact hsame
  | replan looks =>
    simp only [RouteExecutor.step, RouteExecutor.replan]
    cases hindex : s.replanIndex with
    | none => exact hsame
    | some i =>
      have hkeep := (hcareful i hindex).2.2
      have hread : ({ s with replanIndex := none } : RouteExecutor).OnRoute segs lo hi :=
        h.of_core rfl h.current rfl
      exact .inr (hread.dispatches ⟨hkeep.recorded, hkeep.keeps⟩).settled
  | coarseReapproach looks =>
    simp only [RouteExecutor.step, RouteExecutor.coarseReapproach]
    split_ifs with hoff
    · exact hsame
    · rw [not_or, Bool.not_eq_true] at hoff
      have hkeep := hcareful hoff.1
      have hrunning : ({ s.clearDepartureHeading with
          state := .running
          arrivalReapproachIndex := none } : RouteExecutor).OnRoute segs lo hi :=
        h.of_core rfl h.current rfl
      exact .inr (hrunning.dispatchNavigation hlo hhi
        (hrunning.keepsTo hlo hhi (fun _ => trivial) (hkeep.of_route rfl rfl))).settled
  | reapproach atCurrent look =>
    simp only [RouteExecutor.step, RouteExecutor.reapproach]
    by_cases hended : s.state.isTerminal = true
    · rw [if_pos hended]
      exact hsame
    · rw [if_neg hended]
      obtain ⟨hat, hbefore⟩ : lo ≤ (if atCurrent then s.currentWaypointIndex
            else s.postArrivalIndex.getD s.currentWaypointIndex)
          ∧ (if atCurrent then s.currentWaypointIndex
            else s.postArrivalIndex.getD s.currentWaypointIndex) < hi := by
        split_ifs
        · exact h.current
        · cases hpost : s.postArrivalIndex with
          | none => exact h.current
          | some i => exact h.post i hpost
      exact .inr (h.reapproaches hat hbefore look).settled
  | resumePostArrival ready started speech dwell arrival onward =>
    simp only [RouteExecutor.step, RouteExecutor.resumePostArrival]
    by_cases hoff : s.state.isTerminal = true ∨ s.postArrivalIndex ≠ some s.currentWaypointIndex
    · rw [if_pos hoff]
      exact hsame
    · rw [if_neg hoff]
      rw [not_or, Bool.not_eq_true, not_not] at hoff
      have hkeep := hcareful hoff.1 hoff.2
      have htaken : (s.takePostArrival started).OnRoute segs lo hi := h.of_core rfl h.current rfl
      cases ready with
      | true => exact .inr (htaken.confirms hlo hhi ⟨hkeep.next, hkeep.round⟩ started speech dwell)
      | false => exact .inr (htaken.takesResult hkeep arrival)
  | waited speech onward =>
    simp only [RouteExecutor.step, RouteExecutor.waited]
    cases hwaiting : (if speech then s.speechWaiting else s.dwellWaiting) with
    | none => exact hsame
    | some waiting =>
      -- the end of the wait moves a task that runs only
      have hended : ∀ t : RouteExecutor, Reports s t → t.currentWaypointIndex = s.currentWaypointIndex →
          (t.maybeContinueAfterWaypoint onward waiting.1).Inv := by
        intro t ht hcurrent
        have hroute : t.OnRoute segs lo hi := h.reported ht (hcurrent ▸ h.current)
        by_cases hrunning : s.state = .running
        · have hkeep := hcareful hrunning waiting hwaiting
          obtain ⟨hin, hlt⟩ := h.recorded hkeep.recorded
          exact .inr (hroute.maybeContinues hin hlt (hkeep.onward.reported ht))
        · unfold maybeContinueAfterWaypoint
          rw [if_pos (.inl (ht.state.symm ▸ hrunning))]
          exact .inr hroute.settled
      dsimp only
      split_ifs
      · exact hended _ ⟨rfl, rfl, rfl, rfl, rfl⟩ rfl
      · exact hended _ ⟨rfl, rfl, rfl, rfl, rfl⟩ rfl
  | resumeWaiting onward =>
    simp only [RouteExecutor.step, RouteExecutor.resumeWaiting]
    cases hindex : s.waitingWaypointIndex with
    | none => exact hsame
    | some i =>
      by_cases hended : s.state.isTerminal = true
      · simp only [hended, if_true]
        exact hsame
      · have hkeep := (hcareful (by simpa using hended) i hindex).2
        obtain ⟨hin, hlt⟩ := h.recorded hkeep.recorded
        have hready : ({ s with
            state := .running
            localizationReadyIndex := some i } : RouteExecutor).OnRoute segs lo hi :=
          h.of_core rfl h.current rfl
        simp only [hended, Bool.false_eq_true, if_false]
        exact .inr (hready.maybeContinues hin hlt ⟨hkeep.onward.next, hkeep.onward.round⟩)
  | cruiseWatch look =>
    simp only [RouteExecutor.step, RouteExecutor.cruiseWatch]
    split_ifs with hoff
    · exact hsame
    all_goals
      have hrunning : s.state = .running := by
        by_contra hne
        exact hoff (.inl hne)
      obtain ⟨hroute, -, -, -⟩ := h.advanceArrived hlo hhi
        (h.keepsTo hlo hhi (fun _ => trivial) (hcareful hrunning) 0)
    · exact .inr hroute.settled
    · exact .inr (OnRoute.settled (hroute.of_core rfl hroute.current rfl))
  | cruiseComplete onward =>
    simp only [RouteExecutor.step, RouteExecutor.cruiseComplete]
    by_cases hoff : s.cruiseCompletes = false ∨ s.state ≠ .running ∨ s.lastReachedIndex < 0
    · rw [if_pos hoff]
      exact .inr (OnRoute.settled (h.of_core rfl h.current rfl))
    · rw [if_neg hoff]
      rw [not_or, not_or, Bool.not_eq_false, not_not, not_lt] at hoff
      have hkeep := hcareful hoff.1 hoff.2.1 hoff.2.2
      obtain ⟨hin, hlt⟩ := h.recorded hkeep.recorded
      have hready : ({ s with
          cruiseCompletes := false
          localizationReadyIndex := some s.lastReachedIndex.toNat } : RouteExecutor).OnRoute segs lo
          hi := h.of_core rfl h.current rfl
      have hkeep' : ({ s with
          cruiseCompletes := false
          localizationReadyIndex := some s.lastReachedIndex.toNat } : RouteExecutor).KeepsOnward onward
          s.lastReachedIndex.toNat := ⟨hkeep.onward.next, hkeep.onward.round⟩
      exact .inr ((hready.onFeedback (fun _ => hin) hlt _ _).maybeContinues hin hlt
        (hkeep'.reported (onFeedback_spec _ _ _ _).1))
  | pause operator =>
    simp only [RouteExecutor.step, RouteExecutor.pause]
    split_ifs
    · exact hsame
    · exact .inr (OnRoute.settled (h.of_core rfl h.current rfl))
    · exact .inr (OnRoute.settled (h.of_core rfl h.current rfl))
  | stop final =>
    simp only [RouteExecutor.step]
    split_ifs with hended
    · exact .inr (settled_of_ended hsame.sound hended)
    · exact hsame
  | reconcile final =>
    simp only [RouteExecutor.step]
    split_ifs with hended
    · exact .inr (settled_of_ended hsame.sound hended)
    · exact hsame
  | restart started =>
    have hsound : (s.restart started).core.Sound :=
      ⟨h.sits.right, h.sits.noError, by simp [core, restart]⟩
    by_cases hpaused : s.state = .paused
    · -- the one segment of the route is built again
      have hone : segs.length ≤ 1 := hcareful hpaused segs h.sits.built
      have hroute : (s.restart started).OnRoute segs lo hi :=
        ⟨{ hsound with
            built := h.sits.built
            order := h.sits.order
            nonempty := h.sits.nonempty
            kept := .inr ⟨rfl, hone⟩
            window := h.sits.window
            prepared := h.sits.prepared }, h.current, h.post⟩
      exact .inr hroute.settled
    · have hends : (s.restart started).state.isTerminal = true := by
        unfold restart
        rw [if_neg hpaused]
        dsimp only
        split_ifs with hended
        · exact hended
        · rfl
      exact .inr (settled_of_ended hsound hends)

theorem Ended.step (hsound : s.core.Sound) (hended : s.state.isTerminal = true) (a : Step)
    (hcareful : s.Careful a) : (s.step a).Inv := by
  have hsame : s.Inv := .inr (settled_of_ended hsound hended)
  have hnotRunning : s.state ≠ .running := by
    intro hrunning
    rw [hrunning] at hended
    exact absurd hended (by decide)
  have hnotAccepted : s.state ≠ .accepted := by
    intro haccepted
    rw [haccepted] at hended
    exact absurd hended (by decide)
  have hstays : ∀ t : RouteExecutor, t.core = s.core → t.state = s.state → t.Inv :=
    fun t hcore hstate => .inr (settled_of_ended (hcore ▸ hsound) (hstate ▸ hended))
  have haway : s.turnedAway = true := by simp [turnedAway, hended]
  cases a with
  | prepare c nearest =>
    simp only [RouteExecutor.step]
    rw [if_pos hended]
    exact hsame.prepares c nearest hcareful
  | startup answer =>
    simp only [RouteExecutor.step, initializeBeforeNavigation]
    rw [if_neg hnotAccepted]
    exact hsame
  | launch answer looks =>
    simp only [RouteExecutor.step, launchPreparedTask]
    rw [if_neg hnotAccepted]
    exact hsame
  | result arrival onward =>
    simp only [RouteExecutor.step, onNavigationResult]
    rw [if_pos haway]
    exact hsame
  | feedback due =>
    simp only [RouteExecutor.step, RouteExecutor.onFeedback]
    rw [if_pos (.inl hnotRunning)]
    exact hsame
  | aligned arrival onward =>
    simp only [RouteExecutor.step, teleopAligned]
    rw [if_pos (.inl haway)]
    exact hsame
  | turnDropped => exact hstays _ rfl rfl
  | retry looks =>
    simp only [RouteExecutor.step, retryNavDispatch]
    rw [if_pos (.inr (.inl hended))]
    exact hsame
  | sendAgain looks =>
    simp only [RouteExecutor.step, RouteExecutor.sendAgain]
    rw [if_pos (.inl hended)]
    exact hsame
  | sourceSwitch =>
    simp only [RouteExecutor.step, RouteExecutor.sourceSwitch]
    rw [if_neg hnotRunning]
    exact hsame
  | replan looks =>
    simp only [RouteExecutor.step, RouteExecutor.replan]
    cases hindex : s.replanIndex with
    | none => exact hsame
    | some i => exact absurd (hcareful i hindex).1 (by simp [hended])
  | coarseReapproach looks =>
    simp only [RouteExecutor.step, RouteExecutor.coarseReapproach]
    rw [if_pos (.inl hended)]
    exact hsame
  | reapproach atCurrent look =>
    simp only [RouteExecutor.step, RouteExecutor.reapproach]
    rw [if_pos hended]
    exact hsame
  | resumePostArrival ready started speech dwell arrival onward =>
    simp only [RouteExecutor.step, RouteExecutor.resumePostArrival]
    rw [if_pos (.inl hended)]
    exact hsame
  | waited speech onward =>
    have hquiet : ∀ (t : RouteExecutor) (i : ℕ), t.core = s.core → t.state = s.state →
        (t.maybeContinueAfterWaypoint onward i).Inv := by
      intro t i hcore hstate
      unfold maybeContinueAfterWaypoint
      rw [if_pos (.inl (hstate ▸ hnotRunning))]
      exact hstays t hcore hstate
    simp only [RouteExecutor.step, RouteExecutor.waited]
    split
    · exact hsame
    · split_ifs
      · exact hquiet _ _ rfl rfl
      · exact hquiet _ _ rfl rfl
  | resumeWaiting onward =>
    simp only [RouteExecutor.step, RouteExecutor.resumeWaiting]
    cases s.waitingWaypointIndex with
    | none => exact hsame
    | some i =>
      dsimp only
      rw [if_pos hended]
      exact hsame
  | cruiseWatch look =>
    simp only [RouteExecutor.step, RouteExecutor.cruiseWatch]
    rw [if_pos (.inl hnotRunning)]
    exact hsame
  | cruiseComplete onward =>
    simp only [RouteExecutor.step, RouteExecutor.cruiseComplete]
    rw [if_pos (.inr (.inl hnotRunning))]
    exact hstays _ rfl rfl
  | pause operator =>
    simp only [RouteExecutor.step, RouteExecutor.pause]
    rw [if_pos hended]
    exact hsame
  | stop final =>
    simp only [RouteExecutor.step]
    split_ifs with hfinal
    · exact .inr (settled_of_ended hsound hfinal)
    · exact hsame
  | reconcile final =>
    simp only [RouteExecutor.step]
    split_ifs with hfinal
    · exact .inr (settled_of_ended hsound hfinal)
    · exact hsame
  | restart started =>
    have hends : (s.restart started).state.isTerminal = true := by
      unfold restart
      rw [if_pos hended]
      exact hended
    have hkept : (s.restart started).core.Sound :=
      ⟨hsound.right, hsound.noError, by simp [core, restart]⟩
    exact .inr (settled_of_ended hkept hends)

theorem Inv.step (h : s.Inv) (a : Step) (hcareful : s.Careful a) : (s.step a).Inv := by
  rcases h with hwaiting | ⟨hsound, hended | ⟨segs, lo, hi, hroute⟩⟩
  · exact hwaiting.step a hcareful
  · exact Ended.step hsound hended a hcareful
  · exact hroute.step a hcareful

/-! ## Runs -/

/-- Every goal of the run was right, and no dispatch has indexed an empty batch or a missing segment. -/
def RightSubmap (steps : List Step) : Prop :=
  (∀ g ∈ (Run.exec RouteExecutor.step {} steps).sent, g.Right)
    ∧ (Run.exec RouteExecutor.step {} steps).indexError = false

/-- **The right submap is loaded** in every run none of whose steps loses the segment. -/
theorem rightSubmap_of_careful (steps : List Step)
    (h : Run.Always RouteExecutor.step Careful {} steps) : RightSubmap steps := by
  have hinv : (Run.exec RouteExecutor.step {} steps).Inv :=
    Run.exec_invariant_of_always Inv (fun _ a hs hcareful => hs.step a hcareful) Inv.initial h
  exact ⟨hinv.sound.right, hinv.sound.noError⟩

/-! ## A run of either kind -/

theorem keepsTo_quiet (waypoints : List RouteWaypoint) (running : Prop) (lo hi : ℕ) :
    ({} : Look).KeepsTo waypoints running lo hi where
  passed := fun _ _ => ⟨rfl, fun hnear => absurd hnear (by simp)⟩
  colocated := fun _ _ => rfl
  turned := fun _ _ _ => rfl

theorem recorded_of_built {segs : List RouteSegment} {seg : RouteSegment} {i : ℕ}
    (hbuilt : RoamerX.buildSegments s.waypoints s.submaps = .ok segs)
    (hseg : segs[s.currentSegmentIndex]? = some seg) (hlength : i < s.waypoints.length)
    (hin : seg.startIndex ≤ i ∧ i < seg.endIndex) : s.Recorded i := by
  refine ⟨hlength, ?_⟩
  intro segs' hbuilt' seg' hseg'
  obtain rfl : segs = segs' := Except.ok.inj (hbuilt.symm.trans hbuilt')
  obtain rfl : seg = seg' := Option.some.inj (hseg.symm.trans hseg')
  exact hin

def hallAndYard : RouteStart where
  waypoints := [⟨0, 0, "hall", false⟩, ⟨9, 0, "yard", false⟩]
  nonempty := by simp
  submaps := [{ submapId := "hall", localMapDir := "/maps/hall" },
    { submapId := "yard", localMapDir := "/maps/yard" }]

/-- The start of a task, and its arrivals at two waypoints. -/
def drive (c : RouteStart) : List Step :=
  [.prepare c 0, .startup (.ok ()), .launch (.ok ()) fun _ => {},
    .result (.accepted false false false) {}, .result (.accepted false false false) {}]

/-- The task drives from the hall into the yard. -/
theorem rightSubmap_hallAndYard :
    RightSubmap (drive hallAndYard)
      ∧ (Run.exec RouteExecutor.step {} (drive hallAndYard)).sent.map
          (fun g => (g.waypointIndex, g.segmentIndex, g.submapId))
        = [(0, 0, "hall"), (1, 1, "yard")] := by
  refine ⟨rightSubmap_of_careful _ ?_, by decide⟩
  have hbuilt : RoamerX.buildSegments hallAndYard.waypoints hallAndYard.submaps =
      .ok [⟨"hall", 0, 1, some { submapId := "hall", localMapDir := "/maps/hall" }⟩,
        ⟨"yard", 1, 2, some { submapId := "yard", localMapDir := "/maps/yard" }⟩] := by
    decide
  have hquiet : ∀ (t : RouteExecutor) (running : Prop) (i : ℕ),
      t.KeepsFrom running (fun _ => {}) i :=
    fun t running i segs _ seg _ _ _ leg => keepsTo_quiet _ _ _ _
  have honward : ∀ (t : RouteExecutor) (i : ℕ), t.loopTotal ≤ t.roundNumber →
      t.KeepsOnward {} i := by
    intro t i hround
    refine ⟨fun _ => hquiet t True (i + 1), ?_⟩
    intro _ hmore
    omega
  refine ⟨.inl rfl, trivial, hquiet _ _ _, ?_, ?_, trivial⟩
  · intro _ _
    refine ⟨.inl (by decide), ?_⟩
    rw [if_neg (by decide)]
    exact ⟨recorded_of_built hbuilt rfl (by decide) (by decide),
      honward _ _ (by decide)⟩
  · intro _ _
    refine ⟨.inl (by decide), ?_⟩
    rw [if_neg (by decide)]
    exact ⟨recorded_of_built hbuilt rfl (by decide) (by decide),
      honward _ _ (by decide)⟩

/-- The first waypoint of the second round goes out in the segment of the yard. -/
theorem not_rightSubmap_twoRounds : ¬ RightSubmap (drive { hallAndYard with loopTotal := 2 }) := by
  rintro ⟨hright, -⟩
  have hgoal : (Run.exec RouteExecutor.step {} (drive { hallAndYard with loopTotal := 2 })).sent[2]?
      = some ⟨0, 1, "yard", hallAndYard.waypoints, hallAndYard.submaps⟩ := by decide
  have hbuilt : RoamerX.buildSegments hallAndYard.waypoints hallAndYard.submaps =
      .ok [⟨"hall", 0, 1, some { submapId := "hall", localMapDir := "/maps/hall" }⟩,
        ⟨"yard", 1, 2, some { submapId := "yard", localMapDir := "/maps/yard" }⟩] := by
    decide
  obtain ⟨⟨seg, hseg, hstart, -⟩, -⟩ :=
    hright _ (List.mem_of_getElem? hgoal) _ (by decide) hbuilt
  obtain rfl := Option.some.inj hseg
  exact absurd hstart (by decide)

end RouteExecutor

end RoamerX
