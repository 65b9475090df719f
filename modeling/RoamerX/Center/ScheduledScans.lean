import RoamerX.Center.Scheduler

set_option autoImplicit false

/-! # Scans of the patrol calendar

What a scan does to a robot, what it does to all of them, and runs of scans, operators and the rest of the
center. A scan works on the groups in turn, and what `trigger` raises ends it. -/

namespace RoamerX

namespace PatrolCalendar

open Sweep

variable {ι : Type*}

/-! ## The group of a robot -/

section RecordSkips

variable {chosen : PatrolSchedule ι} {minute : ℕ} {skipped : List (PatrolSchedule ι)} {plan : RobotPlan}
  {k : ℕ × ℕ}

theorem recordSkips_frame (hk : k ∉ skipped.map fun s => (s.id, minute)) :
    (recordSkips chosen minute skipped plan).center = plan.center ∧
      (recordSkips chosen minute skipped plan).statusOffline = plan.statusOffline ∧
      (recordSkips chosen minute skipped plan).issued = plan.issued ∧
      (recordSkips chosen minute skipped plan).run? k = plan.run? k := by
  induction skipped generalizing plan with
  | nil => exact ⟨rfl, rfl, rfl, rfl⟩
  | cons s skipped ih =>
    rw [List.map_cons, List.mem_cons, not_or] at hk
    obtain ⟨hcenter, hoffline, hissued, hrun⟩ :=
      @ih (plan.recordSkip (s.id, minute) (skipReason chosen s)) hk.2
    refine ⟨?_, ?_, ?_, ?_⟩
    · exact hcenter.trans (plan.recordSkip_center _ _)
    · exact hoffline.trans (plan.recordSkip_statusOffline _ _)
    · exact hissued.trans (plan.recordSkip_issued _ _)
    · exact hrun.trans ((plan.recordSkip_settles _ _).others k hk.1)

theorem recordSkips_kept (h : plan.pending k = false) :
    (recordSkips chosen minute skipped plan).pending k = false := by
  induction skipped generalizing plan with
  | nil => exact h
  | cons s skipped ih => exact ih ((plan.recordSkip_settles _ _).kept h)

theorem recordSkips_settled {s : PatrolSchedule ι} (hs : s ∈ skipped) :
    (recordSkips chosen minute skipped plan).pending (s.id, minute) = false := by
  induction skipped generalizing plan with
  | nil => exact absurd hs List.not_mem_nil
  | cons t skipped ih =>
    rcases List.mem_cons.mp hs with rfl | hmem
    · change (recordSkips chosen minute skipped (plan.recordSkip _ _)).pending _ = false
      exact recordSkips_kept (plan.recordSkip_settles _ _).settled
    · exact ih hmem

theorem recordSkips_of_settled (h : ∀ s ∈ skipped, plan.pending (s.id, minute) = false) :
    recordSkips chosen minute skipped plan = plan := by
  induction skipped generalizing plan with
  | nil => rfl
  | cons s skipped ih =>
    rw [List.forall_mem_cons] at h
    change recordSkips chosen minute skipped (plan.recordSkip (s.id, minute) _) = plan
    rw [plan.recordSkip_of_settled _ _ h.1]
    exact ih h.2

theorem recordSkips_inv (hinv : plan.Inv) (chosen : PatrolSchedule ι) (minute : ℕ)
    (skipped : List (PatrolSchedule ι)) : (recordSkips chosen minute skipped plan).Inv := by
  induction skipped generalizing plan with
  | nil => exact hinv
  | cons s skipped ih =>
    have htriggered : RobotPlan.Triggered (s.id, minute) plan
        (plan.recordSkip (s.id, minute) (skipReason chosen s)) :=
      .of_settles (plan.recordSkip_settles _ _) (plan.recordSkip_center _ _) (plan.recordSkip_issued _ _)
    exact ih (htriggered.inv hinv)

end RecordSkips

section Work

variable [DecidableEq ι] {f : Plans ι} {p : Scan} {i : ι} {plan : RobotPlan} {chosen : PatrolSchedule ι}

/-- The schedules of a group that are not triggered. -/
def Plans.skipped (f : Plans ι) (p : Scan) (i : ι) (chosen : PatrolSchedule ι) :
    List (PatrolSchedule ι) :=
  (f.group p.minute i).filter (·.id ≠ chosen.id)

theorem chosen_notMem_skipped :
    (chosen.id, p.minute) ∉ (f.skipped p i chosen).map fun s => (s.id, p.minute) := by
  intro hmem
  obtain ⟨s, hs, heq⟩ := List.mem_map.mp hmem
  have hne : s.id ≠ chosen.id := of_decide_eq_true (List.mem_filter.mp hs).2
  exact hne (Prod.mk.inj heq).1

theorem refused_recordSkips (fault : Bool) :
    (recordSkips chosen p.minute (f.skipped p i chosen) plan).Refused chosen p.minute fault ↔
      plan.Refused chosen p.minute fault := by
  obtain ⟨hcenter, hoffline, -, hrun⟩ :=
    @recordSkips_frame ι chosen p.minute (f.skipped p i chosen) plan (chosen.id, p.minute)
      chosen_notMem_skipped
  unfold RobotPlan.Refused RobotPlan.pending RobotPlan.offline RobotPlan.busy
  rw [hcenter, hoffline, hrun]

theorem raises_iff_refused (hinv : plan.Inv) (fault : Bool) :
    (∃ e, (recordSkips chosen p.minute (f.skipped p i chosen) plan).trigger chosen p.minute fault =
      .error e) ↔ plan.Refused chosen p.minute fault :=
  (RobotPlan.trigger_raises_iff (recordSkips_inv hinv _ _ _).valid).trans (refused_recordSkips fault)

theorem work_of_none (h : selected (f.group p.minute i) = none) : work f p i plan = (none, plan) := by
  unfold work
  rw [h]

theorem work_of_ok {plan' : RobotPlan} (h : selected (f.group p.minute i) = some chosen)
    (htrigger : (recordSkips chosen p.minute (f.skipped p i chosen) plan).trigger chosen p.minute
      (p.fault chosen.id) = .ok plan') :
    work f p i plan = (none, plan') := by
  unfold Plans.skipped at htrigger
  unfold work
  rw [h]
  dsimp only
  rw [htrigger]

theorem work_of_error {e : TriggerException} (h : selected (f.group p.minute i) = some chosen)
    (htrigger : (recordSkips chosen p.minute (f.skipped p i chosen) plan).trigger chosen p.minute
      (p.fault chosen.id) = .error e) :
    work f p i plan = (some e, recordSkips chosen p.minute (f.skipped p i chosen) plan) := by
  unfold Plans.skipped at htrigger ⊢
  unfold work
  rw [h]
  dsimp only
  rw [htrigger]

theorem work_keeps (hinv : plan.Inv) :
    (work f p i plan).2.Inv ∧
      ∃ new, new.length ≤ 1 ∧ (work f p i plan).2.issued = plan.issued ++ new := by
  cases h : selected (f.group p.minute i) with
  | none =>
    rw [work_of_none h]
    exact ⟨hinv, [], Nat.zero_le _, (List.append_nil _).symm⟩
  | some chosen =>
    have hskips := recordSkips_inv hinv chosen p.minute (f.skipped p i chosen)
    obtain ⟨-, -, hissued, -⟩ := @recordSkips_frame ι chosen p.minute (f.skipped p i chosen) plan
      (chosen.id, p.minute) chosen_notMem_skipped
    cases htrigger : (recordSkips chosen p.minute (f.skipped p i chosen) plan).trigger chosen p.minute
        (p.fault chosen.id) with
    | error e =>
      rw [work_of_error h htrigger]
      exact ⟨hskips, [], Nat.zero_le _, by rw [hissued, List.append_nil]⟩
    | ok plan' =>
      rw [work_of_ok h htrigger]
      have htriggered := RobotPlan.trigger_triggered htrigger
      refine ⟨htriggered.inv hskips, ?_⟩
      rcases htriggered.issued with hsame | ⟨-, execution, hnew⟩
      · exact ⟨[], Nat.zero_le _, by rw [hsame, hissued, List.append_nil]⟩
      · exact ⟨[_], le_rfl, by rw [hnew, hissued]⟩

/-- The group of the robot ends in an error that nobody expects. -/
def Plans.Refused (f : Plans ι) (p : Scan) (i : ι) (plan : RobotPlan) : Prop :=
  ∃ chosen, selected (f.group p.minute i) = some chosen ∧ plan.Refused chosen p.minute (p.fault chosen.id)

/-- The scan has nothing to do for the robot: its schedules are settled, but for one that is refused. -/
def Plans.Settled (f : Plans ι) (p : Scan) (i : ι) (plan : RobotPlan) : Prop :=
  ∀ chosen, selected (f.group p.minute i) = some chosen →
    (∀ s ∈ f.skipped p i chosen, plan.pending (s.id, p.minute) = false) ∧
      (plan.pending (chosen.id, p.minute) = false ∨ plan.Refused chosen p.minute (p.fault chosen.id))

theorem work_raises_iff (hinv : plan.Inv) : (work f p i plan).1 = none ↔ ¬f.Refused p i plan := by
  unfold Plans.Refused
  cases h : selected (f.group p.minute i) with
  | none =>
    rw [work_of_none h]
    exact iff_of_true rfl fun ⟨_, hchosen, _⟩ => nomatch hchosen
  | some chosen =>
    have hraises := @raises_iff_refused ι _ f p i plan chosen hinv (p.fault chosen.id)
    cases htrigger : (recordSkips chosen p.minute (f.skipped p i chosen) plan).trigger chosen p.minute
        (p.fault chosen.id) with
    | error e =>
      rw [work_of_error h htrigger]
      refine iff_of_false (fun h => nomatch h) (not_not.mpr ⟨chosen, rfl, ?_⟩)
      exact hraises.mp ⟨e, htrigger⟩
    | ok plan' =>
      rw [work_of_ok h htrigger]
      refine iff_of_true rfl ?_
      rintro ⟨_, hchosen, hrefused⟩
      obtain rfl := Option.some.inj hchosen
      obtain ⟨e, he⟩ := hraises.mpr hrefused
      exact nomatch htrigger.symm.trans he

theorem work_fixed_iff (hinv : plan.Inv) : (work f p i plan).2 = plan ↔ f.Settled p i plan := by
  unfold Plans.Settled
  cases h : selected (f.group p.minute i) with
  | none =>
    rw [work_of_none h]
    exact iff_of_true rfl fun _ hchosen => nomatch hchosen
  | some chosen =>
    have hraises := @raises_iff_refused ι _ f p i plan chosen hinv (p.fault chosen.id)
    constructor
    · intro hfixed chosen' hchosen
      obtain rfl := Option.some.inj hchosen
      cases htrigger : (recordSkips chosen p.minute (f.skipped p i chosen) plan).trigger chosen p.minute
          (p.fault chosen.id) with
      | error e =>
        rw [work_of_error h htrigger] at hfixed
        refine ⟨fun s hs => ?_, Or.inr (hraises.mp ⟨e, htrigger⟩)⟩
        rw [← hfixed]
        exact recordSkips_settled hs
      | ok plan' =>
        rw [work_of_ok h htrigger] at hfixed
        obtain rfl : plan' = plan := hfixed
        have htriggered := RobotPlan.trigger_triggered htrigger
        exact ⟨fun s hs => htriggered.toSettles.kept (recordSkips_settled hs), Or.inl htriggered.settled⟩
    · intro hsettled
      obtain ⟨hothers, hchosen⟩ := hsettled chosen rfl
      have hskips : recordSkips chosen p.minute (f.skipped p i chosen) plan = plan :=
        recordSkips_of_settled hothers
      rcases hchosen with hdone | hrefused
      · have htrigger := @RobotPlan.trigger_of_settled ι plan chosen p.minute (p.fault chosen.id) hdone
        rw [work_of_ok h (hskips.symm ▸ htrigger)]
        exact hskips
      · obtain ⟨e, he⟩ := hraises.mpr hrefused
        rw [work_of_error h he]
        exact hskips

end Work

/-! ## Scans -/

/-- The plans of every robot satisfy their invariant. -/
def Plans.Inv (f : Plans ι) : Prop := ∀ i, (f.robot i).Inv

/-- A center without schedules and runs. -/
def Plans.initial (robot : ι → Robot) : Plans ι where
  robot i := { center := CenterSystem.initial (robot i) }

theorem initial_inv (robot : ι → Robot) : (Plans.initial robot).Inv := fun i =>
  { valid := CenterSystem.initial_valid (robot i)
    issued_nodup := List.nodup_nil
    issued_settled := fun _ hx => absurd hx List.not_mem_nil }

section Scans

variable [DecidableEq ι]

structure AtMostOnceIsolated (f : Plans ι) (p : Scan) : Prop where
  /-- A schedule and a minute have at most one execution. -/
  once : ∀ i, (((f.dispatchDue p).robot i).issued.map Prod.fst).Nodup
  /-- The scan gives a robot at most one. -/
  single : ∀ i, ∃ new, new.length ≤ 1 ∧ ((f.dispatchDue p).robot i).issued = (f.robot i).issued ++ new
  /-- The due schedules of a robot are evaluated and dispatched as if the scan were about them alone. -/
  isolated : ∀ i ∈ f.robots p.minute,
    (f.dispatchDue p).robot i = (work f p i ((f.robot i).clocked p.now)).2

/-- Behind a robot whose work is refused, there is nothing to do for the others. -/
def Unhindered (f : Plans ι) (p : Scan) : Prop :=
  (f.robots p.minute).Pairwise fun i j =>
    f.Refused p i ((f.robot i).clocked p.now) → f.Settled p j ((f.robot j).clocked p.now)

theorem robots_nodup (f : Plans ι) (minute : ℕ) : (f.robots minute).Nodup :=
  List.nodup_reverse.mpr (List.nodup_dedup _)

theorem dispatchDue_robot (f : Plans ι) (p : Scan) (i : ι) :
    (f.dispatchDue p).robot i = (work f p i ((f.robot i).clocked p.now)).2 ∨
      (f.dispatchDue p).robot i = (f.robot i).clocked p.now := by
  by_cases hvisited : i ∈ visited (work f p) (fun i => (f.robot i).clocked p.now) (f.robots p.minute)
  · exact Or.inl (sweep_of_visited (robots_nodup f p.minute) hvisited)
  · exact Or.inr (sweep_of_not_visited (robots_nodup f p.minute) hvisited)

theorem dispatchDue_keeps {f : Plans ι} (hinv : f.Inv) (p : Scan) (i : ι) :
    ((f.dispatchDue p).robot i).Inv ∧
      ∃ new, new.length ≤ 1 ∧ ((f.dispatchDue p).robot i).issued = (f.robot i).issued ++ new := by
  have hclocked := (hinv i).clocked p.now
  rcases dispatchDue_robot f p i with hwork | hsame
  · rw [hwork]
    exact work_keeps hclocked
  · rw [hsame]
    exact ⟨hclocked, [], Nat.zero_le _, (List.append_nil _).symm⟩

theorem isolated_iff_unhindered {f : Plans ι} (hinv : f.Inv) (p : Scan) :
    AtMostOnceIsolated f p ↔ Unhindered f p := by
  have hclocked : ∀ i, ((f.robot i).clocked p.now).Inv := fun i => (hinv i).clocked p.now
  have hsweep := @sweep_eq_work_iff _ _ _ (work f p) (fun i => (f.robot i).clocked p.now)
    (f.robots p.minute) _ (robots_nodup f p.minute)
  have hpairs : Unhindered f p ↔ (f.robots p.minute).Pairwise fun i j =>
      (work f p i ((f.robot i).clocked p.now)).1 = none ∨
        (work f p j ((f.robot j).clocked p.now)).2 = (f.robot j).clocked p.now := by
    unfold Unhindered
    refine List.Pairwise.iff fun i j => ?_
    rw [work_raises_iff (hclocked i), work_fixed_iff (hclocked j), imp_iff_not_or]
  rw [hpairs, ← hsweep]
  constructor
  · intro h
    exact h.isolated
  · intro h
    exact
      { once := fun i => (dispatchDue_keeps hinv p i).1.issued_nodup
        single := fun i => (dispatchDue_keeps hinv p i).2
        isolated := h }

/-! ## Runs -/

/-- A scan, an operator who runs a schedule now, or what happens to the center and the calendar
    meanwhile. -/
inductive PlanLabel (ι : Type*)
  | scan (p : Scan)
  | runNow (s : PatrolSchedule ι) (now minute : ℕ) (fault : Bool)
  | center (i : ι) (input : CenterInput)
  | status (i : ι) (offline : Bool)
  | edit (schedules : List (PatrolSchedule ι)) (days : List CalendarDay)

/-- One label; a call that raises changes nothing but the clock. -/
def Plans.step (f : Plans ι) : PlanLabel ι → Plans ι
  | .scan p => f.dispatchDue p
  | .runNow s now minute fault =>
    let plan := (f.robot s.robot).clocked now
    match plan.trigger s minute fault with
    | .ok plan' => { f with robot := Function.update f.robot s.robot plan' }
    | .error _ => { f with robot := Function.update f.robot s.robot plan }
  | .center i input =>
    { f with robot := Function.update f.robot i { f.robot i with center := (f.robot i).center.step input } }
  | .status i offline =>
    { f with robot := Function.update f.robot i { f.robot i with statusOffline := offline } }
  | .edit schedules days => { f with schedules := schedules, days := days }

theorem Plans.Inv.update {f : Plans ι} (hinv : f.Inv) {i : ι} {plan : RobotPlan} (hplan : plan.Inv) :
    Plans.Inv { f with robot := Function.update f.robot i plan } := by
  intro j
  by_cases hji : j = i
  · subst hji
    change (Function.update f.robot j plan j).Inv
    rw [Function.update_self]
    exact hplan
  · change (Function.update f.robot i plan j).Inv
    rw [Function.update_of_ne hji]
    exact hinv j

theorem step_inv (f : Plans ι) (label : PlanLabel ι) (hinv : f.Inv) : (f.step label).Inv := by
  cases label with
  | scan p => exact fun i => (dispatchDue_keeps hinv p i).1
  | runNow s now minute fault =>
    have hclocked := (hinv s.robot).clocked now
    unfold Plans.step
    dsimp only
    cases htrigger : ((f.robot s.robot).clocked now).trigger s minute fault with
    | ok plan' => exact hinv.update ((RobotPlan.trigger_triggered htrigger).inv hclocked)
    | error e => exact hinv.update hclocked
  | center i input =>
    have hplan := hinv i
    exact hinv.update (hplan.of_runs (CenterSystem.step_keeps hplan.valid input).1 rfl rfl)
  | status i offline => exact hinv.update ((hinv i).of_runs (hinv i).valid rfl rfl)
  | edit schedules days => exact hinv

/-- What is promised of a step: no step gives a schedule and a minute two executions, and a scan isolates
    its robots. -/
def IsolatedStep (f : Plans ι) : PlanLabel ι → Prop
  | .scan p => AtMostOnceIsolated f p
  | label => ∀ i, (((f.step label).robot i).issued.map Prod.fst).Nodup

/-- No scan meets a robot that hinders another. -/
def UnhinderedStep (f : Plans ι) : PlanLabel ι → Prop
  | .scan p => Unhindered f p
  | _ => True

/-- **The scans of a run dispatch at most once and in isolation exactly where no refused robot stands before
    one that has something to do.** -/
theorem run_isolated_iff_unhindered (robot : ι → Robot) (labels : List (PlanLabel ι)) :
    Run.Always Plans.step IsolatedStep (Plans.initial robot) labels ↔
      Run.Always Plans.step UnhinderedStep (Plans.initial robot) labels := by
  refine Run.always_iff_of_invariant Plans.Inv (fun f label hinv => step_inv f label hinv) ?_
    (initial_inv robot) labels
  intro f label hinv
  have honce : ∀ i, (((f.step label).robot i).issued.map Prod.fst).Nodup :=
    fun i => (step_inv f label hinv i).issued_nodup
  cases label with
  | scan p => exact isolated_iff_unhindered hinv p
  | runNow s now minute fault => exact iff_of_true honce trivial
  | center i input => exact iff_of_true honce trivial
  | status i offline => exact iff_of_true honce trivial
  | edit schedules days => exact iff_of_true honce trivial

end Scans

/-! ### A robot with an empty battery -/

/-- Two robots, the first of them with an empty battery. -/
def robots (i : Bool) : Robot where
  id := if i then 2 else 1
  batteryLevel := if i then 100 else 10
  connectionStatus := .online
  lastSeenAt := some 0

/-- The corridor patrol of a robot, every day at eight. -/
def corridorSchedule (i : Bool) : PatrolSchedule Bool where
  id := if i then 2 else 1
  robot := i
  taskTemplate := corridorTask
  taskRouteId := some 1
  routeId := 1
  timeOfDay := 28800

theorem selected_singleton (s : PatrolSchedule ι) : selected [s] = some s := by
  unfold selected
  by_cases h : s.scheduleType = .holiday
  · simp [h]
  · simp [h]

/-- The patrol of the second robot is not dispatched, because that of the first is refused. -/
theorem empty_battery_ends_scan :
    ¬∀ (robot : Bool → Robot) (labels : List (PlanLabel Bool)),
      Run.Always Plans.step IsolatedStep (Plans.initial robot) labels := by
  intro hall
  set f := (Plans.initial robots).step (.edit [corridorSchedule false, corridorSchedule true] []) with hf
  set p : Scan := { now := 0, minute := 480 } with hp
  have hisolated : AtMostOnceIsolated f p := (hall robots [.edit _ _, .scan p]).2.1
  have hinv : f.Inv := step_inv _ _ (initial_inv robots)
  have hrobots : f.robots p.minute = [false, true] := by decide
  have hgroup : ∀ i, f.group p.minute i = [corridorSchedule i] := by
    intro i
    have hdue : dueSchedules f.schedules f.days p.minute =
        [corridorSchedule false, corridorSchedule true] := by
      simp [hf, hp, Plans.step, dueSchedules, corridorSchedule, PatrolSchedule.matchesDate]
    unfold Plans.group
    rw [hdue]
    cases i <;> rfl
  have hunhindered := (isolated_iff_unhindered hinv p).mp hisolated
  unfold Unhindered at hunhindered
  rw [hrobots, List.pairwise_pair] at hunhindered
  have hrefused : f.Refused p false ((f.robot false).clocked p.now) := by
    refine ⟨corridorSchedule false, ?_, by decide, by decide, rfl, rfl, rfl, Or.inr ?_⟩
    · rw [hgroup, selected_singleton]
    · decide
  have hselected : selected (f.group p.minute true) = some (corridorSchedule true) := by
    rw [hgroup, selected_singleton]
  rcases (hunhindered hrefused _ hselected).2 with hsettled | hrefused'
  · exact absurd hsettled (by decide)
  · rcases hrefused'.2.2.2.2.2 with hfault | ⟨-, hbattery⟩
    · exact nomatch hfault
    · exact absurd hbattery (by decide)

end PatrolCalendar

end RoamerX
