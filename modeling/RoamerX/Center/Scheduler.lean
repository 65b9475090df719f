import RoamerX.Center.System
import RoamerX.Lib.Sweep

set_option autoImplicit false

/-! # The patrol calendar

`ScheduleService` of `monitoring/services/schedule_service.py`: a scan collects the enabled schedules that
are due at a minute, groups them by robot, skips all but one of each group and triggers that one. A run row,
unique for a schedule and a minute, records what became of it. A schedule's route and task belong to its
robot, so a robot has its own rows. -/

namespace RoamerX

namespace PatrolCalendar

open Sweep

/-! ## Schedules and days -/

inductive ScheduleType
  | daily | holiday | once
  deriving DecidableEq

/-- `PatrolSchedule`. Dates count days from a Thursday, times of day are seconds. -/
structure PatrolSchedule (ι : Type*) where
  id : ℕ
  robot : ι
  taskTemplate : PatrolTask
  /-- `task_template.route_id`. -/
  taskRouteId : Option ℕ
  routeId : ℕ
  scheduleType : ScheduleType := .daily
  timeOfDay : ℕ
  weekdays : List ℕ := []
  runDate : Option ℕ := none
  priority : ℤ := 10
  enabled : Bool := true

/-- `CalendarDay.day_type`, and the type of a day that is not in the calendar. -/
inductive DayType
  | normal | holiday | workday | eventDay
  deriving DecidableEq

structure CalendarDay where
  date : ℕ
  dayType : DayType := .holiday
  enabled : Bool := true
  deriving DecidableEq

def isoweekday (date : ℕ) : ℕ := (date + 3) % 7 + 1

/-- `day_meta(date)["day_type"]`. -/
def dayType (days : List CalendarDay) (date : ℕ) : DayType :=
  match days.find? (fun day => day.date = date && day.enabled) with
  | none => .normal
  | some special => special.dayType

variable {ι : Type*}

/-- `schedule_matches_date`. -/
def PatrolSchedule.matchesDate (s : PatrolSchedule ι) (date : ℕ) (day : DayType) : Bool :=
  if s.scheduleType = .once then s.runDate = some date
  else if s.weekdays ≠ [] ∧ isoweekday date ∉ s.weekdays then false
  else if s.scheduleType = .holiday then day = .holiday || day = .eventDay
  else s.scheduleType = .daily

/-- `due_schedules`, of the schedules in the order of the query. A minute counts from the beginning of a
    day. -/
def dueSchedules (schedules : List (PatrolSchedule ι)) (days : List CalendarDay) (minute : ℕ) :
    List (PatrolSchedule ι) :=
  let date := minute / 1440
  schedules.filter fun s =>
    s.enabled && s.timeOfDay = minute % 1440 * 60 && s.matchesDate date (dayType days date)

/-- The order of `(-priority, id)`. -/
def before (a b : PatrolSchedule ι) : Bool :=
  decide (b.priority < a.priority) || (a.priority = b.priority && decide (a.id ≤ b.id))

/-- `effective[0]`. -/
def selected (group : List (PatrolSchedule ι)) : Option (PatrolSchedule ι) :=
  let holiday := group.filter (·.scheduleType = .holiday)
  let effective := if holiday = [] then group else holiday
  (effective.mergeSort before).head?

/-! ## The rows of a robot -/

/-- `ScheduleRun.status`. -/
inductive RunStatus
  | created | dispatched | skipped | failed
  deriving DecidableEq

structure ScheduleRun where
  schedule : ℕ
  plannedStartAt : ℕ
  triggeredAt : ℕ
  status : RunStatus
  skipReason : String := ""
  errorMessage : String := ""
  taskExecution : Option Uuid := none
  remoteCommand : Option Uuid := none
  deriving DecidableEq

/-- `uniq_schedule_planned_start`. -/
def ScheduleRun.key (run : ScheduleRun) : ℕ × ℕ := (run.schedule, run.plannedStartAt)

/-- What the center keeps of a robot and of the runs of its schedules. `issued` remembers each execution
    that was created for a schedule and a minute. -/
structure RobotPlan where
  center : CenterSystem
  /-- `Robot.status` is `offline`. -/
  statusOffline : Bool := false
  runs : List ScheduleRun := []
  issued : List ((ℕ × ℕ) × Uuid) := []

namespace RobotPlan

def run? (plan : RobotPlan) (key : ℕ × ℕ) : Option ScheduleRun := Rows.get? ScheduleRun.key plan.runs key

/-- The schedule has no run at the minute yet, or one that is only created. -/
def pending (plan : RobotPlan) (key : ℕ × ℕ) : Bool :=
  (plan.run? key).all fun run => run.status = .created

def getOrCreate (plan : RobotPlan) (defaults : ScheduleRun) : RobotPlan × ScheduleRun :=
  match plan.run? defaults.key with
  | some run => (plan, run)
  | none => ({ plan with runs := plan.runs ++ [defaults] }, defaults)

def save (plan : RobotPlan) (run : ScheduleRun) : RobotPlan :=
  { plan with runs := Rows.put ScheduleRun.key plan.runs run }

/-- Set the fields of a run that ends without a dispatch, and save it. -/
def conclude (plan : RobotPlan) (run : ScheduleRun) (status : RunStatus) (reason message : String) :
    RobotPlan :=
  plan.save { run with
    status := status, skipReason := reason, errorMessage := message, triggeredAt := plan.center.db.now }

def recordSkip (plan : RobotPlan) (key : ℕ × ℕ) (reason : String) : RobotPlan :=
  let (plan, run) := plan.getOrCreate
    { schedule := key.1
      plannedStartAt := key.2
      triggeredAt := plan.center.db.now
      status := .skipped
      skipReason := reason }
  if run.status = .created then plan.conclude run .skipped reason "" else plan

/-- The robot of a schedule is not there. -/
def offline (plan : RobotPlan) : Bool :=
  plan.statusOffline || plan.center.db.robot.effectiveConnectionStatus plan.center.db.now = .offline

def busy (plan : RobotPlan) : Bool := plan.center.db.executions.any fun e => e.state.isActive

end RobotPlan

/-- What `trigger` raises. -/
inductive TriggerException
  | service (error : ServiceError)
  /-- Anything else, as of the database. -/
  | other
  deriving DecidableEq

namespace RobotPlan

/-- The execution of a run, and what its creation leaves in the center. -/
def issue (plan : RobotPlan) (run : ScheduleRun) (db : CenterDb) (execution : Uuid) : RobotPlan :=
  { plan with
    center := { plan.center with db := db }
    issued := plan.issued ++ [(run.key, execution)] }

/-- The end of `trigger`, from the creation of the execution on. `fault` is an error from outside. -/
def dispatch (plan : RobotPlan) (s : PatrolSchedule ι) (run : ScheduleRun) (fault : Bool) :
    Except TriggerException RobotPlan :=
  if fault then .error .other
  else
    match plan.center.db.createExecution s.taskTemplate none 1 none "scheduler" with
    | .error (.taskState code) => .ok (plan.conclude run .failed code code)
    | .error e => .error (.service e)
    | .ok (created, execution) =>
      match created.createCommand execution.id .taskStart {} with
      -- the execution was created in a transaction of its own, which stays
      | .error (.taskState code) => .ok ((plan.issue run created execution.id).conclude run .failed code code)
      | .error e => .error (.service e)
      | .ok (commanded, command) =>
        .ok ((plan.issue run commanded execution.id).save
          { run with
            status := .dispatched
            taskExecution := some execution.id
            remoteCommand := some command.id
            triggeredAt := commanded.now })

/-- `trigger`. What raises is rolled back. -/
def trigger (plan : RobotPlan) (s : PatrolSchedule ι) (minute : ℕ) (fault : Bool) :
    Except TriggerException RobotPlan :=
  let (plan, run) := plan.getOrCreate
    { schedule := s.id, plannedStartAt := minute, triggeredAt := plan.center.db.now, status := .created }
  if run.status ≠ .created then .ok plan
  else if plan.offline then
    .ok (plan.conclude run .failed "ROBOT_OFFLINE" "机器人离线，无法下发计划任务")
  else if s.taskTemplate.enabled = false then
    .ok (plan.conclude run .skipped "TASK_DISABLED" "任务模板已停用，计划不自动下发")
  else if s.taskRouteId ≠ some s.routeId then
    .ok (plan.conclude run .failed "INVALID_CONFIG" "MVP 阶段计划路线必须与任务模板路线一致")
  else if plan.busy then .ok (plan.conclude run .skipped "ROBOT_BUSY" "机器人已有巡检任务运行")
  else plan.dispatch s run fault

end RobotPlan

/-! ## A scan -/

/-- The schedules, the calendar and the rows of the robots. -/
structure Plans (ι : Type*) where
  schedules : List (PatrolSchedule ι) := []
  days : List CalendarDay := []
  robot : ι → RobotPlan

/-- A call of `dispatch_due`: its time, the minute it is for, and the schedules whose work fails from
    outside. -/
structure Scan where
  now : ℕ
  minute : ℕ
  fault : ℕ → Bool := fun _ => false

def RobotPlan.clocked (plan : RobotPlan) (now : ℕ) : RobotPlan :=
  { plan with center := { plan.center with db := { plan.center.db with now := now } } }

section Scan

variable [DecidableEq ι]

/-- The schedules of a robot that are due. -/
def Plans.group (f : Plans ι) (minute : ℕ) (i : ι) : List (PatrolSchedule ι) :=
  (dueSchedules f.schedules f.days minute).filter (·.robot = i)

/-- The robots of the due schedules, in the order of their first schedule. -/
def Plans.robots (f : Plans ι) (minute : ℕ) : List ι :=
  ((dueSchedules f.schedules f.days minute).map (·.robot)).reverse.dedup.reverse

/-- The reason a schedule is skipped for. -/
def skipReason (chosen skipped : PatrolSchedule ι) : String :=
  if chosen.scheduleType = .holiday ∧ skipped.scheduleType = .daily then "holiday_override"
  else "lower_priority"

/-- The inner loop of `dispatch_due`. -/
def recordSkips (chosen : PatrolSchedule ι) (minute : ℕ) (skipped : List (PatrolSchedule ι))
    (plan : RobotPlan) : RobotPlan :=
  skipped.foldl (fun plan s => plan.recordSkip (s.id, minute) (skipReason chosen s)) plan

/-- The body of the loop of `dispatch_due` over the groups. -/
def work (f : Plans ι) (p : Scan) (i : ι) (plan : RobotPlan) : Option TriggerException × RobotPlan :=
  match selected (f.group p.minute i) with
  | none => (none, plan)
  | some chosen =>
    let plan := recordSkips chosen p.minute ((f.group p.minute i).filter (·.id ≠ chosen.id)) plan
    match plan.trigger chosen p.minute (p.fault chosen.id) with
    | .ok plan => (none, plan)
    | .error e => (some e, plan)

def Plans.dispatchDue (f : Plans ι) (p : Scan) : Plans ι :=
  { f with robot := (sweep (work f p) (f.robots p.minute) fun i => (f.robot i).clocked p.now).2 }

end Scan

/-! ## The runs of a robot -/

namespace RobotPlan

variable {plan plan' : RobotPlan} {key k : ℕ × ℕ} {run : ScheduleRun}

/-- The run of `key` is settled, and the other runs are as they were. -/
structure Settles (key : ℕ × ℕ) (plan plan' : RobotPlan) : Prop where
  settled : plan'.pending key = false
  others : ∀ k, k ≠ key → plan'.run? k = plan.run? k

theorem Settles.kept (h : Settles key plan plan') (hk : plan.pending k = false) :
    plan'.pending k = false := by
  by_cases hkey : k = key
  · rw [hkey]
    exact h.settled
  · unfold pending at hk ⊢
    rw [h.others k hkey]
    exact hk

theorem pending_eq_false :
    plan.pending key = false ↔ ∃ run, plan.run? key = some run ∧ run.status ≠ .created := by
  unfold pending
  cases plan.run? key with
  | none => exact iff_of_false (fun h => nomatch h) fun ⟨_, h, _⟩ => nomatch h
  | some run =>
    rw [Option.all_some, decide_eq_false_iff_not]
    constructor
    · intro hstatus
      exact ⟨run, rfl, hstatus⟩
    · rintro ⟨run', hrun, hstatus⟩
      rw [Option.some.inj hrun]
      exact hstatus

section GetOrCreate

variable (plan : RobotPlan) (d : ScheduleRun)

@[simp] theorem getOrCreate_center : (plan.getOrCreate d).1.center = plan.center := by
  unfold getOrCreate
  split <;> rfl

@[simp] theorem getOrCreate_statusOffline :
    (plan.getOrCreate d).1.statusOffline = plan.statusOffline := by
  unfold getOrCreate
  split <;> rfl

@[simp] theorem getOrCreate_issued : (plan.getOrCreate d).1.issued = plan.issued := by
  unfold getOrCreate
  split <;> rfl

theorem run?_getOrCreate_self : (plan.getOrCreate d).1.run? d.key = some (plan.getOrCreate d).2 := by
  unfold getOrCreate
  cases hrun : plan.run? d.key with
  | some run => exact hrun
  | none => exact Rows.get?_insert_self _ hrun

theorem run?_getOrCreate_ne (h : k ≠ d.key) : (plan.getOrCreate d).1.run? k = plan.run? k := by
  unfold getOrCreate
  cases hrun : plan.run? d.key with
  | some run => rfl
  | none => exact Rows.get?_insert_ne _ (Ne.symm h)

theorem getOrCreate_key : (plan.getOrCreate d).2.key = d.key :=
  Rows.get?_key _ (run?_getOrCreate_self plan d)

theorem getOrCreate_of_settled (h : plan.pending d.key = false) :
    ∃ run, plan.getOrCreate d = (plan, run) ∧ run.status ≠ .created := by
  obtain ⟨run, hrun, hstatus⟩ := pending_eq_false.mp h
  refine ⟨run, ?_, hstatus⟩
  unfold getOrCreate
  rw [hrun]

theorem getOrCreate_of_pending (h : plan.pending d.key = true) (hd : d.status = .created) :
    (plan.getOrCreate d).2.status = .created := by
  unfold pending at h
  unfold getOrCreate
  cases hrun : plan.run? d.key with
  | none => exact hd
  | some run =>
    rw [hrun, Option.all_some, decide_eq_true_iff] at h
    exact h

end GetOrCreate

theorem save_settles {old : ScheduleRun} (hold : plan.run? key = some old) (hkey : run.key = key)
    (hstatus : run.status ≠ .created) : Settles key plan (plan.save run) := by
  subst hkey
  exact
    { settled := pending_eq_false.mpr ⟨run, Rows.get?_put_self _ hold, hstatus⟩
      others := fun _ hk => Rows.get?_put_ne _ hk }

theorem conclude_settles {old : ScheduleRun} {status : RunStatus} (hold : plan.run? key = some old)
    (hkey : run.key = key) (hstatus : status ≠ .created) (reason message : String) :
    Settles key plan (plan.conclude run status reason message) :=
  save_settles hold hkey hstatus

theorem Settles.after_getOrCreate {d : ScheduleRun}
    (h : Settles d.key (plan.getOrCreate d).1 plan') : Settles d.key plan plan' where
  settled := h.settled
  others k hk := by rw [h.others k hk, run?_getOrCreate_ne plan d hk]

/-! ## Skips -/

section RecordSkip

variable (plan : RobotPlan) (key : ℕ × ℕ) (reason : String)

theorem recordSkip_settles : Settles key plan (plan.recordSkip key reason) := by
  unfold recordSkip
  set d : ScheduleRun :=
    { schedule := key.1, plannedStartAt := key.2, triggeredAt := plan.center.db.now, status := .skipped,
      skipReason := reason }
  have hrun : (plan.getOrCreate d).1.run? key = some (plan.getOrCreate d).2 := run?_getOrCreate_self plan d
  dsimp only
  refine Settles.after_getOrCreate (d := d) ?_
  split
  · exact conclude_settles hrun (getOrCreate_key plan d) (by decide) _ _
  · next hstatus =>
    exact { settled := pending_eq_false.mpr ⟨_, hrun, hstatus⟩, others := fun _ _ => rfl }

theorem recordSkip_center : (plan.recordSkip key reason).center = plan.center := by
  unfold recordSkip
  dsimp only
  split
  · exact getOrCreate_center plan _
  · exact getOrCreate_center plan _

theorem recordSkip_statusOffline : (plan.recordSkip key reason).statusOffline = plan.statusOffline := by
  unfold recordSkip
  dsimp only
  split
  · exact getOrCreate_statusOffline plan _
  · exact getOrCreate_statusOffline plan _

theorem recordSkip_issued : (plan.recordSkip key reason).issued = plan.issued := by
  unfold recordSkip
  dsimp only
  split
  · exact getOrCreate_issued plan _
  · exact getOrCreate_issued plan _

theorem recordSkip_of_settled (h : plan.pending key = false) : plan.recordSkip key reason = plan := by
  obtain ⟨run, hget, hstatus⟩ := getOrCreate_of_settled plan
    { schedule := key.1, plannedStartAt := key.2, triggeredAt := plan.center.db.now, status := .skipped,
      skipReason := reason } h
  unfold recordSkip
  rw [hget]
  exact if_neg hstatus

end RecordSkip

end RobotPlan

/-! ## Creating the work -/

/-- A task of which an execution can be created. -/
def startable (task : PatrolTask) : Bool :=
  match task.route with
  | none => false
  | some route =>
    match route.snapshot with
    | .error _ => false
    | .ok snapshot =>
      (validateRouteAgainstMap route.mapData.constraints
        ((route.mapData.sceneScope.orElse route.sceneScope).orElse .indoor) snapshot.waypoints).isNone

section Create

variable {db db' : CenterDb} {task : PatrolTask}

theorem createExecution_of_not_startable (h : startable task = false) :
    ∃ code, db.createExecution task none 1 none "scheduler" = .error (.taskState code) := by
  unfold CenterDb.createExecution
  split
  · exact ⟨_, rfl⟩
  · split
    · exact ⟨_, rfl⟩
    · unfold startable at h
      cases hroute : task.route with
      | none => exact ⟨_, rfl⟩
      | some route =>
        rw [hroute] at h
        dsimp only [Option.elim_none] at h ⊢
        cases hsnapshot : route.snapshot with
        | error code => exact ⟨_, rfl⟩
        | ok snapshot =>
          rw [hsnapshot] at h
          dsimp only at h ⊢
          cases hvalidate : validateRouteAgainstMap route.mapData.constraints
              ((route.mapData.sceneScope.orElse route.sceneScope).orElse .indoor) snapshot.waypoints with
          | some code => exact ⟨_, rfl⟩
          | none =>
            rw [hvalidate] at h
            exact nomatch h

theorem createExecution_of_startable (hv : db.Valid)
    (hidle : (db.executions.any fun e => e.state.isActive) = false) (henabled : task.enabled = true)
    (h : startable task = true) :
    ∃ r, db.createExecution task none 1 none "scheduler" = .ok r := by
  unfold startable at h
  unfold CenterDb.createExecution
  rw [if_neg (by rw [hidle]; decide), if_neg (by rw [henabled]; decide)]
  cases hroute : task.route with
  | none =>
    rw [hroute] at h
    exact nomatch h
  | some route =>
    rw [hroute] at h
    dsimp only [Option.elim_none] at h ⊢
    cases hsnapshot : route.snapshot with
    | error code =>
      rw [hsnapshot] at h
      exact nomatch h
    | ok snapshot =>
      rw [hsnapshot] at h
      dsimp only at h ⊢
      rw [Option.isNone_iff_eq_none.mp h]
      dsimp only
      rw [if_neg (by rintro ⟨hkey, -⟩; exact nomatch hkey), CenterDb.createEvent_succeeds ?_ rfl]
      · exact ⟨_, rfl⟩
      · intro old hold
        -- an event of an execution that has just been drawn cannot be there
        have hfresh := hv.event_execution old hold
        rw [TaskExecutionEvent.sameVersion, decide_eq_false hfresh.ne]
        rfl

theorem createCommand_of_allowed (hv : db.Valid) {e : TaskExecution} (he : db.execution? e.id = some e)
    (hstate : e.state = .created) (hbattery : db.ensureBatteryAllows .taskStart false = none) :
    ∃ r, db.createCommand e.id .taskStart {} = .ok r := by
  have hid : e.id < db.nextUuid := hv.execution_fresh e (CenterDb.execution?_mem he)
  set inserted := (db.insertCommand (some e.id) .taskStart (commandPayload e .taskStart {}).1
    (commandPayload e .taskStart {}).2).1 with hinserted
  have hvalid : inserted.Valid :=
    hv.insertCommand (fun y hy => by rw [← Option.some.inj hy]; exact hid)
  have hlocked : inserted.execution? e.id = some e := he
  have htransition : inserted.transition e.id .dispatching { eventType := .requested .taskStart } =
      .ok (inserted.afterTransition e .dispatching { eventType := .requested .taskStart }) := by
    refine CenterDb.transition_succeeds hlocked ?_ (Int.lt_add_one_iff.mpr le_rfl) ?_ rfl
    · rw [hstate]
      decide
    · exact hvalid.no_collision hlocked (Int.lt_add_one_iff.mpr le_rfl)
  unfold CenterDb.createCommand
  rw [he, commandTargetState]
  dsimp only
  rw [hbattery]
  dsimp only
  rw [if_neg (by decide), ← hinserted, htransition]
  exact ⟨_, rfl⟩

theorem createCommand_of_refused {e : TaskExecution} (he : db.execution? e.id = some e) {message : String}
    (hbattery : db.ensureBatteryAllows .taskStart false = some message) :
    db.createCommand e.id .taskStart {} = .error (.permissionDenied message) := by
  unfold CenterDb.createCommand
  rw [he, commandTargetState]
  dsimp only
  rw [hbattery]

end Create

/-! ## A trigger -/

namespace RobotPlan

variable {plan plan' : RobotPlan} {key k : ℕ × ℕ} {run : ScheduleRun} {s : PatrolSchedule ι}
  {minute : ℕ} {fault : Bool}

/-- What a trigger that does not raise leaves. -/
structure Triggered (key : ℕ × ℕ) (plan plan' : RobotPlan) : Prop extends Settles key plan plan' where
  valid : plan.center.db.Valid → plan'.center.db.Valid
  /-- Only a run that was pending gets an execution. -/
  issued : plan'.issued = plan.issued ∨
    plan.pending key = true ∧ ∃ execution, plan'.issued = plan.issued ++ [(key, execution)]

theorem Triggered.of_settles (h : Settles key plan plan') (hcenter : plan'.center = plan.center)
    (hissued : plan'.issued = plan.issued) : Triggered key plan plan' :=
  { h with
    valid := fun hv => hcenter.symm ▸ hv
    issued := Or.inl hissued }

theorem Triggered.of_issue {db : CenterDb} {execution : Uuid} (hkey : run.key = key)
    (hpending : plan.pending key = true) (hvalid : plan.center.db.Valid → db.Valid)
    (h : Settles key (plan.issue run db execution) plan')
    (hcenter : plan'.center = (plan.issue run db execution).center)
    (hissued : plan'.issued = (plan.issue run db execution).issued) : Triggered key plan plan' where
  settled := h.settled
  others := h.others
  valid hv := by
    rw [hcenter]
    exact hvalid hv
  issued := Or.inr ⟨hpending, execution, by rw [hissued, issue, hkey]⟩

theorem dispatch_triggered (hrun : plan.run? key = some run) (hkey : run.key = key)
    (hstatus : run.status = .created) (h : plan.dispatch s run fault = .ok plan') :
    Triggered key plan plan' := by
  have hpending : plan.pending key = true := by
    unfold pending
    rw [hrun, Option.all_some, decide_eq_true_iff]
    exact hstatus
  unfold dispatch at h
  split at h
  · exact nomatch h
  · cases hcreate : plan.center.db.createExecution s.taskTemplate none 1 none "scheduler" with
    | error e =>
      rw [hcreate] at h
      cases e with
      | taskState code =>
        obtain rfl := Except.ok.inj h
        exact .of_settles (conclude_settles hrun hkey (by decide) _ _) rfl rfl
      | _ => exact nomatch h
    | ok r =>
      obtain ⟨created, execution⟩ := r
      rw [hcreate] at h
      dsimp only at h
      have hcreated (hv : plan.center.db.Valid) := (CenterDb.createExecution_valid hv hcreate).1
      cases hcommand : created.createCommand execution.id .taskStart {} with
      | error e =>
        rw [hcommand] at h
        cases e with
        | taskState code =>
          obtain rfl := Except.ok.inj h
          have hissued : (plan.issue run created execution.id).run? key = some run := hrun
          exact .of_issue hkey hpending hcreated (conclude_settles hissued hkey (by decide) _ _) rfl rfl
        | _ => exact nomatch h
      | ok r =>
        obtain ⟨commanded, command⟩ := r
        rw [hcommand] at h
        obtain rfl := Except.ok.inj h
        have hcommanded (hv : plan.center.db.Valid) :=
          (CenterDb.createCommand_valid (hcreated hv) hcommand).1
        have hissued : (plan.issue run commanded execution.id).run? key = some run := hrun
        refine .of_issue hkey hpending hcommanded (save_settles hissued ?_ (fun h => nomatch h)) rfl rfl
        exact hkey

theorem dispatch_raises_iff (hv : plan.center.db.Valid) (hidle : plan.busy = false)
    (henabled : s.taskTemplate.enabled = true) :
    (∃ e, plan.dispatch s run fault = .error e) ↔
      fault = true ∨ startable s.taskTemplate = true ∧
        (plan.center.db.ensureBatteryAllows .taskStart false).isSome = true := by
  unfold dispatch
  cases fault with
  | true =>
    rw [if_pos rfl]
    exact iff_of_true ⟨_, rfl⟩ (Or.inl rfl)
  | false =>
    rw [if_neg (by decide)]
    cases hstart : startable s.taskTemplate with
    | false =>
      obtain ⟨code, hcode⟩ := @createExecution_of_not_startable plan.center.db _ hstart
      rw [hcode]
      exact iff_of_false (fun ⟨_, h⟩ => nomatch h) (by simp)
    | true =>
      obtain ⟨⟨created, execution⟩, hcreate⟩ := createExecution_of_startable hv hidle henabled hstart
      rw [hcreate]
      obtain ⟨hcreated, -, hfound⟩ := CenterDb.createExecution_valid hv hcreate
      obtain ⟨-, hstate, -, -, -, -, -, -, ev, -, -, -, rfl⟩ := CenterDb.createExecution_ok hcreate
      dsimp only at hfound ⊢
      cases hbattery : plan.center.db.ensureBatteryAllows .taskStart false with
      | none =>
        obtain ⟨⟨commanded, command⟩, hcommand⟩ :=
          createCommand_of_allowed hcreated hfound hstate hbattery
        rw [hcommand]
        exact iff_of_false (fun ⟨_, h⟩ => nomatch h) (by simp)
      | some message =>
        rw [createCommand_of_refused hfound hbattery]
        exact iff_of_true ⟨_, rfl⟩ (Or.inr ⟨rfl, rfl⟩)

theorem trigger_triggered (h : plan.trigger s minute fault = .ok plan') :
    Triggered (s.id, minute) plan plan' := by
  unfold trigger at h
  set d : ScheduleRun :=
    { schedule := s.id, plannedStartAt := minute, triggeredAt := plan.center.db.now, status := .created }
  have hrun : (plan.getOrCreate d).1.run? d.key = some (plan.getOrCreate d).2 := run?_getOrCreate_self plan d
  have hkey : (plan.getOrCreate d).2.key = d.key := getOrCreate_key plan d
  -- what holds of the row that is got or created holds of the plan before
  have hopened : ∀ {plan'}, Triggered d.key (plan.getOrCreate d).1 plan' →
      (plan.getOrCreate d).2.status = .created → Triggered d.key plan plan' := by
    intro plan' htriggered hstatus
    refine { htriggered.toSettles.after_getOrCreate with valid := ?_, issued := ?_ }
    · intro hv
      exact htriggered.valid (by rwa [getOrCreate_center])
    · rw [← getOrCreate_issued plan d]
      refine htriggered.issued.imp_right fun ⟨_, hissued⟩ => ⟨?_, hissued⟩
      by_contra hsettled
      obtain ⟨run, hget, hconcluded⟩ := getOrCreate_of_settled plan d (Bool.eq_false_iff.mpr hsettled)
      rw [hget] at hstatus
      exact hconcluded hstatus
  dsimp only at h
  by_cases hstatus : (plan.getOrCreate d).2.status = .created
  · rw [if_neg (not_not.mpr hstatus)] at h
    refine hopened ?_ hstatus
    have hconclude : ∀ {status : RunStatus} (reason message : String), status ≠ .created →
        Triggered d.key (plan.getOrCreate d).1
          ((plan.getOrCreate d).1.conclude (plan.getOrCreate d).2 status reason message) := by
      intro status reason message hne
      exact .of_settles (conclude_settles hrun hkey hne _ _) rfl rfl
    split at h
    · obtain rfl := Except.ok.inj h
      exact hconclude _ _ (by decide)
    · split at h
      · obtain rfl := Except.ok.inj h
        exact hconclude _ _ (by decide)
      · split at h
        · obtain rfl := Except.ok.inj h
          exact hconclude _ _ (by decide)
        · split at h
          · obtain rfl := Except.ok.inj h
            exact hconclude _ _ (by decide)
          · exact dispatch_triggered hrun hkey hstatus h
  · rw [if_pos hstatus] at h
    obtain rfl := Except.ok.inj h
    have hsettles : Settles d.key (plan.getOrCreate d).1 (plan.getOrCreate d).1 :=
      { settled := pending_eq_false.mpr ⟨_, hrun, hstatus⟩, others := fun _ _ => rfl }
    exact .of_settles hsettles.after_getOrCreate (getOrCreate_center plan d) (getOrCreate_issued plan d)

theorem trigger_of_settled (h : plan.pending (s.id, minute) = false) :
    plan.trigger s minute fault = .ok plan := by
  obtain ⟨run, hget, hstatus⟩ := getOrCreate_of_settled plan
    { schedule := s.id, plannedStartAt := minute, triggeredAt := plan.center.db.now, status := .created } h
  unfold trigger
  rw [hget]
  exact if_pos hstatus

/-- The work for the schedule is refused, or fails from outside, where `trigger` does not expect it. -/
def Refused (plan : RobotPlan) (s : PatrolSchedule ι) (minute : ℕ) (fault : Bool) : Prop :=
  plan.pending (s.id, minute) = true ∧ plan.offline = false ∧ s.taskTemplate.enabled = true ∧
    s.taskRouteId = some s.routeId ∧ plan.busy = false ∧
      (fault = true ∨ startable s.taskTemplate = true ∧
        (plan.center.db.ensureBatteryAllows .taskStart false).isSome = true)

/-- **`trigger` raises exactly where the work is refused.** -/
theorem trigger_raises_iff (hv : plan.center.db.Valid) :
    (∃ e, plan.trigger s minute fault = .error e) ↔ plan.Refused s minute fault := by
  unfold Refused
  by_cases hpending : plan.pending (s.id, minute) = true
  swap
  · rw [trigger_of_settled (Bool.eq_false_iff.mpr hpending)]
    exact iff_of_false (fun ⟨_, h⟩ => nomatch h) fun h => hpending h.1
  · unfold trigger
    set d : ScheduleRun :=
      { schedule := s.id, plannedStartAt := minute, triggeredAt := plan.center.db.now, status := .created }
    have hstatus : (plan.getOrCreate d).2.status = .created := getOrCreate_of_pending plan d hpending rfl
    have hcenter := getOrCreate_center plan d
    have hoffline : (plan.getOrCreate d).1.offline = plan.offline := by
      unfold offline
      rw [hcenter, getOrCreate_statusOffline]
    have hbusy : (plan.getOrCreate d).1.busy = plan.busy := by
      unfold busy
      rw [hcenter]
    dsimp only
    rw [if_neg (not_not.mpr hstatus), hoffline, hbusy, and_iff_right hpending]
    by_cases hoff : plan.offline = true
    · rw [if_pos hoff]
      exact iff_of_false (fun ⟨_, h⟩ => nomatch h) fun h => nomatch hoff.symm.trans h.1
    rw [if_neg hoff, and_iff_right (Bool.eq_false_iff.mpr hoff)]
    by_cases hdisabled : s.taskTemplate.enabled = false
    · rw [if_pos hdisabled]
      exact iff_of_false (fun ⟨_, h⟩ => nomatch h) fun h => nomatch hdisabled.symm.trans h.1
    have henabled := Bool.eq_true_of_not_eq_false hdisabled
    rw [if_neg hdisabled, and_iff_right henabled]
    by_cases hroute : s.taskRouteId = some s.routeId
    swap
    · rw [if_pos hroute]
      exact iff_of_false (fun ⟨_, h⟩ => nomatch h) fun h => hroute h.1
    rw [if_neg (not_not.mpr hroute), and_iff_right hroute]
    by_cases hrunning : plan.busy = true
    · rw [if_pos hrunning]
      exact iff_of_false (fun ⟨_, h⟩ => nomatch h) fun h => nomatch hrunning.symm.trans h.1
    have hidle := Bool.eq_false_iff.mpr hrunning
    rw [if_neg hrunning, and_iff_right hidle]
    rw [dispatch_raises_iff (by rwa [hcenter]) (hbusy.trans hidle) henabled, hcenter]

/-! ## The invariant -/

/-- Each schedule and minute has at most one execution, and its run is settled then. -/
structure Inv (plan : RobotPlan) : Prop where
  valid : plan.center.db.Valid
  issued_nodup : (plan.issued.map Prod.fst).Nodup
  issued_settled : ∀ x ∈ plan.issued, plan.pending x.1 = false

theorem Triggered.inv (h : Triggered key plan plan') (hinv : plan.Inv) : plan'.Inv := by
  have hsettled : ∀ x ∈ plan.issued, plan'.pending x.1 = false :=
    fun x hx => h.toSettles.kept (hinv.issued_settled x hx)
  refine { valid := h.valid hinv.valid, issued_nodup := ?_, issued_settled := ?_ }
  · rcases h.issued with hissued | ⟨hpending, execution, hissued⟩
    · rw [hissued]
      exact hinv.issued_nodup
    · rw [hissued, List.map_append, List.nodup_append]
      refine ⟨hinv.issued_nodup, List.nodup_singleton _, ?_⟩
      intro k hk k' hk' heq
      obtain ⟨x, hx, rfl⟩ := List.mem_map.mp hk
      obtain rfl := List.mem_singleton.mp hk'
      -- a run that has an execution is not pending
      rw [← heq, hinv.issued_settled x hx] at hpending
      exact nomatch hpending
  · intro x hx
    rcases h.issued with hissued | ⟨-, execution, hissued⟩
    · rw [hissued] at hx
      exact hsettled x hx
    · rw [hissued] at hx
      rcases List.mem_append.mp hx with hold | hnew
      · exact hsettled x hold
      · obtain rfl := List.mem_singleton.mp hnew
        exact h.settled

theorem Inv.of_runs (hinv : plan.Inv) (hvalid : plan'.center.db.Valid) (hruns : plan'.runs = plan.runs)
    (hissued : plan'.issued = plan.issued) : plan'.Inv where
  valid := hvalid
  issued_nodup := hissued ▸ hinv.issued_nodup
  issued_settled x hx := by
    unfold pending run?
    rw [hruns]
    exact hinv.issued_settled x (hissued ▸ hx)

theorem Inv.clocked (hinv : plan.Inv) (now : ℕ) : (plan.clocked now).Inv :=
  hinv.of_runs (CenterSystem.valid_of_rows hinv.valid rfl rfl rfl rfl rfl) rfl rfl

end RobotPlan

end PatrolCalendar

end RoamerX
