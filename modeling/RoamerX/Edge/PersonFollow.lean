import RoamerX.Center.Trajectory
import RoamerX.Edge.SkillExecutor

set_option autoImplicit false

/-! # Following a person

`PersonFollowController`, one call to the navigation adapter, one section under the lock, one reading of the detections
or one look at a stop event at a time: the follow threads and the calls of `stop` that have left the lock move in any
order. The numbers are exact rationals; the times of a run are left out, and what the file and the adapter answer comes
with each step. -/

namespace RoamerX

namespace PersonFollow

open SkillExecutor (Failure Velocity)

/-! ## What the camera sees -/

structure PersonFollowConfig where
  detectionStaleSeconds : ℚ := 1
  obstacleStopDistanceM : ℚ := 8 / 10

structure Box where
  x : ℚ := 0
  y : ℚ := 0
  width : ℚ := 0
  height : ℚ := 0
  deriving DecidableEq

structure Detection where
  trackId : String
  /-- In lower case, `person` where there is none. -/
  label : String := "person"
  bbox : Box := {}
  deriving DecidableEq

/-- The file of the detections once it is read, with `_snapshot_age`. -/
structure Payload where
  age : ℚ := 0
  frameWidth : ℚ
  frameHeight : ℚ
  detections : List Detection
  deriving DecidableEq

/-- What is read of the file: what `_load_snapshot` accepts, or nothing, or a field that is no number. -/
inductive Reading
  | payload (payload : Payload)
  | unavailable
  | malformed (message : String)
  deriving DecidableEq

variable (config : PersonFollowConfig)

def targetFromSnapshot (trackId : String) : Reading → Except Failure (Detection × ℚ × ℚ)
  | .unavailable => .error (.protocol
      ⟨"PERSON_DETECTION_UNAVAILABLE", "local person detection snapshot is unavailable"⟩)
  | .malformed message => .error (.other message)
  | .payload payload =>
    if config.detectionStaleSeconds < payload.age then
      .error (.protocol ⟨"PERSON_DETECTION_STALE", "local person detections are stale"⟩)
    else
      match payload.detections.find? fun item => item.trackId = trackId ∧ item.label = "person" with
      | none => .error (.protocol
          ⟨"PERSON_TARGET_UNAVAILABLE", "selected person is not available in the latest local frame"⟩)
      | some target =>
        if payload.frameWidth ≤ 0 ∨ payload.frameHeight ≤ 0 then
          .error (.protocol
            ⟨"PERSON_TARGET_UNAVAILABLE", "selected person is not available in the latest local frame"⟩)
        else .ok (target, payload.frameWidth, payload.frameHeight)

/-- `round(value, 3)` -/
def round3 (q : ℚ) : ℚ := roundHalfEven (q * 1000) / 1000

def velocity (target : Detection) (frameWidth frameHeight : ℚ) : Velocity :=
  let centerError := (target.bbox.x + target.bbox.width / 2) / frameWidth - 1 / 2
  let heightRatio := target.bbox.height / frameHeight
  let vx :=
    if heightRatio < 0.40 then min 0.16 ((0.40 - heightRatio) * 0.7)
    else if 0.62 < heightRatio then max (-0.08) ((0.62 - heightRatio) * 0.5)
    else 0
  let yawRate := if |centerError| < 0.07 then 0 else max (-0.28) (min 0.28 (-centerError * 0.75))
  { vx := round3 (if 0.32 < |centerError| then 0 else vx), vy := 0, yawRate := round3 yawRate }

/-! ## Threads and runs -/

inductive Status
  | idle | running | stopped
  deriving DecidableEq

structure FollowRun where
  trackId : String := ""
  status : Status := .idle
  reason : String := ""
  updates : ℕ := 0
  deriving DecidableEq

inductive Pc
  /-- The look at the stop event. -/
  | head
  | target
  /-- `obstacle_monitor_snapshot` -/
  | obstacle (target : Detection) (frameWidth frameHeight : ℚ)
  /-- `teleop_velocity` -/
  | send (velocity : Velocity)
  /-- The section under the lock inside the loop. -/
  | update
  /-- `finally`, with the reason of the end. -/
  | zero (terminalReason : String)
  | finish (terminalReason : String)
  | ended
  deriving DecidableEq

structure Thread where
  trackId : String
  /-- The stop event it was started with. -/
  stopEvent : Bool := false
  pc : Pc := .head
  deriving DecidableEq

inductive Event
  | started (n : ℕ)
  /-- A velocity of a follow thread. -/
  | velocity (n : ℕ) (velocity : Velocity)
  /-- A follow thread has written the run. -/
  | wrote (n : ℕ)
  /-- A call of `stop` has sent its zero velocity and returns. -/
  | stopReturned
  deriving DecidableEq

structure State where
  run : FollowRun := {}
  /-- The follow threads in the order of their starts; `_stop_event` is that of the last. -/
  threads : List Thread := []
  /-- The calls of `stop` that have left the lock, with what they return. -/
  stops : List FollowRun := []
  /-- Oldest first. -/
  log : List Event := []

/-- What the adapter answers: the distance to the obstacle in front, and what it raises. -/
structure Answer where
  frontObstacleDistanceM : Option ℚ := none
  raises : Option Failure := none

def terminalReason (failure : Failure) : String := failure.code.getD "PERSON_FOLLOW_INTERNAL_ERROR"

namespace State

/-- `start` with a stripped id -/
def start (trackId : String) (reading : Reading) (s : State) : Except Failure State :=
  if trackId = "" then .error (.protocol ⟨"PERSON_TRACK_REQUIRED", "track_id is required"⟩)
  else if s.run.status = .running then
    .error (.protocol ⟨"PERSON_FOLLOW_BUSY", s!"already following {s.run.trackId}"⟩)
  else
    match targetFromSnapshot config trackId reading with
    | .error failure => .error failure
    | .ok _ =>
      .ok
        { s with
          run := { trackId := trackId, status := .running, reason := "本地视觉跟随已启动" }
          threads := s.threads ++ [{ trackId := trackId }]
          log := s.log ++ [.started s.threads.length] }

/-- `stop` up to the end of its section under the lock -/
def stop (reason : String) (s : State) : State :=
  let run := if s.run.status = .running then { s.run with status := .stopped, reason := reason } else s.run
  { s with
    run := run
    threads := s.threads.modify (s.threads.length - 1) fun thread => { thread with stopEvent := true }
    stops := s.stops ++ [run] }

/-- The zero velocity of a call of `stop`, which then returns. -/
def stopVelocity (call : ℕ) (answer : Answer) (s : State) : State :=
  if call < s.stops.length then
    { s with
      stops := s.stops.eraseIdx call
      log := if answer.raises.isSome then s.log else s.log ++ [.stopReturned] }
  else s

def goto (n : ℕ) (thread : Thread) (pc : Pc) (s : State) : State :=
  { s with threads := s.threads.set n { thread with pc := pc } }

def note (event : Event) (s : State) : State := { s with log := s.log ++ [event] }

/-- A step of follow thread `n`. -/
def advance (n : ℕ) (reading : Reading) (answer : Answer) (s : State) : State :=
  match s.threads[n]? with
  | none => s
  | some thread =>
    match thread.pc with
    | .head => s.goto n thread (if thread.stopEvent then .zero "operator_stop" else .target)
    | .target =>
      match targetFromSnapshot config thread.trackId reading with
      | .error failure => s.goto n thread (.zero (terminalReason failure))
      | .ok (target, frameWidth, frameHeight) => s.goto n thread (.obstacle target frameWidth frameHeight)
    | .obstacle target frameWidth frameHeight =>
      match answer.raises with
      | some failure => s.goto n thread (.zero (terminalReason failure))
      | none =>
        if answer.frontObstacleDistanceM.any (· ≤ config.obstacleStopDistanceM) then
          s.goto n thread (.zero "PERSON_FOLLOW_OBSTACLE")
        else s.goto n thread (.send (PersonFollow.velocity target frameWidth frameHeight))
    | .send velocity =>
      let s := s.note (.velocity n velocity)
      match answer.raises with
      | some failure => s.goto n thread (.zero (terminalReason failure))
      | none => s.goto n thread .update
    | .update =>
      if s.run.status = .running ∧ s.run.trackId = thread.trackId then
        { s with run := { s.run with updates := s.run.updates + 1 } }.note (.wrote n) |>.goto n thread .head
      else s.goto n thread .head
    | .zero reason =>
      -- an exception out of the adapter leaves `finally` before its section under the lock
      (s.note (.velocity n {})).goto n thread (if answer.raises.isSome then .ended else .finish reason)
    | .finish reason =>
      if s.run.trackId = thread.trackId ∧ s.run.status = .running then
        { s with run := { s.run with status := .stopped, reason := reason } }.note (.wrote n) |>.goto n thread .ended
      else s.goto n thread .ended
    | .ended => s

end State

inductive Label
  | start (trackId : String) (reading : Reading)
  | stop (reason : String)
  | stopVelocity (call : ℕ) (answer : Answer)
  | status
  | advance (n : ℕ) (reading : Reading) (answer : Answer)

def step (s : State) : Label → State
  | .start trackId reading => (s.start config trackId reading).toOption.getD s
  | .stop reason => s.stop reason
  | .stopVelocity call answer => s.stopVelocity call answer
  | .status => s
  | .advance n reading answer => s.advance config n reading answer

/-! ## Fail-closed -/

/-- The thread has still a velocity to send. -/
def Pc.sends : Pc → Bool
  | .finish _ | .ended => false
  | _ => true

/-- The thread is between its look at the stop event and the velocity. -/
def Pc.moving : Pc → Bool
  | .target | .obstacle _ _ _ | .send _ => true
  | _ => false

def Event.thread? : Event → Option ℕ
  | .velocity n _ | .wrote n => some n
  | _ => none

def Event.marks : Event → Bool
  | .started _ | .stopReturned => true
  | _ => false

/-- A stop has returned, and no run was started since. -/
def quiet (log : List Event) : Bool := (log.filter Event.marks).getLast? = some .stopReturned

/-- No follow thread sends a velocity other than zero once a stop has returned, and before a later start. -/
def Halted (log : List Event) : Prop :=
  ∀ (earlier : List Event) (n : ℕ) (sent : Velocity) (later : List Event), log = earlier ++ .velocity n sent :: later →
    sent ≠ {} → quiet earlier = false

/-- **Fail-closed**: the robot is halted by a stop, no thread sends a velocity or writes the run after a later run was
started, and one thread at most has still a velocity to send. -/
structure Sound (s : State) : Prop where
  halted : Halted s.log
  own : s.log.Pairwise fun earlier later => ∀ m n, earlier = .started m → later.thread? = some n → m ≤ n
  alone (n m : ℕ) (thread other : Thread) : s.threads[n]? = some thread → s.threads[m]? = some other →
    thread.pc.sends → other.pc.sends → n = m

/-- A start that is let in finds no call of `stop` outside the lock, no thread with a velocity to send, and none of its
own track before the last section under the lock; when a stop returns, no thread is between its look at the stop event
and the velocity. -/
def Clear (s : State) : Label → Prop
  | .start trackId reading => (s.start config trackId reading).isOk → s.stops = [] ∧
      ∀ thread ∈ s.threads, thread.pc.sends = false ∧ (thread.pc ≠ .ended → thread.trackId ≠ trackId)
  | .stopVelocity call answer => call < s.stops.length → answer.raises.isNone →
      ∀ thread ∈ s.threads, thread.pc.moving = false
  | _ => True

instance (s : State) (label : Label) : Decidable (Clear config s label) := by
  unfold Clear
  split <;> infer_instance

/-! ## What a step keeps -/

variable {config} {s s' : State} {n m : ℕ} {thread after other : Thread}

/-- Only the last thread has a velocity to send, its stop event is set while a stop is under way or has returned, and
then it is not between its look at the event and the velocity. -/
structure Inv (s : State) : Prop where
  sends (n : ℕ) (thread : Thread) : s.threads[n]? = some thread → thread.pc.sends → n + 1 = s.threads.length
  finishing (n : ℕ) (thread : Thread) : s.threads[n]? = some thread → thread.pc ≠ .ended →
    n + 1 = s.threads.length ∨ thread.trackId ≠ s.run.trackId
  set : s.stops ≠ [] ∨ quiet s.log = true → ∀ thread ∈ s.threads, thread.pc.sends → thread.stopEvent = true
  still : quiet s.log = true → ∀ thread ∈ s.threads, thread.pc.moving = false
  known (m : ℕ) : .started m ∈ s.log → m < s.threads.length
  halted : Halted s.log
  own : s.log.Pairwise fun earlier later => ∀ m n, earlier = .started m → later.thread? = some n → m ≤ n

theorem inv_boot : Inv {} where
  sends := by simp
  finishing := by simp
  set := by simp
  still := by simp
  known := by simp
  halted := by
    intro earlier n sent later heq
    exact absurd (congrArg List.length heq) (by simp)
  own := List.Pairwise.nil

theorem quiet_concat {log : List Event} {event : Event} (hmarks : event.marks = false) :
    quiet (log ++ [event]) = quiet log := by
  rw [quiet, quiet, List.filter_append, List.filter_cons_of_neg (by simp [hmarks]), List.filter_nil, List.append_nil]

theorem quiet_started (log : List Event) (n : ℕ) : quiet (log ++ [.started n]) = false := by
  simp [quiet, Event.marks]

theorem halted_concat {log : List Event} {event : Event} (h : Halted log)
    (hevent : ∀ n sent, event = .velocity n sent → sent ≠ {} → quiet log = false) : Halted (log ++ [event]) := by
  intro earlier n sent later heq hsent
  -- the velocity is the new event, or an old one
  rcases List.eq_nil_or_concat later with rfl | ⟨later, last, rfl⟩
  · obtain ⟨rfl, hlast⟩ := List.append_inj' heq rfl
    exact hevent n sent (List.singleton_inj.mp hlast) hsent
  · rw [List.concat_eq_append, ← List.cons_append, ← List.append_assoc] at heq
    exact h earlier n sent later (List.append_inj' heq rfl).1 hsent

theorem Inv.own_concat (h : Inv s) {event : Event}
    (hevent : ∀ n, event.thread? = some n → n + 1 = s.threads.length) :
    (s.log ++ [event]).Pairwise fun earlier later => ∀ m n, earlier = .started m → later.thread? = some n → m ≤ n := by
  refine List.pairwise_append.mpr ⟨h.own, List.pairwise_singleton _ _, ?_⟩
  rintro earlier hearlier later hlater m n rfl hthread
  rw [List.mem_singleton.mp hlater] at hthread
  have hlast := hevent n hthread
  have hknown := h.known m hearlier
  omega

theorem start_ok {trackId : String} {reading : Reading} (h : s.start config trackId reading = .ok s') :
    s' = { s with
      run := { trackId := trackId, status := .running, reason := "本地视觉跟随已启动" }
      threads := s.threads ++ [{ trackId := trackId }]
      log := s.log ++ [.started s.threads.length] } := by
  unfold State.start at h
  split_ifs at h
  split at h
  · exact absurd h (by simp)
  · exact (Except.ok.inj h).symm

theorem Inv.start (h : Inv s) {trackId : String} {reading : Reading} (hok : s.start config trackId reading = .ok s')
    (hstops : s.stops = []) (hthreads : ∀ thread ∈ s.threads, thread.pc.sends = false ∧
      (thread.pc ≠ .ended → thread.trackId ≠ trackId)) : Inv s' := by
  rw [start_ok hok]
  have hquiet := quiet_started s.log s.threads.length
  have hlength : (s.threads ++ [({ trackId := trackId } : Thread)]).length = s.threads.length + 1 := by simp
  constructor
  case sends =>
    intro n thread hn hsends
    show n + 1 = (s.threads ++ [_]).length
    rcases Pool.getElem?_concat_cases hn with ⟨hold, -⟩ | ⟨rfl, -⟩
    · exact absurd hsends (by simp [(hthreads thread (List.mem_of_getElem? hold)).1])
    · exact hlength.symm
  case finishing =>
    intro n thread hn hended
    show n + 1 = (s.threads ++ [_]).length ∨ _
    rcases Pool.getElem?_concat_cases hn with ⟨hold, -⟩ | ⟨rfl, -⟩
    · exact Or.inr ((hthreads thread (List.mem_of_getElem? hold)).2 hended)
    · exact Or.inl hlength.symm
  case set =>
    rintro (hne | hquiet')
    · exact absurd hstops hne
    · exact absurd (hquiet'.symm.trans hquiet) (by decide)
  case still => exact fun hquiet' => absurd (hquiet'.symm.trans hquiet) (by decide)
  case known =>
    intro m hm
    show m < (s.threads ++ [_]).length
    rw [hlength]
    rcases List.mem_append.mp hm with hold | hnew
    · exact Nat.lt_succ_of_lt (h.known m hold)
    · rw [Event.started.inj (List.mem_singleton.mp hnew)]
      exact Nat.lt_succ_self _
  case halted => exact halted_concat h.halted nofun
  case own => exact h.own_concat nofun

theorem Inv.stop (h : Inv s) (reason : String) : Inv (s.stop reason) := by
  have hcases : ∀ (m : ℕ) (thread : Thread), (s.stop reason).threads[m]? = some thread →
      ∃ old, s.threads[m]? = some old ∧ thread.pc = old.pc ∧ thread.trackId = old.trackId ∧
        (m + 1 = s.threads.length → thread.stopEvent = true) := by
    intro m thread hm
    obtain ⟨old, hold, hcase⟩ := Pool.getElem?_modify_cases hm
    refine ⟨old, hold, ?_⟩
    rcases hcase with ⟨-, rfl⟩ | ⟨hne, rfl⟩
    · exact ⟨rfl, rfl, fun _ => rfl⟩
    · exact ⟨rfl, rfl, fun hlast => absurd (by omega) hne⟩
  have hlength : (s.stop reason).threads.length = s.threads.length := List.length_modify ..
  have hrun : (s.stop reason).run.trackId = s.run.trackId := by
    unfold State.stop
    split_ifs
    all_goals rfl
  constructor
  case sends =>
    intro m thread hm hsends
    obtain ⟨old, hold, hpc, -, -⟩ := hcases m thread hm
    rw [hlength]
    exact h.sends m old hold (hpc ▸ hsends)
  case finishing =>
    intro m thread hm hended
    obtain ⟨old, hold, hpc, htrack, -⟩ := hcases m thread hm
    rw [hlength, htrack, hrun]
    exact h.finishing m old hold (hpc ▸ hended)
  case set =>
    -- the thread that sends is the last, whose event is set here
    intro _ thread hthread hsends
    obtain ⟨m, hm⟩ := List.mem_iff_getElem?.mp hthread
    obtain ⟨old, hold, hpc, -, hset⟩ := hcases m thread hm
    exact hset (h.sends m old hold (hpc ▸ hsends))
  case still =>
    intro hquiet thread hthread
    obtain ⟨m, hm⟩ := List.mem_iff_getElem?.mp hthread
    obtain ⟨old, hold, hpc, -, -⟩ := hcases m thread hm
    rw [hpc]
    exact h.still hquiet old (List.mem_of_getElem? hold)
  case known =>
    intro m hm
    rw [hlength]
    exact h.known m hm
  case halted => exact h.halted
  case own => exact h.own

theorem Inv.stopVelocity (h : Inv s) (call : ℕ) (answer : Answer)
    (hclear : call < s.stops.length → answer.raises.isNone → ∀ thread ∈ s.threads, thread.pc.moving = false) :
    Inv (s.stopVelocity call answer) := by
  unfold State.stopVelocity
  split_ifs with hcall hraises
  · -- it raises, and does not return
    refine ⟨h.sends, h.finishing, fun hset => h.set ?_, h.still, h.known, h.halted, h.own⟩
    rcases hset with hne | hquiet
    · exact Or.inl fun hnil => hne (by simp [hnil])
    · exact Or.inr hquiet
  · have hnonempty : s.stops ≠ [] := fun hnil => absurd hcall (by simp [hnil])
    refine ⟨h.sends, h.finishing, fun _ => h.set (Or.inl hnonempty), fun _ => hclear hcall (by simpa using hraises),
      fun m hm => ?_, halted_concat h.halted nofun, h.own_concat nofun⟩
    rcases List.mem_append.mp hm with hold | hnew
    · exact h.known m hold
    · exact absurd (List.mem_singleton.mp hnew) nofun
  · exact h

/-- What a step of a follow thread does. -/
structure Moved (n : ℕ) (thread after : Thread) (event : Option Event) (s s' : State) : Prop where
  threads : s'.threads = s.threads.set n after
  trackId : after.trackId = thread.trackId
  stopEvent : after.stopEvent = thread.stopEvent
  stops : s'.stops = s.stops
  run : s'.run.trackId = s.run.trackId
  log : s'.log = s.log ++ event.toList
  sends : after.pc.sends = true → thread.pc.sends = true
  ended : after.pc ≠ .ended → thread.pc ≠ .ended
  /-- Only a look at a stop event that is not set comes before a velocity. -/
  moving : after.pc.moving = true → thread.pc.moving = true ∨ (thread.pc = .head ∧ thread.stopEvent = false)
  velocity (m : ℕ) (sent : Velocity) : event = some (.velocity m sent) → sent ≠ {} → thread.pc.moving = true
  own (seen : Event) : event = some seen → seen.marks = false ∧ seen.thread? = some n ∧
    (thread.pc.sends = true ∨ (thread.pc ≠ .ended ∧ s.run.trackId = thread.trackId))

theorem moved_goto {pc : Pc} {event : Option Event} (hn : thread.pc ≠ .ended)
    (hthreads : s'.threads = s.threads) (hstops : s'.stops = s.stops) (hrun : s'.run.trackId = s.run.trackId)
    (hlog : s'.log = s.log ++ event.toList) (hsends : pc.sends = true → thread.pc.sends = true)
    (hmoving : pc.moving = true → thread.pc.moving = true ∨ (thread.pc = .head ∧ thread.stopEvent = false))
    (hvelocity : ∀ m sent, event = some (.velocity m sent) → sent ≠ {} → thread.pc.moving = true)
    (hown : ∀ seen : Event, event = some seen → seen.marks = false ∧ seen.thread? = some n ∧
      (thread.pc.sends = true ∨ (thread.pc ≠ .ended ∧ s.run.trackId = thread.trackId))) :
    Moved n thread { thread with pc := pc } event s (s'.goto n thread pc) where
  threads := by rw [State.goto, hthreads]
  trackId := rfl
  stopEvent := rfl
  stops := hstops
  run := hrun
  log := hlog
  sends := hsends
  ended := fun _ => hn
  moving := hmoving
  velocity := hvelocity
  own := hown

variable (config) in
theorem advance_cases (hn : s.threads[n]? = some thread) (reading : Reading) (answer : Answer) :
    ∃ after event, Moved n thread after event s (s.advance config n reading answer) := by
  -- a step that logs nothing, inside the loop or to its end
  have hquietly : ∀ pc : Pc, thread.pc.sends = true →
      (pc.moving = true → thread.pc.moving = true ∨ (thread.pc = .head ∧ thread.stopEvent = false)) →
      ∃ after event, Moved n thread after event s (s.goto n thread pc) := by
    intro pc hsends hmoving
    refine ⟨_, none, moved_goto (fun hended => ?_) rfl rfl rfl (List.append_nil _).symm (fun _ => hsends) hmoving
      nofun nofun⟩
    rw [hended] at hsends
    exact absurd hsends (by decide)
  simp only [State.advance, hn]
  cases hpc : thread.pc with
  | head =>
    refine hquietly _ (by rw [hpc]; rfl) fun hmoving => Or.inr ⟨hpc, ?_⟩
    by_contra hset
    rw [Bool.not_eq_false] at hset
    simp [hset, Pc.moving] at hmoving
  | target =>
    have hmoving : thread.pc.moving = true := by rw [hpc]; rfl
    simp only
    split
    · exact hquietly _ (by rw [hpc]; rfl) fun _ => Or.inl hmoving
    · exact hquietly _ (by rw [hpc]; rfl) fun _ => Or.inl hmoving
  | obstacle target frameWidth frameHeight =>
    have hmoving : thread.pc.moving = true := by rw [hpc]; rfl
    simp only
    split
    · exact hquietly _ (by rw [hpc]; rfl) fun _ => Or.inl hmoving
    · split_ifs
      all_goals exact hquietly _ (by rw [hpc]; rfl) fun _ => Or.inl hmoving
  | send sent =>
    have hmoving : thread.pc.moving = true := by rw [hpc]; rfl
    have hsends : thread.pc.sends = true := by rw [hpc]; rfl
    have hsend : ∀ pc : Pc, Moved n thread { thread with pc := pc } (some (.velocity n sent)) s
        ((s.note (.velocity n sent)).goto n thread pc) := by
      intro pc
      refine moved_goto (by rw [hpc]; nofun) rfl rfl rfl rfl (fun _ => hsends) (fun _ => Or.inl hmoving)
        (fun _ _ _ _ => hmoving) fun seen hseen => ?_
      rw [← Option.some.inj hseen]
      exact ⟨rfl, rfl, Or.inl hsends⟩
    simp only
    split
    · exact ⟨_, _, hsend _⟩
    · exact ⟨_, _, hsend _⟩
  | update =>
    have hsends : thread.pc.sends = true := by rw [hpc]; rfl
    simp only
    split_ifs
    · refine ⟨_, some (.wrote n), moved_goto (by rw [hpc]; nofun) rfl rfl rfl rfl (fun _ => hsends) nofun nofun
        fun seen hseen => ?_⟩
      rw [← Option.some.inj hseen]
      exact ⟨rfl, rfl, Or.inl hsends⟩
    · exact hquietly _ hsends nofun
  | zero reason =>
    have hsends : thread.pc.sends = true := by rw [hpc]; rfl
    refine ⟨_, some (.velocity n {}), moved_goto (by rw [hpc]; nofun) rfl rfl rfl rfl (fun _ => hsends) ?_ ?_
      fun seen hseen => ?_⟩
    · intro hmoving
      split_ifs at hmoving
      all_goals exact absurd hmoving (by simp [Pc.moving])
    · intro m sent hsent hne
      obtain ⟨-, rfl⟩ := Event.velocity.inj (Option.some.inj hsent)
      exact absurd rfl hne
    · rw [← Option.some.inj hseen]
      exact ⟨rfl, rfl, Or.inl hsends⟩
  | finish reason =>
    have hended : thread.pc ≠ .ended := by rw [hpc]; nofun
    simp only
    split_ifs with hown
    · refine ⟨_, some (.wrote n), moved_goto hended rfl rfl rfl rfl nofun nofun nofun fun seen hseen => ?_⟩
      rw [← Option.some.inj hseen]
      exact ⟨rfl, rfl, Or.inr ⟨hended, hown.1⟩⟩
    · exact ⟨_, none, moved_goto hended rfl rfl rfl (List.append_nil _).symm nofun nofun nofun nofun⟩
  | ended =>
    refine ⟨thread, none, ?_, rfl, rfl, rfl, rfl, (List.append_nil _).symm, id, id, Or.inl, nofun, nofun⟩
    obtain ⟨hlt, rfl⟩ := List.getElem?_eq_some_iff.mp hn
    exact (List.set_getElem_self hlt).symm

theorem Inv.moved {event : Option Event} (h : Inv s) (hn : s.threads[n]? = some thread)
    (hmoved : Moved n thread after event s s') : Inv s' := by
  have hlength : s'.threads.length = s.threads.length := by rw [hmoved.threads, List.length_set]
  have hcases : ∀ (m : ℕ) (other : Thread), s'.threads[m]? = some other →
      (m = n ∧ other = after) ∨ (m ≠ n ∧ s.threads[m]? = some other) := by
    intro m other hm
    rw [hmoved.threads] at hm
    exact Pool.getElem?_set_cases hm
  have hquiet : quiet s'.log = quiet s.log := by
    rw [hmoved.log]
    cases event with
    | none => rw [Option.toList_none, List.append_nil]
    | some seen => exact quiet_concat (hmoved.own seen rfl).1
  -- whoever writes anything is the last
  have hlast : ∀ seen : Event, event = some seen → n + 1 = s.threads.length := by
    intro seen hseen
    rcases (hmoved.own seen hseen).2.2 with hsends | ⟨hended, htrack⟩
    · exact h.sends n thread hn hsends
    · exact (h.finishing n thread hn hended).resolve_right fun hne => hne htrack.symm
  constructor
  case sends =>
    intro m other hm hsends
    rw [hlength]
    rcases hcases m other hm with ⟨rfl, rfl⟩ | ⟨-, hold⟩
    · exact h.sends m thread hn (hmoved.sends hsends)
    · exact h.sends m other hold hsends
  case finishing =>
    intro m other hm hended
    rw [hlength, hmoved.run]
    rcases hcases m other hm with ⟨rfl, rfl⟩ | ⟨-, hold⟩
    · rw [hmoved.trackId]
      exact h.finishing m thread hn (hmoved.ended hended)
    · exact h.finishing m other hold hended
  case set =>
    rw [hquiet, hmoved.stops]
    intro hset other hother hsends
    obtain ⟨m, hm⟩ := List.mem_iff_getElem?.mp hother
    rcases hcases m other hm with ⟨rfl, rfl⟩ | ⟨-, hold⟩
    · rw [hmoved.stopEvent]
      exact h.set hset thread (List.mem_of_getElem? hn) (hmoved.sends hsends)
    · exact h.set hset other (List.mem_of_getElem? hold) hsends
  case still =>
    rw [hquiet]
    intro hquiet' other hother
    obtain ⟨m, hm⟩ := List.mem_iff_getElem?.mp hother
    rcases hcases m other hm with ⟨rfl, rfl⟩ | ⟨-, hold⟩
    · by_contra hmoving
      rw [Bool.not_eq_false] at hmoving
      have hthread := List.mem_of_getElem? hn
      rcases hmoved.moving hmoving with hbefore | ⟨hhead, hevent⟩
      · rw [h.still hquiet' thread hthread] at hbefore
        exact absurd hbefore (by decide)
      · rw [h.set (Or.inr hquiet') thread hthread (by rw [hhead]; rfl)] at hevent
        exact absurd hevent (by decide)
    · exact h.still hquiet' other (List.mem_of_getElem? hold)
  case known =>
    intro m hm
    rw [hlength]
    rw [hmoved.log] at hm
    rcases List.mem_append.mp hm with hold | hnew
    · exact h.known m hold
    · have hmarks := (hmoved.own (.started m) (Option.mem_toList.mp hnew)).1
      exact absurd hmarks (by simp [Event.marks])
  case halted =>
    rw [hmoved.log]
    cases hevent : event with
    | none =>
      rw [Option.toList_none, List.append_nil]
      exact h.halted
    | some seen =>
      refine halted_concat h.halted fun m sent hseen hsent => ?_
      by_contra hquiet'
      rw [Bool.not_eq_false] at hquiet'
      have hmoving := hmoved.velocity m sent (by rw [hevent, hseen]) hsent
      rw [h.still hquiet' thread (List.mem_of_getElem? hn)] at hmoving
      exact absurd hmoving (by decide)
  case own =>
    rw [hmoved.log]
    cases hevent : event with
    | none =>
      rw [Option.toList_none, List.append_nil]
      exact h.own
    | some seen =>
      refine h.own_concat fun m hm => ?_
      rw [(hmoved.own seen hevent).2.1, Option.some.injEq] at hm
      rw [← hm]
      exact hlast seen hevent

theorem inv_step (s : State) (label : Label) (h : Inv s) (hclear : Clear config s label) :
    Inv (step config s label) := by
  cases label with
  | start trackId reading =>
    show Inv ((s.start config trackId reading).toOption.getD s)
    cases hok : s.start config trackId reading with
    | error failure => exact h
    | ok s' =>
      obtain ⟨hstops, hthreads⟩ := hclear (by rw [hok]; rfl)
      exact h.start hok hstops hthreads
  | stop reason => exact h.stop reason
  | stopVelocity call answer => exact h.stopVelocity call answer hclear
  | status => exact h
  | advance n reading answer =>
    show Inv (s.advance config n reading answer)
    cases hn : s.threads[n]? with
    | none => simpa only [State.advance, hn] using h
    | some thread =>
      obtain ⟨after, event, hmoved⟩ := advance_cases config hn reading answer
      exact h.moved hn hmoved

theorem sound_of_inv (h : Inv s) : Sound s where
  halted := h.halted
  own := h.own
  alone n m thread other hn hm hsends hsends' := by
    have hlast := h.sends n thread hn hsends
    have hlast' := h.sends m other hm hsends'
    omega

variable (config)

/-- **Fail-closed** in every run that is clear, whatever moves when. -/
theorem failClosed_of_clear (labels : List Label) (h : Run.Always (step config) (Clear config) {} labels) :
    Sound (Run.exec (step config) {} labels) :=
  sound_of_inv (Run.exec_invariant_of_always Inv (fun s label => inv_step s label) inv_boot h)

/-! ## Two runs -/

def person : Reading := .payload
  { frameWidth := 1280
    frameHeight := 720
    detections := [{ trackId := "person-7", bbox := ⟨200, 100, 180, 280⟩ }] }

/-- One round of the loop of a thread, up to its velocity. -/
def upToVelocity (n : ℕ) : List Label := List.replicate 3 (.advance n person {})

/-- A run that is stopped between two rounds, and another one after it. -/
theorem sound_stopBetween :
    (Run.exec (step {}) {} (.start "person-7" person :: upToVelocity 0 ++
      [.advance 0 person {}, .advance 0 person {}, .stop "operator_stop", .stopVelocity 0 {}, .advance 0 person {},
        .advance 0 person {}, .advance 0 person {}, .start "person-7" person])).threads.length = 2 ∧
    Sound (Run.exec (step {}) {} (.start "person-7" person :: upToVelocity 0 ++
      [.advance 0 person {}, .advance 0 person {}, .stop "operator_stop", .stopVelocity 0 {}, .advance 0 person {},
        .advance 0 person {}, .advance 0 person {}, .start "person-7" person])) :=
  ⟨by decide, failClosed_of_clear {} _ (by decide)⟩

/-- The stop comes and returns between the look at the stop event and the velocity. -/
theorem not_sound_afterLook : ¬ Sound (Run.exec (step {}) {}
    (.start "person-7" person :: upToVelocity 0 ++ [.stop "operator_stop", .stopVelocity 0 {}, .advance 0 person {}])) := by
  intro h
  have hlog : (Run.exec (step {}) {} (.start "person-7" person :: upToVelocity 0 ++
      [.stop "operator_stop", .stopVelocity 0 {}, .advance 0 person {}])).log =
      [.started 0, .stopReturned] ++ .velocity 0 ⟨0.008, 0, 0.205⟩ :: [] := by decide +kernel
  exact absurd (h.halted _ _ _ _ hlog (by decide +kernel)) (by decide)

end PersonFollow

end RoamerX
