import RoamerX.Center.Protocol
import RoamerX.Center.TaskStartMessage
import RoamerX.Edge.Protocol
import RoamerX.Lib.Excepts

set_option autoImplicit false

/-! # The two checks on `task.start`

The center's `_validate_task_start` and the Edge's `validate_command` read the same command object.
They differ in two places: only the center looks at the actions of a waypoint, and only the center
asks whether a waypoint is an object before it reads it. What the center builds passes both. -/

namespace RoamerX

open Excepts

/-! ## How a validator ends -/

/-- A validator returns, raises `ProtocolError`, or raises something else. -/
inductive CheckVerdict
  | accepts
  | rejects
  | raises
  deriving DecidableEq

def verdict {α : Type*} : Except Raised α → CheckVerdict
  | .ok _ => .accepts
  | .error (.protocol _) => .rejects
  | .error (.other _) => .raises

/-- Both accept, or both reject with a protocol error. -/
def Agree {α β : Type*} (center : Except Raised α) (edge : Except Raised β) : Prop :=
  (verdict center = .accepts ∧ verdict edge = .accepts) ∨
    (verdict center = .rejects ∧ verdict edge = .rejects)

section Verdicts

variable {α β : Type}

@[simp] theorem verdict_ok (a : α) : verdict (.ok a : Except Raised α) = .accepts := rfl

@[simp] theorem verdict_pure (a : α) : verdict (pure a : Except Raised α) = .accepts := rfl

@[simp] theorem verdict_invalidMessage (message : String) :
    verdict (invalidMessage message : Except Raised α) = .rejects := rfl

theorem verdict_bind (a : Except Raised α) (f : α → Except Raised β) :
    verdict (a >>= f) =
      match a with
      | .ok v => verdict (f v)
      | .error e => verdict (.error e : Except Raised β) := by
  cases a with
  | ok v => rfl
  | error e => rfl

theorem verdict_then (a : Except Raised Unit) (b : Except Raised β) :
    verdict (a >>= fun _ => b) = if verdict a = .accepts then verdict b else verdict a := by
  match a with
  | .ok () => rfl
  | .error (.protocol _) => rfl
  | .error (.other _) => rfl

@[simp] theorem verdict_discard (a : Except Raised α) (b : β) :
    verdict (a >>= fun _ => (pure b : Except Raised β)) = verdict a := by
  match a with
  | .ok _ => rfl
  | .error (.protocol _) => rfl
  | .error (.other _) => rfl

theorem verdict_checkAll (checks : List (Bool × String)) :
    verdict (checkAll checks) = if checks.all (·.1) then .accepts else .rejects := by
  induction checks with
  | nil => rfl
  | cons check checks ih =>
    obtain ⟨holds, message⟩ := check
    cases holds with
    | true => rw [checkAll, if_pos rfl, ih, List.all_cons, Bool.true_and]
    | false => rw [checkAll, if_neg Bool.false_ne_true, List.all_cons, Bool.false_and]; rfl

theorem eq_ok_of_accepts {a : Except Raised Unit} (h : verdict a = .accepts) : a = .ok () := by
  match a with
  | .ok () => rfl
  | .error (.protocol _) => exact nomatch h
  | .error (.other _) => exact nomatch h

end Verdicts

section Checks

variable (texts : Texts)

/-! ## The checks both make -/

/-- A waypoint passes what both ends check of it. -/
def waypointPasses (index : ℕ) (waypoint : List (String × Json)) : Bool :=
  (waypointChecks texts "" index waypoint).all (·.1)

theorem all_waypointChecks (message : String) (index : ℕ) (waypoint : List (String × Json)) :
    (waypointChecks texts message index waypoint).all (·.1) = waypointPasses texts index waypoint := by
  simp only [waypointPasses, waypointChecks, List.all_append, List.all_cons]

/-- Every waypoint, from an index on, is an object that passes. -/
@[simp] def waypointsPass : ℕ → List Json → Bool
  | _, [] => true
  | index, .obj waypoint :: rest =>
    waypointPasses texts index waypoint && waypointsPass (index + 1) rest
  | _, _ :: _ => false

/-- A waypoint that is no object comes only after an object that does not pass. -/
@[simp] def onlyObjectsReached : ℕ → List Json → Bool
  | _, [] => true
  | index, .obj waypoint :: rest =>
    !waypointPasses texts index waypoint || onlyObjectsReached (index + 1) rest
  | _, _ :: _ => false

/-- The actions of the waypoints are snapshots. -/
def snapshotActions (waypoints : List Json) : Bool :=
  waypoints.all (fun waypoint => match waypoint with
    | .obj waypoint => snapshotOnly (Json.get? waypoint "actions")
    | _ => true)

theorem snapshotActions_cons (waypoint : List (String × Json)) (rest : List Json) :
    snapshotActions (.obj waypoint :: rest) =
      (snapshotOnly (Json.get? waypoint "actions") && snapshotActions rest) := rfl

/-- The options pass, and a continuous recording names its loop session. -/
def optionsPass (route command : List (String × Json)) : Bool :=
  (optionChecks texts "" route command).all (·.1) &&
    (!((Json.get? command "continuous_rosbag").getD (.bool false)).truthy ||
      (texts.uuid? (texts.str ((Json.get? command "loop_session_id").getD .null))).isSome)

theorem all_optionChecks (message : String) (route command : List (String × Json)) :
    (optionChecks texts message route command).all (·.1) =
      (optionChecks texts "" route command).all (·.1) := by
  simp only [optionChecks, List.all_cons]

/-! ## The loops over the waypoints -/

theorem verdict_checkEach_cons (check : ℕ → Json → Except Raised Unit) (index : ℕ)
    (waypoint : Json) (rest : List Json) :
    verdict (checkEach check index (waypoint :: rest)) =
      if verdict (check index waypoint) = .accepts then verdict (checkEach check (index + 1) rest)
      else verdict (check index waypoint) := by
  rw [checkEach]
  match check index waypoint with
  | .ok () => rfl
  | .error (.protocol _) => rfl
  | .error (.other _) => rfl

theorem verdict_center_waypoint (index : ℕ) (waypoint : List (String × Json)) :
    verdict (validateWaypoint texts index (.obj waypoint)) =
      if waypointPasses texts index waypoint && snapshotOnly (Json.get? waypoint "actions") then
        .accepts
      else .rejects := by
  rw [validateWaypoint, verdict_checkAll, List.all_append, all_waypointChecks, List.all_cons,
    List.all_nil, Bool.and_true]

theorem verdict_edge_waypoint (index : ℕ) (waypoint : List (String × Json)) :
    verdict (EdgeProtocol.validateWaypoint texts index (.obj waypoint)) =
      if waypointPasses texts index waypoint then .accepts else .rejects := by
  rw [EdgeProtocol.validateWaypoint, verdict_checkAll, all_waypointChecks]

theorem verdict_center_waypoints (index : ℕ) (waypoints : List Json) :
    verdict (checkEach (validateWaypoint texts) index waypoints) =
      if waypointsPass texts index waypoints && snapshotActions waypoints then .accepts
      else .rejects := by
  fun_induction waypointsPass texts index waypoints with
  | case1 index => rfl
  | case2 index waypoint rest ih =>
    rw [verdict_checkEach_cons, verdict_center_waypoint, ih, snapshotActions_cons]
    cases waypointPasses texts index waypoint <;>
      cases snapshotOnly (Json.get? waypoint "actions") <;> simp
  | case3 index waypoint rest hnone =>
    have hraised : validateWaypoint texts index waypoint =
        invalidMessage "waypoint must be an object" := by
      cases waypoint with
      | obj members => exact (hnone members rfl).elim
      | _ => rfl
    rw [verdict_checkEach_cons, hraised]
    rfl

theorem verdict_edge_waypoints (index : ℕ) (waypoints : List Json) :
    verdict (checkEach (EdgeProtocol.validateWaypoint texts) index waypoints) =
      if onlyObjectsReached texts index waypoints then
        if waypointsPass texts index waypoints then .accepts else .rejects
      else .raises := by
  fun_induction waypointsPass texts index waypoints with
  | case1 index => rfl
  | case2 index waypoint rest ih =>
    rw [verdict_checkEach_cons, verdict_edge_waypoint, ih, onlyObjectsReached]
    cases waypointPasses texts index waypoint <;> simp
  | case3 index waypoint rest hnone =>
    cases waypoint with
    | obj members => exact (hnone members rfl).elim
    | _ => rfl

theorem onlyObjectsReached_of_pass {index : ℕ} {waypoints : List Json}
    (h : waypointsPass texts index waypoints = true) :
    onlyObjectsReached texts index waypoints = true := by
  fun_induction waypointsPass texts index waypoints with
  | case1 index => rfl
  | case2 index waypoint rest ih =>
    obtain ⟨_, hrest⟩ := Bool.and_eq_true_iff.1 h
    rw [onlyObjectsReached, ih hrest, Bool.or_true]
  | case3 index waypoint rest hnone => exact nomatch h

/-! ## The command object -/

theorem verdict_parseUuid (value : Json) (field : String) :
    verdict (parseUuid texts value field) =
      if (texts.uuid? (texts.str value)).isSome then .accepts else .rejects := by
  rw [parseUuid]
  cases texts.uuid? (texts.str value) <;> rfl

theorem verdict_edge_parseUuid (value : Option Json) (field : String) :
    verdict (EdgeProtocol.parseUuid texts value field) =
      if (texts.uuid? (texts.str (value.getD .null))).isSome then .accepts else .rejects := by
  rw [EdgeProtocol.parseUuid]
  cases texts.uuid? (texts.str (value.getD .null)) <;> rfl

/-- A missing loop session and one that is `None` are rejected by the center as missing, by the Edge
    as no identifier. -/
theorem verdict_loop_session (command : List (String × Json)) (key field : String) :
    verdict (required command key >>= fun value => parseUuid texts value field >>= fun _ =>
        (pure () : Except Raised Unit)) =
      if (texts.uuid? (texts.str ((Json.get? command key).getD .null))).isSome then
        .accepts
      else .rejects := by
  rw [verdict_bind, required]
  cases Json.get? command key with
  | none => simp [invalidMessage, verdict]
  | some value =>
    cases value with
    | null => simp [invalidMessage, verdict]
    | _ => exact (verdict_discard _ ()).trans (verdict_parseUuid texts _ field)

theorem verdict_optionsPass (message : String) (route command : List (String × Json))
    {session : Except Raised Unit}
    (hsession : verdict session =
      if (texts.uuid? (texts.str ((Json.get? command "loop_session_id").getD .null))).isSome then
        .accepts
      else .rejects) :
    verdict (checkAll (optionChecks texts message route command) >>= fun _ =>
        if ((Json.get? command "continuous_rosbag").getD (.bool false)).truthy then
          session
        else pure ()) =
      if optionsPass texts route command then .accepts else .rejects := by
  rw [verdict_then, verdict_checkAll, all_optionChecks, optionsPass]
  cases (optionChecks texts "" route command).all (·.1) with
  | false => rfl
  | true =>
    cases ((Json.get? command "continuous_rosbag").getD (.bool false)).truthy with
    | false => rfl
    | true => exact hsession

/-- The waypoints of a command object, where there are any. -/
def startWaypoints (command : List (String × Json)) :
    Option (List (String × Json) × List Json) :=
  match Json.get? command "route_snapshot" with
  | some (.obj route) =>
    match Json.get? route "waypoints" with
    | some (.arr (first :: rest)) => some (route, first :: rest)
    | _ => none
  | _ => none

theorem verdict_center (command : List (String × Json)) :
    verdict (validateTaskStart texts command) =
      match startWaypoints command with
      | none => .rejects
      | some (route, waypoints) =>
        if waypointsPass texts 0 waypoints && snapshotActions waypoints &&
            optionsPass texts route command then .accepts
        else .rejects := by
  rw [validateTaskStart, startWaypoints, required]
  match hroute : Json.get? command "route_snapshot" with
  | none | some .null | some (.bool _) | some (.num _) | some (.str _) | some (.arr _) => rfl
  | some (.obj route) =>
    simp only [ok_bind]
    rw [required]
    match hwaypoints : Json.get? route "waypoints" with
    | none | some .null | some (.bool _) | some (.num _) | some (.str _) | some (.obj _)
    | some (.arr []) => rfl
    | some (.arr (first :: rest)) =>
      simp only [ok_bind]
      rw [verdict_then, verdict_center_waypoints,
        verdict_optionsPass texts _ _ _ (verdict_loop_session texts command _ _)]
      cases waypointsPass texts 0 (first :: rest) && snapshotActions (first :: rest) with
      | true => rw [Bool.true_and]; rfl
      | false => rfl

theorem verdict_edge (command : List (String × Json)) :
    verdict (EdgeProtocol.validateTaskStart texts command) =
      match startWaypoints command with
      | none => .rejects
      | some (route, waypoints) =>
        if onlyObjectsReached texts 0 waypoints then
          if waypointsPass texts 0 waypoints && optionsPass texts route command then .accepts
          else .rejects
        else .raises := by
  rw [EdgeProtocol.validateTaskStart, startWaypoints]
  match hroute : Json.get? command "route_snapshot" with
  | none | some .null | some (.bool _) | some (.num _) | some (.str _) | some (.arr _) => rfl
  | some (.obj route) =>
    dsimp only
    match hwaypoints : Json.get? route "waypoints" with
    | none | some .null | some (.bool _) | some (.num _) | some (.str _) | some (.obj _)
    | some (.arr []) => rfl
    | some (.arr (first :: rest)) =>
      dsimp only
      rw [verdict_then, verdict_edge_waypoints, verdict_optionsPass texts _ _ _
        ((verdict_discard _ ()).trans (verdict_edge_parseUuid texts _ _))]
      cases onlyObjectsReached texts 0 (first :: rest) with
      | false => rfl
      | true =>
        cases waypointsPass texts 0 (first :: rest) with
        | true => rw [Bool.true_and]; rfl
        | false => rfl

/-! ## The payload around the command object -/

/-- The members of a payload around its command object are as `validate_command` asks. -/
structure ValidHeader (payload command : List (String × Json)) : Prop where
  commandId : ∃ value id, EdgeProtocol.present payload "command field" "command_id" = .ok value ∧
    texts.uuid? (texts.str value) = some id
  execution : ∃ value id, Json.get? payload "task_execution_id" = some value ∧
    value.truthy = true ∧ texts.uuid? (texts.str value) = some id
  times : ∃ issued issuedAt expires expiresAt,
    EdgeProtocol.present payload "command field" "issued_at" = .ok issued ∧
    EdgeProtocol.present payload "command field" "expires_at" = .ok expires ∧
    texts.fromIsoFormat (texts.str issued) = .aware issuedAt ∧
    texts.fromIsoFormat (texts.str expires) = .aware expiresAt ∧ issuedAt < expiresAt
  command : Json.get? payload "command" = some (.obj command)

variable {texts}

theorem validateCommand_of_header {payload command : List (String × Json)}
    (h : ValidHeader texts payload command) :
    EdgeProtocol.validateCommand texts "task.start" payload =
      EdgeProtocol.validateTaskStart texts command := by
  obtain ⟨idValue, id, hpresent, hid⟩ := h.commandId
  obtain ⟨executionValue, execution, hget, htruthy, hexecution⟩ := h.execution
  obtain ⟨issued, issuedAt, expires, expiresAt, hissued, hexpires, hissuedAt, hexpiresAt, hlt⟩ :=
    h.times
  have hcommand : EdgeProtocol.present payload "command field" "command" = .ok (.obj command) := by
    rw [EdgeProtocol.present, h.command]
  have htype : "task.start" ∈ EdgeProtocol.taskCommandTypes := by decide
  simp only [EdgeProtocol.validateCommand, hpresent, hissued, hexpires, hcommand, ok_bind,
    EdgeProtocol.parseUuid, EdgeProtocol.parseTime, Option.getD_some, hid, hget, htruthy,
    hexecution, hissuedAt, hexpiresAt, htype, if_true, if_neg (not_le.2 hlt)]

/-- The condition under which the two ends agree on a command object. -/
def EndsAgreeOn (texts : Texts) (command : List (String × Json)) : Prop :=
  ∀ route waypoints, startWaypoints command = some (route, waypoints) →
    onlyObjectsReached texts 0 waypoints = true ∧
    (waypointsPass texts 0 waypoints = true → optionsPass texts route command = true →
      snapshotActions waypoints = true)

theorem agree_iff (command : List (String × Json)) :
    Agree (validateTaskStart texts command) (EdgeProtocol.validateTaskStart texts command) ↔
      EndsAgreeOn texts command := by
  rw [Agree, verdict_center, verdict_edge, EndsAgreeOn]
  match hstart : startWaypoints command with
  | none => simp
  | some (route, waypoints) =>
    simp only [Option.some.injEq, Prod.mk.injEq]
    cases hobjects : onlyObjectsReached texts 0 waypoints with
    | false => simp [hobjects]
    | true =>
      cases hwaypoints : waypointsPass texts 0 waypoints <;>
        cases hactions : snapshotActions waypoints <;>
          cases hoptions : optionsPass texts route command <;>
            simp [hobjects, hwaypoints, hactions, hoptions]

end Checks

end RoamerX
