import RoamerX.Edge.CommandObjects
import RoamerX.Protocol.Fields

set_option autoImplicit false

/-! # What the Edge decodes

`decode_message` returns envelopes that keep the constraints its errors name, and raises nothing but a
`ProtocolError`, unless a message ends in one of the accesses that nothing guards. -/

namespace RoamerX

namespace EdgeProtocol

open Excepts

variable {texts : Texts}

/-! ## Fields in form -/

/-- The member reads as an instant with a timezone. -/
def IsInstant (texts : Texts) (mapping : List (String × Json)) (key : String) (instant : ℕ) : Prop :=
  ∃ value, Filled mapping key value ∧ texts.fromIsoFormat (texts.str value) = .aware instant

/-- A key of `decode_message` that must be filled. -/
def headerKeys : List String :=
  ["protocol_version", "message_id", "message_type", "robot_id", "session_id", "sent_at", "trace_id",
    "payload"]

/-- The fields of a message that are looked at first. -/
structure HeaderFilled (data : List (String × Json)) (messageType : Json) : Prop where
  filled : ∀ key ∈ headerKeys, ∃ value, Filled data key value
  version : Json.get? data "protocol_version" = some (.str "1.0")
  typed : Json.get? data "message_type" = some messageType

structure MessageFields (texts : Texts) (data : List (String × Json)) (messageType : String)
    (payload : List (String × Json)) : Prop extends HeaderFilled data (.str messageType) where
  known : messageType ∈ commandTypes ++ ["sync.response", "trajectory.ack"]
  payload : Json.get? data "payload" = some (.obj payload)
  messageId : IsUuid texts data "message_id"
  traceId : IsUuid texts data "trace_id"
  sentAt : ∃ instant, IsInstant texts data "sent_at" instant

/-- The fields of the payload of a command in form. -/
structure CommandFields (texts : Texts) (messageType : String) (payload command : List (String × Json)) :
    Prop where
  commandId : IsUuid texts payload "command_id"
  execution : messageType ∈ taskCommandTypes → ∃ value id,
    Json.get? payload "task_execution_id" = some value ∧ value.truthy = true
      ∧ texts.uuid? (texts.str value) = some id
  expiry : ∃ issued expires, IsInstant texts payload "issued_at" issued
    ∧ IsInstant texts payload "expires_at" expires ∧ issued < expires
  command : Json.get? payload "command" = some (.obj command)

/-! ## Each reader -/

theorem present_eq_ok_iff {mapping : List (String × Json)} {kind key : String} {value : Json} :
    present mapping kind key = .ok value ↔ Filled mapping key value := by
  unfold present Filled
  cases Json.get? mapping key with
  | none => simp [invalidMessage]
  | some v =>
    cases v with
    | null =>
      simp only [invalidMessage, Option.some.injEq, false_iff, reduceCtorEq]
      rintro ⟨rfl, hnull⟩
      exact absurd hnull (by simp [Json.isNull])
    | _ =>
      simp only [Except.ok.injEq, Option.some.injEq]
      constructor
      · rintro rfl
        exact ⟨rfl, rfl⟩
      · exact And.left

@[simp] theorem raisesOnly_present (mapping : List (String × Json)) (kind key : String) :
    RaisesOnly Raised.IsProtocolError (present mapping kind key) := by
  unfold present
  split
  · exact raisesOnly_invalidMessage _
  · exact raisesOnly_invalidMessage _
  · exact raisesOnly_ok _

theorem parseUuid_eq_ok_iff {value : Option Json} {field : String} {id : Uuid} :
    parseUuid texts value field = .ok id ↔ texts.uuid? (texts.str (value.getD .null)) = some id := by
  unfold parseUuid
  cases texts.uuid? (texts.str (value.getD .null)) with
  | none => simp [invalidMessage]
  | some id' => simp

@[simp] theorem raisesOnly_parseUuid (value : Option Json) (field : String) :
    RaisesOnly Raised.IsProtocolError (parseUuid texts value field) := by
  unfold parseUuid
  split
  · exact raisesOnly_ok _
  · exact raisesOnly_invalidMessage _

theorem parseTime_eq_ok_iff {value : Json} {instant : ℕ} :
    parseTime texts value = .ok instant ↔ texts.fromIsoFormat (texts.str value) = .aware instant := by
  unfold parseTime
  cases texts.fromIsoFormat (texts.str value) <;> simp [invalidMessage]

@[simp] theorem raisesOnly_parseTime (value : Json) :
    RaisesOnly Raised.IsProtocolError (parseTime texts value) := by
  unfold parseTime
  split
  · exact raisesOnly_invalidMessage _
  · exact raisesOnly_invalidMessage _
  · exact raisesOnly_invalidMessage _
  · exact raisesOnly_ok _

/-! ## Commands -/

/-- It is an object; nothing else has a `get`. -/
def IsObject : Json → Prop
  | .obj _ => True
  | _ => False

/-- `command["route_snapshot"]["waypoints"]`, where it is a list. -/
def routeWaypoints (command : List (String × Json)) : List Json :=
  match Json.get? command "route_snapshot" with
  | some (.obj route) =>
    match Json.get? route "waypoints" with
    | some (.arr waypoints) => waypoints
    | _ => []
  | _ => []

/-- Every waypoint that the checks come to is an object. -/
def StartReads (texts : Texts) (command : List (String × Json)) : Prop :=
  ∀ n waypoint, (routeWaypoints command)[n]? = some waypoint →
    (∀ m < n, ∀ before, (routeWaypoints command)[m]? = some before →
      validateWaypoint texts m before = .ok ()) →
    IsObject waypoint

theorem raisesOnly_validateWaypoint (index : ℕ) (waypoint : Json) :
    RaisesOnly Raised.IsProtocolError (validateWaypoint texts index waypoint) ↔ IsObject waypoint := by
  cases waypoint with
  | obj members => simp [validateWaypoint, IsObject]
  | _ => simp [validateWaypoint, IsObject, Raised.IsProtocolError]

theorem raisesOnly_validateTaskStart (command : List (String × Json)) :
    RaisesOnly Raised.IsProtocolError (validateTaskStart texts command) ↔ StartReads texts command := by
  have hoptions : ∀ (checks : List (Bool × String)) (continuous : Bool) (session : Option Json),
      RaisesOnly Raised.IsProtocolError (do
        checkAll checks
        if continuous then
          let _ ← parseUuid texts session "loop_session_id"
          return ()
        else return ()) := by
    intro checks continuous session
    rw [raisesOnly_bind_iff]
    refine ⟨raisesOnly_checkAll checks, ?_⟩
    intro _ _
    split_ifs
    · rw [raisesOnly_bind_iff]
      exact ⟨raisesOnly_parseUuid _ _, fun _ _ => raisesOnly_pure ()⟩
    · exact raisesOnly_pure ()
  unfold validateTaskStart StartReads routeWaypoints
  cases Json.get? command "route_snapshot" with
  | none => simp
  | some snapshot =>
    cases snapshot with
    | obj route =>
      dsimp only
      cases Json.get? route "waypoints" with
      | none => simp
      | some list =>
        cases list with
        | arr waypoints =>
          cases waypoints with
          | nil => simp
          | cons first rest =>
            dsimp only
            rw [raisesOnly_bind_iff, raisesOnly_checkEach_iff]
            simp only [Nat.zero_add, raisesOnly_validateWaypoint]
            constructor
            · intro h
              exact h.1
            · intro h
              exact ⟨h, fun _ _ => hoptions _ _ _⟩
        | _ => simp
    | _ => simp

/-- The execution that the payload of a task's command names. -/
def validateExecution (texts : Texts) (messageType : String) (payload : List (String × Json)) :
    Except Raised Unit :=
  if messageType ∈ taskCommandTypes then
    match Json.get? payload "task_execution_id" with
    | some execution =>
      if execution.truthy then do
        let _ ← parseUuid texts (some execution) "task_execution_id"
        return ()
      else invalidMessage "missing command field: task_execution_id"
    | none => invalidMessage "missing command field: task_execution_id"
  else .ok ()

/-- The end of the checks on a payload. -/
def validateTimes (texts : Texts) (messageType : String) (issuedAt expiresAt command : Json) :
    Except Raised Unit := do
  let issued ← parseTime texts issuedAt
  let expires ← parseTime texts expiresAt
  if expires ≤ issued then invalidMessage "expires_at must be after issued_at"
  else
    match command with
    | .obj command =>
      if messageType = "task.start" then validateTaskStart texts command else return ()
    | _ => invalidMessage "command must be object"

theorem validateCommand_eq (messageType : String) (payload : List (String × Json)) :
    validateCommand texts messageType payload = (do
      let commandId ← present payload "command field" "command_id"
      let issuedAt ← present payload "command field" "issued_at"
      let expiresAt ← present payload "command field" "expires_at"
      let command ← present payload "command field" "command"
      let _ ← parseUuid texts (some commandId) "command_id"
      validateExecution texts messageType payload
      validateTimes texts messageType issuedAt expiresAt command) := by
  unfold validateCommand validateExecution
  refine bind_congr fun commandId => bind_congr fun issuedAt => bind_congr fun expiresAt =>
    bind_congr fun command => bind_congr fun _ => ?_
  by_cases htask : messageType ∈ taskCommandTypes
  · rw [if_pos htask, if_pos htask]
    cases Json.get? payload "task_execution_id" with
    | none => rfl
    | some execution =>
      dsimp only
      by_cases htruthy : execution.truthy = true
      · rw [if_pos htruthy, if_pos htruthy, bind_assoc]
        rfl
      · rw [if_neg htruthy, if_neg htruthy]
        rfl
  · rw [if_neg htask, if_neg htask]
    rfl

theorem validateExecution_eq_ok_iff {messageType : String} {payload : List (String × Json)} :
    validateExecution texts messageType payload = .ok () ↔
      (messageType ∈ taskCommandTypes → ∃ value id, Json.get? payload "task_execution_id" = some value
        ∧ value.truthy = true ∧ texts.uuid? (texts.str value) = some id) := by
  unfold validateExecution
  split_ifs with htask
  · cases Json.get? payload "task_execution_id" with
    | none => simp [htask, invalidMessage]
    | some execution =>
      dsimp only
      split_ifs with htruthy
      · rw [bind_eq_ok_iff]
        simp [htask, htruthy, parseUuid_eq_ok_iff, pure, Except.pure]
      · simp [htask, htruthy, invalidMessage]
  · simp [htask]

theorem raisesOnly_validateExecution (messageType : String) (payload : List (String × Json)) :
    RaisesOnly Raised.IsProtocolError (validateExecution texts messageType payload) := by
  unfold validateExecution
  split_ifs
  · cases Json.get? payload "task_execution_id" with
    | none => exact raisesOnly_invalidMessage _
    | some execution =>
      dsimp only
      split_ifs
      · rw [raisesOnly_bind_iff]
        exact ⟨raisesOnly_parseUuid _ _, fun _ _ => raisesOnly_pure ()⟩
      · exact raisesOnly_invalidMessage _
  · exact raisesOnly_ok ()

theorem raisesOnly_validateTimes (messageType : String) (issuedAt expiresAt command : Json) :
    RaisesOnly Raised.IsProtocolError (validateTimes texts messageType issuedAt expiresAt command) ↔
      ∀ issued, texts.fromIsoFormat (texts.str issuedAt) = .aware issued →
        ∀ expires, texts.fromIsoFormat (texts.str expiresAt) = .aware expires → issued < expires →
        ∀ members, command = .obj members → messageType = "task.start" →
          StartReads texts members := by
  unfold validateTimes
  simp only [raisesOnly_bind_iff, raisesOnly_parseTime, true_and, parseTime_eq_ok_iff]
  refine forall_congr' fun issued => forall_congr' fun _ => forall_congr' fun expires =>
    forall_congr' fun _ => ?_
  by_cases hexpired : expires ≤ issued
  · rw [if_pos hexpired]
    refine iff_of_true (raisesOnly_invalidMessage _) ?_
    intro hlt
    omega
  · rw [if_neg hexpired]
    cases command with
    | obj members =>
      dsimp only
      split_ifs with htype
      · rw [raisesOnly_validateTaskStart]
        constructor
        · rintro h - _ ⟨⟩ -
          exact h
        · intro h
          exact h (by omega) members rfl htype
      · simp [htype]
    | _ => simp

theorem raisesOnly_validateCommand (messageType : String) (payload : List (String × Json)) :
    RaisesOnly Raised.IsProtocolError (validateCommand texts messageType payload) ↔
      ∀ command, CommandFields texts messageType payload command → messageType = "task.start" →
        StartReads texts command := by
  rw [validateCommand_eq]
  simp only [raisesOnly_bind_iff, raisesOnly_present, true_and, present_eq_ok_iff,
    raisesOnly_parseUuid, parseUuid_eq_ok_iff, Option.getD_some, raisesOnly_validateExecution,
    raisesOnly_validateTimes]
  constructor
  · rintro h command ⟨⟨commandId, id, hcommandId, hid⟩, hexecution, ⟨issued, expires,
      ⟨issuedAt, hissuedAt, hissued⟩, ⟨expiresAt, hexpiresAt, hexpires⟩, hlt⟩, hcommand⟩ htype
    exact h commandId hcommandId issuedAt hissuedAt expiresAt hexpiresAt (.obj command)
      ⟨hcommand, rfl⟩ id hid () (validateExecution_eq_ok_iff.2 hexecution) issued hissued expires hexpires
      hlt command rfl htype
  · rintro h commandId hcommandId issuedAt hissuedAt expiresAt hexpiresAt _ hcommand id hid _ hexecution
      issued hissued expires hexpires hlt command rfl htype
    exact h command ⟨⟨commandId, id, hcommandId, hid⟩, validateExecution_eq_ok_iff.1 hexecution,
      ⟨issued, expires, ⟨issuedAt, hissuedAt, hissued⟩, ⟨expiresAt, hexpiresAt, hexpires⟩, hlt⟩,
      hcommand.1⟩ htype

/-! ## Command objects -/

/-- The members that are looked up in a set have a hash where the checks come to them. -/
def MappingReads (messageType : String) (command : List (String × Json)) : Prop :=
  messageType ∈ ["mapping.start", "mapping.origin_start", "mapping.slam_start"] →
    noneOr isText (Json.get? command "map_name") = true →
    noneOr isBool (Json.get? command "record_rosbag") = true →
    HasHash (Json.get? command "mapping_type") ∧
      (noneOr (fun value => match value with
          | .str text => decide (text ∈ ["indoor", "outdoor"])
          | _ => false) (Json.get? command "mapping_type") = true →
        HasHash (Json.get? command "scene_scope"))

theorem raisesOnly_checkMember (choices : List String) (message : String) (value : Option Json) :
    RaisesOnly Raised.IsProtocolError (checkMember choices message value) ↔ HasHash value := by
  unfold checkMember HasHash
  split
  · simp
  · simp
  · split_ifs <;> simp
  · simp [Raised.IsProtocolError]
  · simp [Raised.IsProtocolError]
  · rename_i value' hnull hstr harr hobj
    cases value' <;> simp_all

theorem checkMember_eq_ok_iff {choices : List String} {message : String} {value : Option Json} :
    checkMember choices message value = .ok () ↔
      noneOr (fun value => match value with
        | .str text => decide (text ∈ choices)
        | _ => false) value = true := by
  unfold checkMember noneOr
  cases value with
  | none => simp
  | some value =>
    cases value with
    | null => simp
    | str text =>
      dsimp only
      split_ifs with hmember <;> simp [hmember, invalidMessage]
    | _ => simp [invalidMessage]

theorem raisesOnly_checkMapping {messageType : String} {command : List (String × Json)}
    (htype : messageType ∈ ["mapping.start", "mapping.origin_start", "mapping.slam_start"]) :
    RaisesOnly Raised.IsProtocolError (checkMapping messageType command) ↔
      MappingReads messageType command := by
  unfold checkMapping MappingReads
  simp only [raisesOnly_check_iff, raisesOnly_checkAll, true_and, raisesOnly_checkMember,
    checkMember_eq_ok_iff, checkAll_eq_ok_iff, List.forall_mem_cons, List.not_mem_nil, false_implies,
    implies_true, and_true]
  constructor
  · intro h _ hname hrecord
    exact h ⟨hname, hrecord⟩
  · rintro h ⟨hname, hrecord⟩
    exact h htype hname hrecord

theorem raisesOnly_checkCandidates (waypoints : List Json) :
    RaisesOnly Raised.IsProtocolError (checkEach checkCandidate 0 waypoints) := by
  rw [raisesOnly_checkEach_iff]
  intro n waypoint _ _
  unfold checkCandidate
  split
  · exact raisesOnly_checkAll _
  · exact raisesOnly_invalidMessage _

theorem raisesOnly_checkObject (messageType : String) (command : List (String × Json)) :
    RaisesOnly Raised.IsProtocolError (checkObject texts messageType command) ↔
      MappingReads messageType command := by
  unfold checkObject
  by_cases hmapping : messageType ∈ ["mapping.start", "mapping.origin_start", "mapping.slam_start"]
  · have hstop : messageType ≠ "diagnostics.nav_rosbag_stop" := by
      rintro rfl
      exact absurd hmapping (by decide)
    rw [if_neg hstop, if_pos hmapping]
    exact raisesOnly_checkMapping hmapping
  · refine iff_of_true ?_ (fun h => absurd h hmapping)
    rw [if_neg hmapping]
    split_ifs
    · rw [raisesOnly_bind_iff]
      exact ⟨raisesOnly_parseUuid _ _, fun _ _ => raisesOnly_pure ()⟩
    · exact raisesOnly_checkAll _
    · exact raisesOnly_checkAll _
    · -- the candidates of a progressive relocalization come last
      unfold checkRelocalize
      dsimp only
      rw [raisesOnly_bind_iff]
      refine ⟨raisesOnly_checkAll _, ?_⟩
      intro _ _
      split_ifs
      · split
        · exact raisesOnly_checkCandidates _
        · exact raisesOnly_invalidMessage _
      · exact raisesOnly_pure ()
    · exact raisesOnly_checkAll _
    · exact raisesOnly_checkAll _
    · unfold checkBoundary
      split
      · exact raisesOnly_checkAll _
      · exact raisesOnly_invalidMessage _
    · unfold checkLogConfig
      split
      · exact raisesOnly_checkAll _
      · exact raisesOnly_ok ()
      · exact raisesOnly_invalidMessage _
    · exact raisesOnly_checkAll _
    · exact raisesOnly_checkAll _
    · exact raisesOnly_ok ()

end EdgeProtocol

end RoamerX
