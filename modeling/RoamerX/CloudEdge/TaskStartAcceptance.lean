import RoamerX.Center.LoopDistance
import RoamerX.CloudEdge.TaskStartAgreement

set_option autoImplicit false

/-! # What the center sends, the Edge accepts

A snapshot has waypoints whose fields are normalised one by one; each of them passes the check that
the Edge makes of it. -/

namespace RoamerX

namespace RouteSnapshots

open Excepts

variable {texts : Texts}

/-! ## Choices -/

theorem normalizeChoice_mem {choices : List String} {default : String} (h : default ∈ choices)
    (value : Option Json) : normalizeChoice texts choices default value ∈ choices := by
  rw [normalizeChoice]
  split
  · assumption
  · exact h

theorem normalizeArrivalPolicy_mem (value : Option Json) :
    normalizeArrivalPolicy texts value ∈ arrivalPolicies := by
  rw [normalizeArrivalPolicy]
  split
  · assumption
  · decide

theorem normalizeArrivalMicroAdjustMode_mem (value : Option Json) (arrivalPolicy : String) :
    normalizeArrivalMicroAdjustMode texts value arrivalPolicy ∈ microAdjustModes := by
  rw [normalizeArrivalMicroAdjustMode]
  split
  · decide
  · exact normalizeChoice_mem (by decide) value

theorem isChoice_str (texts : Texts) {choices : List String} (hplain : ∀ c ∈ choices, plainWord c = true)
    {s : String} (h : s ∈ choices) : isChoice texts choices (.str s) = true := by
  rw [isChoice, texts.str_str, texts.lower_plain s (hplain s h)]
  exact decide_eq_true h

/-! ## Fields -/

/-- What the checks ask of the fields of a waypoint. -/
structure ValidFields (w : WaypointFields) : Prop where
  localController : w.localController ∈ localControllers
  navigationSpeedLevel : w.navigationSpeedLevel ∈ speedLevels
  globalController : w.globalController ∈ globalControllers
  arrivalPolicy : w.arrivalPolicy ∈ arrivalPolicies
  arrivalMicroAdjustMode : w.arrivalMicroAdjustMode ∈ microAdjustModes
  noGoalInPassing : w.arrivalPolicy ∈ ["pass_through", "dock"] →
    w.arrivalMicroAdjustMode = "cmd_vel"
  localizationAnchorPreference : w.localizationAnchorPreference ∈ anchorPreferences
  speechMode : w.speechMode ∈ speechModes
  dwellSeconds : w.dwellSeconds.inDwellRange = true

theorem inDwellRange_roundTenth {v : JsonNumber} (h : v.inDwellRange = true) :
    (roundTenth v).inDwellRange = true := by
  cases v with
  | int n => exact h
  | nonfinite => exact h
  | float q =>
    have hq : 0 ≤ q ∧ q ≤ 3600 := of_decide_eq_true h
    have hnear := abs_le.1 (TrajectoryDb.abs_roundHalfEven_sub (q * 10))
    have hlow : 0 ≤ roundHalfEven (q * 10) := by
      have : (-1 : ℚ) < roundHalfEven (q * 10) := by linarith [hnear.1, hq.1]
      have : -1 < roundHalfEven (q * 10) := by exact_mod_cast this
      omega
    have hhigh : roundHalfEven (q * 10) ≤ 36000 := by
      have : (roundHalfEven (q * 10) : ℚ) < 36001 := by linarith [hnear.2, hq.2]
      have : roundHalfEven (q * 10) < 36001 := by exact_mod_cast this
      omega
    have hlow' : (0 : ℚ) ≤ roundHalfEven (q * 10) := by exact_mod_cast hlow
    have hhigh' : (roundHalfEven (q * 10) : ℚ) ≤ 36000 := by exact_mod_cast hhigh
    refine decide_eq_true ⟨by positivity, ?_⟩
    linarith

theorem nav2GoalAllowed_of_valid {waypoint : List (String × Json)} {w : WaypointFields}
    (h : ValidFields w)
    (hmode : Json.get? waypoint "arrival_micro_adjust_mode" = some (.str w.arrivalMicroAdjustMode))
    (hpolicy : Json.get? waypoint "arrival_policy" = some (.str w.arrivalPolicy)) :
    nav2GoalAllowed texts waypoint = true := by
  have hplain : plainWord w.arrivalPolicy = true :=
    (show ∀ s ∈ arrivalPolicies, plainWord s = true by decide) _ h.arrivalPolicy
  have hne : w.arrivalPolicy ≠ "" :=
    (show ∀ s ∈ arrivalPolicies, s ≠ "" by decide) _ h.arrivalPolicy
  have htruthy : (Json.str w.arrivalPolicy).truthy = true := decide_eq_true hne
  rw [nav2GoalAllowed, hmode, hpolicy, orElse]
  by_cases hpass : w.arrivalPolicy ∈ ["pass_through", "dock"]
  · have hgoal : isChoice texts ["nav2_goal"] (.str w.arrivalMicroAdjustMode) = false := by
      rw [h.noGoalInPassing hpass, isChoice, texts.str_str, texts.lower_plain _ (by decide)]
      decide
    simp [hgoal]
  · have hpolicy : isChoice texts ["pass_through", "dock"] (.str w.arrivalPolicy) = false := by
      rw [isChoice, texts.str_str, texts.lower_plain _ hplain]
      exact decide_eq_false hpass
    simp [htruthy, hpolicy]

theorem waypointPasses_waypointObject {index : ℕ} {x y yaw : JsonNumber} {w : WaypointFields}
    (h : ValidFields w) : waypointPasses texts index (waypointObject index x y yaw w) = true := by
  have hdwell := inDwellRange_roundTenth h.dwellSeconds
  have hlocal := isChoice_str texts (by decide) h.localController
  have hglobal := isChoice_str texts (by decide) h.globalController
  have hspeed := isChoice_str texts (by decide) h.navigationSpeedLevel
  have hpolicy := isChoice_str texts (by decide) h.arrivalPolicy
  have hmode := isChoice_str texts (by decide) h.arrivalMicroAdjustMode
  have hanchor := isChoice_str texts (by decide) h.localizationAnchorPreference
  have hspeech := isChoice_str texts (by decide) h.speechMode
  have hgoal : nav2GoalAllowed texts (waypointObject index x y yaw w) = true :=
    nav2GoalAllowed_of_valid h (by simp [waypointObject]) (by simp [waypointObject])
  rw [waypointPasses, waypointChecks, hgoal]
  simp [waypointObject, Json.equalsInt, isNumeric, absentOrBool, absentOrChoice, hdwell, hlocal,
    hglobal, hspeed, hpolicy, hmode, hanchor, hspeech]

theorem arrayFields_valid (route : Route) (index : ℕ) :
    ValidFields (arrayFields texts route index) where
  localController := show "mppi" ∈ localControllers by decide
  navigationSpeedLevel := show "micro" ∈ speedLevels by decide
  globalController := normalizeChoice_mem (by decide) _
  arrivalPolicy := normalizeArrivalPolicy_mem _
  arrivalMicroAdjustMode := show "cmd_vel" ∈ microAdjustModes by decide
  noGoalInPassing := fun _ => rfl
  localizationAnchorPreference := show "balanced" ∈ anchorPreferences by decide
  speechMode := show "disabled" ∈ speechModes by decide
  dwellSeconds := show (JsonNumber.int 0).inDwellRange = true by decide

theorem inDwellRange_of_ok {raw : List (String × Json)} {v : JsonNumber}
    (h : dwellSecondsOf texts raw = .ok v) : v.inDwellRange = true := by
  rw [dwellSecondsOf] at h
  split at h
  · exact nomatch h
  · split at h
    · next hrange => exact Except.ok.inj h ▸ hrange
    · exact nomatch h

theorem objectFields_valid {route : Route} {index : ℕ} {raw : List (String × Json)}
    {w : WaypointFields} (h : objectFields texts route index raw = .ok w) : ValidFields w := by
  obtain ⟨mapPointNumber, -, h⟩ := bind_eq_ok h
  obtain ⟨dwellSeconds, hdwell, h⟩ := bind_eq_ok h
  obtain ⟨actions, -, h⟩ := bind_eq_ok h
  obtain ⟨correction, -, h⟩ := bind_eq_ok h
  obtain ⟨speech, -, h⟩ := bind_eq_ok h
  rw [← Except.ok.inj h]
  exact {
    localController := normalizeChoice_mem (by decide) _
    navigationSpeedLevel := normalizeChoice_mem (by decide) _
    globalController := normalizeChoice_mem (by decide) _
    arrivalPolicy := normalizeArrivalPolicy_mem _
    arrivalMicroAdjustMode := normalizeArrivalMicroAdjustMode_mem _ _
    noGoalInPassing := fun hpass => if_pos hpass
    localizationAnchorPreference := normalizeChoice_mem (by decide) _
    speechMode := by
      dsimp only
      split
      · assumption
      · split <;> decide
    dwellSeconds := inDwellRange_of_ok hdwell }

theorem waypointPasses_of_normalizeWaypoint {route : Route} {index : ℕ} {raw : Json}
    {waypoint : List (String × Json)}
    (h : normalizeWaypoint texts route index raw = .ok waypoint) :
    waypointPasses texts index waypoint = true := by
  match raw, h with
  | .obj raw, h =>
    obtain ⟨w, hw, h⟩ := bind_eq_ok h
    obtain ⟨x, -, h⟩ := bind_eq_ok h
    obtain ⟨y, -, h⟩ := bind_eq_ok h
    obtain ⟨yaw, -, h⟩ := bind_eq_ok h
    rw [← Except.ok.inj h]
    exact waypointPasses_waypointObject (objectFields_valid hw)
  | .arr (x :: y :: rest), h =>
    obtain ⟨x, -, h⟩ := bind_eq_ok h
    obtain ⟨y, -, h⟩ := bind_eq_ok h
    obtain ⟨yaw, -, h⟩ := bind_eq_ok h
    rw [← Except.ok.inj h]
    exact waypointPasses_waypointObject (arrayFields_valid route index)

theorem waypointsPass_of_normalizeFrom {route : Route} {raws : List Json} {index : ℕ}
    {waypoints : List (List (String × Json))}
    (h : normalizeFrom texts route index raws = .ok waypoints) :
    waypointsPass texts index (waypoints.map .obj) = true := by
  induction raws generalizing index waypoints with
  | nil =>
    rw [← Except.ok.inj h]
    rfl
  | cons raw raws ih =>
    obtain ⟨waypoint, hwaypoint, h⟩ := bind_eq_ok h
    obtain ⟨others, hothers, h⟩ := bind_eq_ok h
    rw [← Except.ok.inj h, List.map_cons, waypointsPass, ih hothers, Bool.and_true]
    exact waypointPasses_of_normalizeWaypoint hwaypoint

/-- A snapshot has waypoints, all of which pass, and a global controller. -/
structure ValidSnapshot (texts : Texts) (snapshot : List (String × Json)) : Prop where
  waypoints : ∃ first rest, Json.get? snapshot "waypoints" = some (.arr (first :: rest)) ∧
    waypointsPass texts 0 (first :: rest) = true
  globalController : ∃ s ∈ globalControllers,
    Json.get? snapshot "global_controller" = some (.str s)

theorem buildRouteSnapshot_valid {route : Route} {snapshot : List (String × Json)}
    (h : buildRouteSnapshot texts route = .ok snapshot) : ValidSnapshot texts snapshot := by
  obtain ⟨waypoints, hwaypoints, h⟩ := bind_eq_ok h
  obtain ⟨normalized, hnormalized, hwaypoints⟩ := bind_eq_ok hwaypoints
  have hpass := waypointsPass_of_normalizeFrom hnormalized
  rw [← Except.ok.inj h]
  split at hwaypoints
  · exact nomatch hwaypoints
  next hne =>
    rw [← Except.ok.inj hwaypoints]
    obtain ⟨first, rest, hcons⟩ := List.exists_cons_of_ne_nil hne
    rw [hcons] at hpass
    refine ⟨⟨.obj first, rest.map .obj, ?_, hpass⟩,
      ⟨normalizeGlobalController texts (some (.str route.globalController)),
        normalizeChoice_mem (by decide) _, ?_⟩⟩
    · simp [hcons]
    · simp

theorem storedSnapshot_valid {route : Route} {given : Option (List (String × Json))}
    {executionSource : String} {stored : List (String × Json)}
    (hgiven : ∀ snapshot, given = some snapshot → ValidSnapshot texts snapshot)
    (h : storedSnapshot texts route given executionSource = .ok stored) :
    ValidSnapshot texts stored := by
  obtain ⟨snapshot, hsnapshot, h⟩ := bind_eq_ok h
  obtain ⟨snapshotMap, -, h⟩ := bind_eq_ok h
  have hvalid : ValidSnapshot texts snapshot := by
    cases given with
    | none => exact buildRouteSnapshot_valid hsnapshot
    | some s => exact Except.ok.inj hsnapshot ▸ hgiven s rfl
  rw [← Except.ok.inj h]
  exact {
    waypoints := by simpa using hvalid.waypoints
    globalController := by simpa using hvalid.globalController }

end RouteSnapshots

namespace TaskStartMessages

open RouteSnapshots Excepts

variable {texts : Texts}

/-! ## The message -/

theorem startPayload_members {e : Execution} {options command : List (String × Json)}
    (h : startPayload texts e options = .ok command) :
    Json.get? command "route_snapshot" = some (.obj e.routeSnapshot) ∧
    Json.get? command "record_rosbag" = some (.bool (recordRosbag e options)) ∧
    Json.get? command "continuous_rosbag" =
      some (.bool (recordRosbag e options && e.loopSessionId.isSome &&
        (optionOr options "continuous_rosbag" (.bool false)).truthy)) ∧
    Json.get? command "loop_session_id" = some (uuidOrNull texts e.loopSessionId) := by
  obtain ⟨docking, -, h⟩ := bind_eq_ok h
  obtain ⟨map, -, h⟩ := bind_eq_ok h
  obtain ⟨loopTotal, -, h⟩ := bind_eq_ok h
  rw [← Except.ok.inj h]
  simp

theorem optionsPass_startPayload {e : Execution} {options command : List (String × Json)}
    (hvalid : ValidSnapshot texts e.routeSnapshot)
    (h : startPayload texts e options = .ok command) :
    optionsPass texts e.routeSnapshot command = true := by
  obtain ⟨-, hrecord, hcontinuous, hsession⟩ := startPayload_members h
  obtain ⟨s, hs, hcontroller⟩ := hvalid.globalController
  have hchoice := isChoice_str texts (by decide) hs
  have hne : s ≠ "" := (show ∀ s ∈ globalControllers, s ≠ "" by decide) s hs
  rw [optionsPass, optionChecks, hrecord, hcontinuous, hsession, hcontroller]
  cases e.loopSessionId with
  | none => simp [orElse, hne, hchoice, Json.truthy]
  | some id => cases recordRosbag e options <;> simp [orElse, hne, hchoice, Json.truthy, uuidOrNull]

theorem validateTaskStart_startPayload {e : Execution} {options command : List (String × Json)}
    (hvalid : ValidSnapshot texts e.routeSnapshot)
    (h : startPayload texts e options = .ok command) :
    EdgeProtocol.validateTaskStart texts command = .ok () := by
  have hoptions := optionsPass_startPayload hvalid h
  obtain ⟨hroute, -⟩ := startPayload_members h
  obtain ⟨first, rest, hwaypoints, hpass⟩ := hvalid.waypoints
  have hobjects := onlyObjectsReached_of_pass texts hpass
  have hstart : startWaypoints command = some (e.routeSnapshot, first :: rest) := by
    rw [startWaypoints, hroute]
    dsimp only
    rw [hwaypoints]
  apply eq_ok_of_accepts
  rw [verdict_edge, hstart]
  simp only [hobjects, hpass, hoptions, Bool.and_self, if_true]

theorem validHeader_messagePayload {command : Command} {execution : Uuid}
    (hexecution : command.taskExecution = some execution)
    (htimes : command.issuedAt < command.expiresAt) :
    ValidHeader texts (messagePayload texts command) command.payload where
  commandId := ⟨.str (texts.uuidText command.id), command.id,
    by simp [EdgeProtocol.present, messagePayload], by simp⟩
  execution := ⟨.str (texts.uuidText execution), execution,
    by simp [messagePayload, hexecution, uuidOrNull],
    decide_eq_true (texts.uuidText_ne_empty execution), by simp⟩
  times := ⟨.str (texts.isoText command.issuedAt), 1000 * command.issuedAt,
    .str (texts.isoText command.expiresAt), 1000 * command.expiresAt,
    by simp [EdgeProtocol.present, messagePayload], by simp [EdgeProtocol.present, messagePayload],
    by simp, by simp, by omega⟩
  command := by simp [messagePayload]

theorem decode_buildCommandMessage {command : Command} {execution : Uuid}
    (htype : command.commandType = "task.start")
    (hexecution : command.taskExecution = some execution)
    (htimes : command.issuedAt < command.expiresAt)
    (hcommand : EdgeProtocol.validateTaskStart texts command.payload = .ok ())
    (sessionId : String) (messageId drawnSessionId : Uuid) (now : ℕ) :
    ∃ envelope, EdgeProtocol.decodeMessage texts
        (buildCommandMessage texts command sessionId messageId drawnSessionId now) = .ok envelope ∧
      envelope.messageType = "task.start" ∧
      EdgeProtocol.validateCommand texts envelope.messageType envelope.payload = .ok () := by
  have hvalid : EdgeProtocol.validateCommand texts "task.start" (messagePayload texts command) =
      .ok () :=
    (validateCommand_of_header (validHeader_messagePayload hexecution htimes)).trans hcommand
  have hknown : EdgeProtocol.knownType texts (.str "task.start") = .ok "task.start" := by
    rw [EdgeProtocol.knownType, if_pos (by decide)]
  have hmember : "task.start" ∈ EdgeProtocol.commandTypes := by decide
  refine ⟨{
    messageId := messageId
    messageType := "task.start"
    robotId := command.robotCode
    sessionId := orText sessionId (texts.uuidText drawnSessionId)
    sentAt := 1000 * now
    traceId := command.traceId
    sequence := none
    payload := messagePayload texts command }, ?_, rfl, hvalid⟩
  simp [EdgeProtocol.decodeMessage, EdgeProtocol.present, buildCommandMessage, ok_bind, htype,
    hknown, hmember, hvalid, EdgeProtocol.parseUuid, EdgeProtocol.parseTime]

/-- Every start that the center builds of a route is accepted by the Edge, and on a command object
    in a valid payload the two ends agree exactly where no waypoint that is no object is reached and
    nothing but snapshots is asked for. -/
theorem starts_accepted_and_ends_agree_iff (texts : Texts) :
    (∀ (route : Route) (given : Option (List (String × Json))) (executionSource : String)
        (e : Execution) (options : List (String × Json)) (c : Circumstances) (command : Command)
        (sessionId : String) (messageId drawnSessionId : Uuid) (now : ℕ),
      (∀ snapshot, given = some snapshot →
        ∃ earlier, buildRouteSnapshot texts earlier = .ok snapshot) →
      storedSnapshot texts route given executionSource = .ok e.routeSnapshot →
      create texts e options c = .ok command →
      ∃ envelope, EdgeProtocol.decodeMessage texts
          (buildCommandMessage texts command sessionId messageId drawnSessionId now) =
            .ok envelope ∧
        envelope.messageType = "task.start" ∧
        EdgeProtocol.validateCommand texts envelope.messageType envelope.payload = .ok ()) ∧
    (∀ payload command : List (String × Json), ValidHeader texts payload command →
      (Agree (validateTaskStart texts command)
          (EdgeProtocol.validateCommand texts "task.start" payload) ↔
        EndsAgreeOn texts command)) := by
  constructor
  · intro route given executionSource e options c command sessionId messageId drawnSessionId now
      hgiven hstored hcreate
    have hvalid : ValidSnapshot texts e.routeSnapshot := by
      refine storedSnapshot_valid (fun snapshot hsnapshot => ?_) hstored
      obtain ⟨earlier, hearlier⟩ := hgiven snapshot hsnapshot
      exact buildRouteSnapshot_valid hearlier
    obtain ⟨payload, hpayload, hcreate⟩ := bind_eq_ok hcreate
    rw [← Except.ok.inj hcreate]
    have htimes : c.now < c.now + 1000 * taskMaxDurationSeconds := by
      have : 0 < taskMaxDurationSeconds := by decide
      omega
    exact decode_buildCommandMessage rfl rfl htimes
      (validateTaskStart_startPayload hvalid hpayload) sessionId messageId drawnSessionId now
  · intro payload command hheader
    rw [validateCommand_of_header hheader]
    exact agree_iff command

/-- A start command with a given command object. -/
def startCommand (payload : List (String × Json)) : Command where
  id := 1
  commandType := "task.start"
  taskExecution := some 2
  payload := payload
  operatorId := none
  traceId := 3
  issuedAt := 0
  expiresAt := 1
  robotCode := "xg-1"
  lastStateVersion := 0

/-- A command object with given waypoints. -/
def startOf (waypoints : List Json) : List (String × Json) :=
  [("route_snapshot", .obj [("waypoints", .arr waypoints)])]

/-- A waypoint at which a photo is asked for. -/
def photoWaypoint : List (String × Json) :=
  [("sequence", .num (.int 0)), ("x", .num (.int 0)), ("y", .num (.int 0)), ("yaw", .num (.int 0)),
    ("actions", .arr [.str "photo"])]

/-- A waypoint that is a text: the center rejects the start, the Edge's check raises an
    `AttributeError`. A waypoint with another action: the center rejects, the Edge accepts. -/
theorem ends_disagree :
    (∃ payload, ValidHeader default payload (startOf [.str "x"]) ∧
      verdict (validateTaskStart default (startOf [.str "x"])) = .rejects ∧
      EdgeProtocol.validateCommand default "task.start" payload =
        .error (.other "AttributeError")) ∧
    (∃ payload, ValidHeader default payload (startOf [.obj photoWaypoint]) ∧
      verdict (validateTaskStart default (startOf [.obj photoWaypoint])) = .rejects ∧
      EdgeProtocol.validateCommand default "task.start" payload = .ok ()) ∧
    ¬ ∀ (texts : Texts) (payload command : List (String × Json)),
      ValidHeader texts payload command →
      Agree (validateTaskStart texts command)
        (EdgeProtocol.validateCommand texts "task.start" payload) := by
  have hheader : ∀ command, ValidHeader default (messagePayload default (startCommand command))
      command := fun command => validHeader_messagePayload rfl Nat.zero_lt_one
  have htext : verdict (validateTaskStart default (startOf [.str "x"])) = .rejects := by
    decide
  have hraised : EdgeProtocol.validateCommand default "task.start"
      (messagePayload default (startCommand (startOf [.str "x"]))) =
        .error (.other "AttributeError") := by
    rw [validateCommand_of_header (hheader _)]
    rfl
  have hphoto : verdict (validateTaskStart default (startOf [.obj photoWaypoint])) = .rejects := by
    decide
  have haccepted : EdgeProtocol.validateCommand default "task.start"
      (messagePayload default (startCommand (startOf [.obj photoWaypoint]))) = .ok () := by
    rw [validateCommand_of_header (hheader _)]
    exact eq_ok_of_accepts (by decide)
  refine ⟨⟨_, hheader _, htext, hraised⟩, ⟨_, hheader _, hphoto, haccepted⟩, ?_⟩
  intro hagree
  have h := hagree default _ _ (hheader (startOf [.str "x"]))
  rw [Agree, htext, hraised] at h
  exact absurd h (by decide)

def pointRoute : Route where
  id := 1
  name := "gate"
  mapData := {
    id := 1
    name := "yard"
    localMapDir := ""
    coordinateMode := "local_only"
    sceneScope := "indoor"
    localizationMode := "ndt"
    originStatus := "none"
    completeness := .null }
  waypoints := [.arr [.num (.int 1), .num (.int 2)]]
  waypointNames := []
  sceneScope := "indoor"
  globalController := ""

/-- An execution with a given snapshot. -/
def executionOf (snapshot : List (String × Json)) : Execution where
  id := 2
  taskId := 1
  taskName := "gate"
  routeSnapshot := snapshot
  loopSessionId := none
  roundNumber := 1
  routeRecordRosbag := false
  taskRecordRosbag := false

theorem starts_accepted_and_ends_agree_iff_pointRoute :
    (∃ stored command envelope,
      storedSnapshot default pointRoute none "task_center" = .ok stored ∧
      create default (executionOf stored) [] ⟨1, 3, 0, none, "xg-1", 0⟩ = .ok command ∧
      EdgeProtocol.decodeMessage default (buildCommandMessage default command "" 4 5 0) =
        .ok envelope) ∧
    (Agree (validateTaskStart default (startOf []))
        (EdgeProtocol.validateCommand default "task.start"
          (messagePayload default (startCommand (startOf [])))) ↔
      EndsAgreeOn default (startOf [])) := by
  constructor
  · obtain ⟨stored, command, hstored, hcommand⟩ : ∃ stored command,
        storedSnapshot default pointRoute none "task_center" = .ok stored ∧
        create default (executionOf stored) [] ⟨1, 3, 0, none, "xg-1", 0⟩ = .ok command :=
      ⟨_, _, rfl, rfl⟩
    obtain ⟨envelope, henvelope, -⟩ := (starts_accepted_and_ends_agree_iff default).1 pointRoute none
      "task_center" (executionOf stored) [] ⟨1, 3, 0, none, "xg-1", 0⟩ command "" 4 5 0
      (fun _ h => nomatch h) hstored hcommand
    exact ⟨stored, command, envelope, hstored, hcommand, henvelope⟩
  · exact (starts_accepted_and_ends_agree_iff default).2 _ _
      (validHeader_messagePayload rfl (by decide))

end TaskStartMessages

end RoamerX
