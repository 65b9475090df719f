import RoamerX.Edge.CommandForms
import RoamerX.Edge.CommandProcessor
import RoamerX.Lib.Effects

set_option autoImplicit false

/-! # One run of `handle_command`

What a handler does with one command from its arrival to its end, statement by statement, with every
place where something may raise. The row in `processed_commands` is that of the command. What the
adapters and the executor do inside a call is a parameter, and so is what `handle_command` does not
look at of the route that `prepare_task_start` makes ready. The publishers and the emitter of the
structured log are taken to return. -/

namespace RoamerX

open Effects Effect

namespace HandleCommand

/-! ## State -/

/-- An exception: `ProtocolError` with its details, where these are a `dict`, or any other. -/
inductive Thrown
  | protocol (code message : String) (details : Option ResultPayload)
  | other (message : String)

/-- `RuntimeSafetyState`, without the time of the last normal localization. -/
structure SafetyState where
  localizationStatus : String
  navReady : Bool
  emergencyStop : Bool
  controlMode : String
  powerAvailable : Bool
  batteryPercent : Option ℤ
  currentMapId : String
  currentMapVersion : String
  currentMapLocalState : String
  currentMapError : String

/-- What the Edge keeps besides the row of the command; `world` is what the adapters and the executor
    keep to themselves. -/
structure Device (W : Type) where
  safety : SafetyState
  context : Option TaskContext
  /-- The trusted poses in the store, by map and version. -/
  trustedPoses : String → String → Option Json
  /-- The trusted pose the navigation adapter holds. -/
  latestTrusted : Option Json
  world : W

/-- The variables of `handle_command` that its handlers read; `none` is an unbound name for
    `prepared_task_start`. -/
structure Locals where
  ack : Option AckPayload := none
  preparedTaskStart : Option Bool := none

/-- The Edge while a command is handled. -/
structure EdgeState (W : Type) where
  device : Device W
  record : Option CommandRecord := none
  acks : List AckPayload := []
  results : List CommandResultPayload := []
  locals : Locals := {}

abbrev Handling (W α : Type) : Type := Effect Thrown (EdgeState W) α

abbrev AdapterCall (W α : Type) : Type := Effect Thrown W α

/-- A call of the executor; it may store a result for the command that started its task. -/
abbrev ExecutorCall (W α : Type) : Type := Effect Thrown (Device W × Option CommandResultPayload) α

/-- What `handle_command` calls and what is configured. -/
structure Calls (W : Type) where
  robotId : String
  texts : Texts
  /-- `datetime.now(timezone.utc)`. -/
  now : ℕ
  /-- `time.monotonic() - localization_normal_since_monotonic`. -/
  stableFor : ℚ
  localizationStableSeconds : ℚ
  lowBatteryPercent : ℤ
  /-- `dict(value)`; `none` is an exception. -/
  dict? : Json → Option (List (String × Json))
  structuredLogs : Bool
  navigationStack : Bool
  mapActivation : Bool
  navigationBoundary : Bool
  localization : Bool
  /-- `prepare`, or `start` where the stack is not ready. -/
  prepareStack : Bool → AdapterCall W Unit
  waitUntilPrepared : AdapterCall W Bool
  waitUntilReady : AdapterCall W Bool
  /-- `activate`: the map the safety state names from then on, if it got so far. -/
  activateMap : List (String × Json) → AdapterCall W Unit
  activatedMap : List (String × Json) → W → Option (String × String)
  activateBoundary : List (String × Json) → AdapterCall W Unit
  switchMap : AdapterCall W Unit
  validateRoute : Json → AdapterCall W Unit
  assistStop : AdapterCall W Unit
  takeoverStop : AdapterCall W Unit
  localizationOperationActive : AdapterCall W Bool
  assertMapConstraints : List (String × Json) → AdapterCall W Unit
  invalidatesTrusted : Bool
  /-- `_action_registry.validate`: the text of the `ValueError`. -/
  unsupportedActions : List Json → Option String
  /-- The context that `prepare_task_start` installs. -/
  buildContext : EdgeProtocol.MessageEnvelope → AdapterCall W TaskContext
  /-- The branch of `_execute` for the type, up to its result. -/
  perform : EdgeProtocol.MessageEnvelope → ExecutorCall W ResultPayload
  setProgress : ExecutorCall W Unit
  initializeBeforeNavigation : ExecutorCall W Unit
  activateExecution : ExecutorCall W Unit
  validateAdmission : ExecutorCall W Unit
  launch : ExecutorCall W Unit
  forceExit : ExecutorCall W Unit

section

variable {W : Type}

def onWorld {α : Type} (call : AdapterCall W α) : Handling W α :=
  within (fun s => s.device.world)
    (fun s w => { s with device := { s.device with world := w } }) call

/-- `save_command_result`, where there is one. -/
def EdgeState.saveResult (s : EdgeState W) : Option CommandResultPayload → EdgeState W
  | none => s
  | some result => { s with record := some { s.record.getD {} with result := some result } }

/-- Call the executor, with the result that it stores for the command. -/
def onExecutor {α : Type} (call : ExecutorCall W α) : Handling W α :=
  within (fun s => (s.device, none)) (fun s t => { s with device := t.1 }.saveResult t.2) call

def setSafety (f : SafetyState → SafetyState) : Handling W Unit :=
  modify fun s => { s with device := { s.device with safety := f s.device.safety } }

def safety : Handling W SafetyState := get fun s => s.device.safety

def protocolError {α : Type} (code message : String) : Handling W α :=
  raise (.protocol code message none)

/-! ## The command -/

/-- `envelope.payload.get("command") or {}`. -/
def commandObject (e : EdgeProtocol.MessageEnvelope) : List (String × Json) :=
  match Json.get? e.payload "command" with
  | some (.obj command) => command
  | _ => []

/-- `value or {}`, where it has a `get`. -/
def members? (value : Option Json) : Option (List (String × Json)) :=
  match orElse value (.obj []) with
  | .obj members => some members
  | _ => none

/-- `bool(command.get("smart_initialize", True))`. -/
def smartInitialize (command : List (String × Json)) : Bool :=
  ((Json.get? command "smart_initialize").getD (.bool true)).truthy

/-- The context of a log entry can be read from the command. -/
def readsLogContext (command : List (String × Json)) : Bool :=
  match members? (Json.get? command "route_snapshot") with
  | some route => (members? (Json.get? route "map")).isSome
  | none => false

variable (calls : Calls W)

/-- `_structured`; the emitter returns. -/
def structured (e : EdgeProtocol.MessageEnvelope) : Handling W Unit :=
  if calls.structuredLogs && !readsLogContext (commandObject e) then
    raise (.other "AttributeError")
  else pure ()

/-- `_state_version`. -/
def currentVersion (context : Option TaskContext) : ℤ :=
  match context with
  | none => 0
  | some c => if c.state.isTerminal then 0 else c.stateVersion

def validateExpectedState (e : EdgeProtocol.MessageEnvelope) : Handling W Unit :=
  if e.messageType ∈ ["task.pause", "task.resume", "task.force_exit", "task.recover.v1"] then pure ()
  else
    match Json.get? e.payload "expected_robot_state_version" with
    | none | some .null => pure ()
    | some expected =>
      match calls.texts.int? expected with
      | none => raise (.other "ValueError")
      | some expected => do
        let current ← get fun s => currentVersion s.device.context
        if expected < current then protocolError "STALE_ROBOT_STATE" "" else pure ()

/-- The look at `expires_at`, which `decode_message` has read before. -/
def checkExpiry (e : EdgeProtocol.MessageEnvelope) : Handling W Unit :=
  match calls.texts.fromIsoFormat (calls.texts.str ((Json.get? e.payload "expires_at").getD .null)) with
  | .aware expires =>
    if expires ≤ calls.now then protocolError "COMMAND_EXPIRED" "command has expired" else pure ()
  | _ => raise (.other "ValueError")

/-! ## The start of a task -/

/-- `_ensure_navigation_stack_for_task`. -/
def ensureNavigationStack : Handling W Unit :=
  if calls.navigationStack then do
    let state ← safety
    onWorld (calls.prepareStack state.navReady)
    let prepared ← onWorld calls.waitUntilPrepared
    if prepared then setSafety fun state => { state with navReady := false }
    else
      protocolError "NAV_STACK_PREPARE_FAILED" "navigation map/safety group did not become prepared"
  else pure ()

/-- `map_activation_adapter.activate`; the safety state names the map as far as it got. -/
def activateMap (payload : List (String × Json)) : Handling W Unit := fun s =>
  match calls.activateMap payload s.device.world with
  | (r, w) =>
    let safety :=
      match calls.activatedMap payload s.device.world with
      | some (id, version) =>
        { s.device.safety with
          currentMapId := id
          currentMapVersion := version }
      | none => s.device.safety
    (r, { s with device := { s.device with safety := safety, world := w } })

/-- `docking.get("enabled")`; what is no object has no `get`. -/
def dockingEnabled (command : List (String × Json)) : Handling W Bool :=
  match members? (Json.get? command "docking") with
  | some docking => pure ((Json.get? docking "enabled").getD .null).truthy
  | none => raise (.other "AttributeError")

def prepareDockingMap (command : List (String × Json)) : Handling W Unit :=
  if calls.mapActivation && calls.navigationStack then
    match calls.dict? (orElse (Json.get? command "map") (.obj [])) with
    | none => raise (.other "TypeError")
    | some payload =>
      if ((Json.get? payload "map_id").getD .null).truthy &&
          ((Json.get? payload "map_version").getD .null).truthy then do
        activateMap calls payload
        runIf calls.navigationBoundary (onWorld (calls.activateBoundary payload))
        onWorld calls.switchMap
        let ready ← onWorld calls.waitUntilReady
        if ready then pure ()
        else
          protocolError "NAV_STACK_NOT_READY"
            "Nav2 did not become active after switching the docking map"
      else protocolError "DOCKING_MAP_INVALID" "docking task has no map identity"
  else
    protocolError "DOCKING_UNAVAILABLE" "map activation or navigation stack is unavailable"

/-- The submaps of a map set can be listed. -/
def readsSubmaps (mapSet : List (String × Json)) : Bool :=
  match orElse (Json.get? mapSet "submaps") (.arr []) with
  | .arr items => items.all fun item => match item with
    | .obj _ => true
    | _ => false
  | _ => false

/-- The map of a command is the current map. -/
def namesMap (required : List (String × Json)) (state : SafetyState) : Bool :=
  let names (key current : String) := match Json.get? required key with
    | some (.str text) => decide (text = current)
    | _ => false
  names "map_id" state.currentMapId && names "map_version" state.currentMapVersion

/-- The end of `validate_task_start`: the map is the one the task asks for. -/
def validateMap (command : List (String × Json)) (state : SafetyState) : Handling W Unit :=
  match members? (Json.get? command "route_snapshot") with
  | none => raise (.other "AttributeError")
  | some route =>
    if state.currentMapLocalState ∉ ["applied", ""] then
      protocolError "MAP_LOCAL_MISMATCH" state.currentMapError
    else
      match members? (Json.get? route "map_set") with
      | none => raise (.other "AttributeError")
      | some (entry :: mapSet) =>
        -- a submap is activated before the first goal, whatever the map is now
        if readsSubmaps (entry :: mapSet) then pure () else raise (.other "AttributeError")
      | some [] =>
        match members? (Json.get? command "map") with
        | none => raise (.other "AttributeError")
        | some required =>
          if namesMap required state then pure ()
          else protocolError "MAP_VERSION_MISMATCH" "current map does not match task"

/-- `SafetyPolicy.validate_task_start`, as `handle_command` calls it. -/
def validateTaskStart (command : List (String × Json)) : Handling W Unit := do
  let state ← safety
  let busy ← get fun s => TaskExecutor.hasActiveTask s.device.context
  let strict := !smartInitialize command
  if busy then protocolError "ROBOT_BUSY" "another motion task is active"
  else if strict && decide (state.localizationStatus ≠ "normal") then
    protocolError "LOCALIZATION_NOT_READY" state.localizationStatus
  else if strict && decide (calls.stableFor < calls.localizationStableSeconds) then
    protocolError "LOCALIZATION_NOT_STABLE" ""
  else if strict && !state.navReady then
    protocolError "NAV_STACK_NOT_READY" "FollowWaypoints action server is unavailable"
  else if state.emergencyStop then
    protocolError "EMERGENCY_STOP_ACTIVE" "emergency stop is active"
  else if state.powerAvailable && state.batteryPercent.any (fun percent =>
      decide (percent < calls.lowBatteryPercent)) then do
    let docking ← dockingEnabled command
    if docking then validateMap command state else protocolError "LOW_BATTERY" ""
  else validateMap command state

/-- `_release_manual_control_for_task`. -/
def releaseManualControl : Handling W Unit := do
  let state ← safety
  if state.controlMode ∈ ["manual_assist", "manual_takeover"] then
    if calls.localization then do
      onWorld (if state.controlMode = "manual_assist" then calls.assistStop else calls.takeoverStop)
      setSafety fun state => { state with controlMode := "autonomous" }
    else protocolError "TELEOP_UNAVAILABLE" "teleop adapter is not configured"
  else pure ()

/-- Everything that is checked before the executor is given the task. -/
def admitTaskStart (e : EdgeProtocol.MessageEnvelope) : Handling W Unit := do
  let command := commandObject e
  ensureNavigationStack calls
  let docking ← dockingEnabled command
  runIf docking (prepareDockingMap calls command)
  runIf calls.navigationBoundary
    (onWorld (calls.validateRoute ((Json.get? command "route_snapshot").getD .null)))
  structured calls e
  validateTaskStart calls command
  releaseManualControl calls

/-- `str(value or "")`. -/
def textOr (value : Option Json) : String := calls.texts.str (orElse value (.str ""))

/-- `store.clear_last_trusted_pose`, and `invalidate_last_trusted_pose` of the adapter. -/
def clearTrustedPose (mapId mapVersion : String) : Handling W Unit :=
  modify fun s =>
    { s with
      device :=
        { s.device with
          trustedPoses := fun id version =>
            if mapId ≠ "" ∧ id = mapId ∧ version = mapVersion then none
            else s.device.trustedPoses id version
          latestTrusted := if calls.invalidatesTrusted then none else s.device.latestTrusted } }

/-- The checks on a waypoint that `prepare_task_start` makes. -/
def checkPreparedWaypoint (waypoint : List (String × Json)) : Handling W Unit :=
  match calls.texts.list? (orElse (Json.get? waypoint "actions") (.arr [])) with
  | none => raise (.other "TypeError")
  | some actions =>
    match calls.unsupportedActions actions with
    | some message => protocolError "UNSUPPORTED_WAYPOINT_ACTION" message
    | none =>
      let mode := calls.texts.lower (calls.texts.strip (textOr calls (Json.get? waypoint "speech_mode")))
      if mode = "" ∨ mode ∈ speechModes then pure ()
      else protocolError "INVALID_MESSAGE" "speech_mode must be blocking, non_blocking, or disabled"

def checkPreparedWaypoints : List (List (String × Json)) → Handling W Unit
  | [] => pure ()
  | waypoint :: rest => do
    checkPreparedWaypoint calls waypoint
    checkPreparedWaypoints rest

/-- The waypoints of a route that are objects; `decode_message` lets no other through. -/
def waypointObjects (route : List (String × Json)) : List (List (String × Json)) :=
  match Json.get? route "waypoints" with
  | some (.arr waypoints) => waypoints.filterMap fun waypoint => match waypoint with
    | .obj members => some members
    | _ => none
  | _ => []

/-- A dock waypoint needs a docking task. -/
def dockPoint (waypoint : List (String × Json)) : Bool :=
  decide (calls.texts.lower (calls.texts.strip (textOr calls (Json.get? waypoint "arrival_policy"))) =
    "dock")

def prepareTaskStart (e : EdgeProtocol.MessageEnvelope) : Handling W Unit := do
  let command := commandObject e
  let busy ← onWorld calls.localizationOperationActive
  if busy then
    protocolError "LOCALIZATION_COMMAND_BUSY"
      "an operator localization request is still running; task start is deferred"
  else
    match members? (Json.get? command "route_snapshot"),
        calls.dict? (orElse (Json.get? command "map") (.obj [])) with
    | some route, some map => do
      onWorld (calls.assertMapConstraints route)
      let map := match Json.get? route "map" with
        | some value => (calls.dict? (orElse value (.obj []))).getD []
        | none => map
      clearTrustedPose calls (textOr calls (Json.get? map "map_id"))
        (textOr calls (Json.get? map "map_version"))
      match calls.dict? (orElse (Json.get? command "docking") (.obj [])) with
      | none => raise (.other "TypeError")
      | some docking => do
        if (waypointObjects route).any (dockPoint calls) &&
            !((Json.get? docking "enabled").getD .null).truthy then
          protocolError "DOCKING_CONTEXT_REQUIRED" "dock arrival_policy requires docking context"
        else do
          checkPreparedWaypoints calls (waypointObjects route)
          let context ← onWorld (calls.buildContext e)
          modify fun s => { s with device := { s.device with context := some context } }
    | _, _ => raise (.other "TypeError")

/-! ## `handle_command` -/

/-- `save_command_ack` and `publish_ack`. -/
def saveAck (ack : AckPayload) : Handling W Unit :=
  modify fun s =>
    { s with
      record := some { s.record.getD {} with ack := some ack }
      acks := s.acks ++ [ack] }

/-- `save_command_result` and `publish_result`. -/
def saveResult (result : CommandResultPayload) : Handling W Unit :=
  modify fun s => { s.saveResult (some result) with results := s.results ++ [result] }

/-- Bind the variables the handlers read. -/
def setLocals (f : Locals → Locals) : Handling W Unit :=
  modify fun s => { s with locals := f s.locals }

/-- `_execute`: every branch ends in `build_result` or raises, but that of a skill, which reports when
    the skill has ended. -/
def execute (e : EdgeProtocol.MessageEnvelope) : Handling W (Option CommandResultPayload) :=
  if e.messageType = "task.start" then
    protocolError "INVALID_COMMAND_FLOW" "task.start must be prepared before acknowledgement"
  else do
    let result ← onExecutor (calls.perform e)
    if e.messageType = "teleop.skill" then return none
    else return some { status := .succeeded, result := result }

/-- What follows the acceptance of a `task.start`; `_emit_command_progress` never raises. -/
def startTask (e : EdgeProtocol.MessageEnvelope) : Handling W Unit := do
  (do
    onExecutor calls.setProgress
    runIf (smartInitialize (commandObject e)) (onExecutor calls.initializeBeforeNavigation)
    onExecutor calls.activateExecution
    onExecutor calls.validateAdmission).finish (onExecutor calls.setProgress)
  onExecutor calls.launch

/-- What a command does once it is accepted. -/
def runAccepted (e : EdgeProtocol.MessageEnvelope) : Handling W (Option CommandResultPayload) :=
  if e.messageType = "task.start" then do
    startTask calls e
    return none
  else execute calls e

/-- The body of the `try`. -/
def body (e : EdgeProtocol.MessageEnvelope) :
    Handling W (Option AckPayload × Option CommandResultPayload) := do
  structured calls e
  checkExpiry calls e
  validateExpectedState calls e
  let start := decide (e.messageType = "task.start")
  setLocals fun locals => { locals with preparedTaskStart := some start }
  runIf start do
    admitTaskStart calls e
    prepareTaskStart calls e
  let version ← get fun s => currentVersion s.device.context
  let ack : AckPayload := { accepted := true, edgeStateVersion := some version }
  setLocals fun locals => { locals with ack := some ack }
  saveAck ack
  let result ← runAccepted calls e
  match result with
  | some result => do
    saveResult result
    return (some ack, some result)
  | none => return (some ack, none)

/-- `force_exit` of a start that failed after its acceptance, in a `try` of its own. -/
def clearFailedStart : Handling W Unit := (onExecutor calls.forceExit).handle fun _ => pure ()

/-- The start is cleared where the handler finds it accepted; a handler that reads an unbound name
    raises. -/
def clearIfStarted (accepted : Bool) : Handling W Unit := do
  let locals ← get fun s => s.locals
  match locals.preparedTaskStart with
  | none => raise (.other "UnboundLocalError")
  | some start => runIf (start && accepted) (clearFailedStart calls)

/-- `except ProtocolError`. -/
def onProtocolError (e : EdgeProtocol.MessageEnvelope) (code message : String)
    (details : Option ResultPayload) :
    Handling W (Option AckPayload × Option CommandResultPayload) := do
  structured calls e
  let locals ← get fun s => s.locals
  match locals.ack with
  | none => do
    let version ← get fun s => currentVersion s.device.context
    let ack : AckPayload :=
      { accepted := false
        edgeStateVersion := some version
        reasonCode := code
        reasonMessage := message }
    saveAck ack
    return (some ack, none)
  | some ack => do
    clearIfStarted calls true
    let result : CommandResultPayload :=
      { status := .failed
        result := details.getD {}
        errorCode := code
        errorMessage := message }
    saveResult result
    return (some ack, some result)

/-- `except Exception`. -/
def onException (e : EdgeProtocol.MessageEnvelope) (message : String) :
    Handling W (Option AckPayload × Option CommandResultPayload) := do
  structured calls e
  let locals ← get fun s => s.locals
  clearIfStarted calls locals.ack.isSome
  let result : CommandResultPayload :=
    { status := .failed
      errorCode := "INTERNAL_ERROR"
      errorMessage := message }
  saveResult result
  return (locals.ack, some result)

/-- The `try` statement. -/
def guarded (e : EdgeProtocol.MessageEnvelope) :
    Handling W (Option AckPayload × Option CommandResultPayload) :=
  (body calls e).handle fun thrown =>
    match thrown with
    | .protocol code message details => onProtocolError calls e code message details
    | .other message => onException calls e message

/-- `handle_command`, from the decoded message on. -/
def handle (e : EdgeProtocol.MessageEnvelope) :
    Handling W (Option AckPayload × Option CommandResultPayload) := do
  if e.robotId ≠ calls.robotId then
    protocolError "ROBOT_ID_MISMATCH" "command robot_id does not match this device"
  else do
    let record ← get fun s => s.record
    match record with
    | some record => do
      modify fun s =>
        { s with
          acks := s.acks ++ record.ack.toList
          results := s.results ++ record.result.toList }
      return (record.ack, record.result)
    | none => do
      setLocals fun _ => {}
      guarded calls e

end

end HandleCommand

end RoamerX
