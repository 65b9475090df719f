import RoamerX.Lib.Keyed
import RoamerX.Lib.NewestFirst
import RoamerX.Protocol.Texts
import Mathlib.Data.List.Infix
import Mathlib.Logic.Function.Basic

set_option autoImplicit false

/-! # Bicycle alerts

`alert_service.py` without the obstacle alerts. A bicycle that a robot reports, by telemetry or as an alert of the
Edge, becomes an incident, and the reports of the next seconds are merged into it. The columns that only carry the
place, the media, the confidence and the box of a detection along are left out, but not the errors of reading them. -/

namespace RoamerX

namespace BicycleAlerts

/-! ## What is a bicycle -/

section Words

variable (texts : Texts) (upper : String → String)

def bicycleWords : List String :=
  ["bicycle", "car", "motorcycle", "bike", "自行车", "vehicle_illegal_parking", "自行车违停"]

/-- `part in text` -/
def contains (part text : String) : Bool := decide (part.toList <:+: text.toList)

/-- `str(mapping.get(field) or "").strip().lower()` -/
def word (mapping : List (String × Json)) (field : String) : String :=
  texts.lower (texts.strip (texts.str (Json.getOr mapping field (.str ""))))

def isBicycleDetection (detection : List (String × Json)) : Bool :=
  let values := ["object_class", "class", "type", "event_type", "label"].map (word texts detection)
  values.any (fun value => decide (value ∈ bicycleWords)) ||
    values.any fun value => contains "自行车" value || contains "bicycle" value

/-- The payload of `alert.event`; `eventType` is null where it is absent. -/
structure EdgeAlert where
  eventId : Uuid
  eventType : Json
  source : List (String × Json)
  detection : List (String × Json)

def isBicycleAlert (alert : EdgeAlert) : Bool :=
  -- `setdefault`
  isBicycleDetection texts <|
    if (Json.get? alert.detection "event_type").isSome then alert.detection
    else Json.set alert.detection "event_type" alert.eventType

def isLowBatteryAlert (alert : EdgeAlert) : Bool :=
  let eventType := word texts [("event_type", alert.eventType)] "event_type"
  let sourceCode := upper (texts.strip (texts.str (Json.getOr alert.source "code" (.str ""))))
  let objectClass := word texts alert.detection "class"
  decide (eventType ∈ ["low_battery_alert", "low_battery_return_charge"]) ||
    decide (sourceCode ∈ ["LOW_BATTERY_ALERT", "LOW_BATTERY_RETURN_CHARGE"]) || decide (objectClass = "low_battery")

def shouldRegisterEdgeAlert (alert : EdgeAlert) : Bool :=
  isBicycleAlert texts alert || isLowBatteryAlert texts upper alert

end Words

/-! ## Tables -/

/-- A row of `InspectionEvent`. -/
structure InspectionEvent where
  eventId : Uuid
  robot : ℕ
  /-- In microseconds. -/
  createdAt : ℤ
  title : Json
  eventType : Json
  snapshotUrl : Json
  cameraId : Json
  streamId : Json
  objectClass : Json
  trackId : Json
  rawDetection : List (String × Json)
  sourceComponent : Json
  sourceCode : Json
  /-- A report of a bicycle created the row; no step reads this. -/
  incident : Bool

/-- What the service reads and writes, with the event ids of the Edge alerts that were handled, which no step reads. -/
structure Tables where
  events : List InspectionEvent
  todayAlerts : ℕ → ℕ
  handled : List Uuid

def Tables.empty : Tables where
  events := []
  todayAlerts := fun _ => 0
  handled := []

/-- `event.save()`, or an insertion. -/
def Tables.save (tables : Tables) (event : InspectionEvent) : Tables :=
  { tables with events := Keyed.put InspectionEvent.eventId (fun _ new => new) tables.events event }

/-- A telemetry detection with what the report of the robot adds to it. -/
structure TelemetryReport where
  detection : List (String × Json)
  cameraId : String
  streamId : String

/-- When the service looks at the clock: for the look-up, and as the row is inserted. -/
structure Clock where
  now : ℤ
  untilInsertion : ℕ

def Clock.createdAt (clock : Clock) : ℤ := clock.now + clock.untilInsertion

section Service

variable (texts : Texts) (upper : String → String) (isoformat : ℤ → String)
  (newest : NewestFirst InspectionEvent InspectionEvent.createdAt) (cooldownSeconds : ℕ)

/-! ## Merging -/

/-- The rows that the look-up filters for. -/
def window (tables : Tables) (robot : ℕ) (now : ℤ) : List InspectionEvent :=
  tables.events.filter fun event =>
    decide (event.robot = robot) && decide (now - 1000000 * cooldownSeconds ≤ event.createdAt)

/-- `raw_detection` with the columns where it has no such field. -/
def InspectionEvent.detection (event : InspectionEvent) : List (String × Json) :=
  let raw := event.rawDetection
  Json.set
    (Json.set (Json.set raw "label" (Json.getOr raw "label" event.title)) "type" (Json.getOr raw "type" event.eventType))
    "object_class" (Json.getOr raw "object_class" event.objectClass)

/-- The row passes for one of a bicycle. -/
def InspectionEvent.recognised (event : InspectionEvent) : Bool := isBicycleDetection texts event.detection

def recentBicycleEvent (tables : Tables) (robot : ℕ) (now : ℤ) : Option InspectionEvent :=
  if cooldownSeconds = 0 then none
  else ((newest.order (window cooldownSeconds tables robot now)).take 20).find? (InspectionEvent.recognised texts)

/-- `dict.update` -/
def updated (mapping new : List (String × Json)) : List (String × Json) :=
  new.foldl (fun mapping member => Json.set mapping member.1 member.2) mapping

/-- `dict(raw_detection.get("alert_aggregation") or {})`; `none` is an exception. A list of pairs, of which `dict` makes a
mapping too, is not read here. -/
def aggregation? (raw : List (String × Json)) : Option (List (String × Json)) :=
  match Json.getOr raw "alert_aggregation" (.obj []) with
  | .obj members => some members
  | _ => none

def int? : Json → Option ℤ
  | .num (.int n) => some n
  | value => texts.int? value

/-- `max(1, int(aggregation.get("merged_reports") or 1))` -/
def mergedReports? (raw : List (String × Json)) : Option ℤ :=
  (aggregation? raw).bind fun aggregation =>
    (int? texts (Json.getOr aggregation "merged_reports" (.num (.int 1)))).map (max 1)

/-- The confidence is a number, and the box a mapping. -/
def readable (detection : List (String × Json)) : Bool :=
  (texts.float? (Json.getOr detection "confidence" (.num (.int 0)))).isSome &&
    (match Json.getOr detection "bbox" (.obj []) with
      | .obj _ => true
      | _ => false)

def mergeBicycleEvent (now : ℤ) (event : InspectionEvent) (detection : List (String × Json)) :
    Except Raised InspectionEvent :=
  match aggregation? event.rawDetection, mergedReports? texts event.rawDetection with
  | some aggregation, some mergedReports =>
    if !readable texts detection then .error (.other "ValueError")
    else
      let aggregation := Json.set aggregation "merged_reports" (.num (.int (mergedReports + 1)))
      let aggregation := Json.set aggregation "cooldown_seconds" (.num (.int cooldownSeconds))
      let aggregation := Json.set aggregation "last_merged_at" (.str (isoformat now))
      .ok { event with
        rawDetection := Json.set (updated event.rawDetection detection) "alert_aggregation" (.obj aggregation)
        snapshotUrl := Json.getOr detection "snapshot_url" event.snapshotUrl
        cameraId := Json.getOr detection "camera_id" event.cameraId
        streamId := Json.getOr detection "stream_id" event.streamId
        objectClass := Json.getOr detection "object_class" event.objectClass
        trackId := Json.getOr detection "track_id" event.trackId }
  | _, _ => .error (.other "ValueError")

/-! ## Creating -/

def InspectionEvent.storable (event : InspectionEvent) : Bool :=
  [event.title, event.eventType, event.snapshotUrl, event.cameraId, event.streamId, event.objectClass, event.trackId,
    event.sourceComponent, event.sourceCode].all fun column => !column.isNull

/-- `InspectionEvent.objects.create`, with the count of the robot's alerts of the day. -/
def create (tables : Tables) (event : InspectionEvent) : Except Raised Tables :=
  if !event.storable || tables.events.any (fun row => decide (row.eventId = event.eventId)) then
    .error (.other "IntegrityError")
  else
    .ok { tables.save event with
      todayAlerts := Function.update tables.todayAlerts event.robot (tables.todayAlerts event.robot + 1) }

/-- The incident of a telemetry report; `eventId` is the `uuid4` of the row. -/
def telemetryIncident (robot : ℕ) (clock : Clock) (eventId : Uuid) (report : TelemetryReport) : InspectionEvent :=
  let detection := report.detection
  { eventId := eventId
    robot := robot
    createdAt := clock.createdAt
    title := Json.getOr detection "label" (Json.getOr detection "type" (.str "AI识别事件"))
    eventType := (Json.get? detection "type").getD (.str "generic_detection")
    snapshotUrl := (Json.get? detection "snapshot_url").getD (.str "")
    cameraId := Json.getOr detection "camera_id" (.str report.cameraId)
    streamId := Json.getOr detection "stream_id" (.str report.streamId)
    objectClass := (Json.get? detection "object_class").getD (.str "")
    trackId := (Json.get? detection "track_id").getD (.str "")
    rawDetection := Json.set detection "alert_aggregation" (.obj
      [("confirmed_frames", .num (.int 3)), ("merged_reports", .num (.int 1)),
        ("cooldown_seconds", .num (.int cooldownSeconds)), ("created_at", .str (isoformat clock.now))])
    sourceComponent := .str "bike_bot"
    sourceCode := .str "BICYCLE_ALERT"
    incident := true }

def ingestTelemetryBicycleDetection (tables : Tables) (robot : ℕ) (clock : Clock) (eventId : Uuid)
    (report : TelemetryReport) : Except Raised (Tables × InspectionEvent × Bool) :=
  match recentBicycleEvent texts newest cooldownSeconds tables robot clock.now with
  | some existing =>
    (mergeBicycleEvent texts isoformat cooldownSeconds clock.now existing report.detection).map fun event =>
      (tables.save event, event, false)
  | none =>
    let event := telemetryIncident isoformat cooldownSeconds robot clock eventId report
    if !readable texts report.detection then .error (.other "ValueError")
    else (create tables event).map fun tables => (tables, event, true)

def edgeEvent (robot : ℕ) (clock : Clock) (alert : EdgeAlert) : InspectionEvent :=
  let detection := alert.detection
  { eventId := alert.eventId
    robot := robot
    createdAt := clock.createdAt
    title := Json.getOr detection "label" alert.eventType
    eventType := alert.eventType
    snapshotUrl := .str ""
    cameraId := .str ""
    streamId := .str ""
    objectClass := (Json.get? detection "class").getD (.str "")
    trackId := (Json.get? detection "track_id").getD (.str "")
    rawDetection := detection
    sourceComponent := (Json.get? alert.source "component").getD (.str "")
    sourceCode := (Json.get? alert.source "code").getD (.str "")
    incident := isBicycleAlert texts alert }

def ingestEdgeAlert (tables : Tables) (robot : ℕ) (clock : Clock) (alert : EdgeAlert) :
    Except Raised (Tables × Option InspectionEvent × Bool) :=
  if !shouldRegisterEdgeAlert texts upper alert then .ok (tables, none, false)
  else
    match tables.events.find? fun event => decide (event.eventId = alert.eventId) with
    | some existing => .ok (tables, some existing, false)
    | none =>
      let cooling := if isBicycleAlert texts alert then
          recentBicycleEvent texts newest cooldownSeconds tables robot clock.now
        else none
      match cooling with
      | some existing =>
        (mergeBicycleEvent texts isoformat cooldownSeconds clock.now existing alert.detection).map fun event =>
          (tables.save event, some event, false)
      | none =>
        let event := edgeEvent texts robot clock alert
        if !readable texts alert.detection then .error (.other "ValueError")
        else (create tables event).map fun tables => (tables, some event, true)

/-! ## Steps -/

inductive Arrival
  | telemetry (robot : ℕ) (clock : Clock) (eventId : Uuid) (report : TelemetryReport)
  | edgeAlert (robot : ℕ) (clock : Clock) (alert : EdgeAlert)
  /-- Another part of the center creates an event, or writes to the one of its id. -/
  | other (event : InspectionEvent)

/-- The transaction of one arrival; one that raises is rolled back. -/
def step (tables : Tables) : Arrival → Tables
  | .telemetry robot clock eventId report =>
    if isBicycleDetection texts report.detection then
      match ingestTelemetryBicycleDetection texts isoformat newest cooldownSeconds tables robot clock eventId report with
      | .ok (tables, _, _) => tables
      | .error _ => tables
    else tables
  | .edgeAlert robot clock alert =>
    match ingestEdgeAlert texts upper isoformat newest cooldownSeconds tables robot clock alert with
    | .ok (tables, none, _) => tables
    | .ok (tables, some _, _) => { tables with handled := tables.handled ++ [alert.eventId] }
    | .error _ => tables
  | .other event =>
    { tables with
      events := Keyed.put InspectionEvent.eventId
        (fun old new => { old with title := new.title, rawDetection := new.rawDetection }) tables.events
        { event with incident := false } }

end Service

end BicycleAlerts

end RoamerX
