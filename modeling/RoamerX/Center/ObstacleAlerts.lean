import RoamerX.Lib.Keyed
import RoamerX.Lib.LastTop
import RoamerX.Protocol.Texts

set_option autoImplicit false

/-! # Obstacle alerts

`AlertService.ingest_obstacle_stage` of `alert_service.py`. While a robot stands before an obstacle, the Edge reports
the stages it goes through: stopped, backing off for the first, second and third time, asking to clear the way. The
center keeps one alert for the whole episode and merges each report into it. -/

namespace RoamerX

namespace AlertService

inductive RiskLevel
  | low | medium | high
  deriving DecidableEq

/-- `risk_rank` -/
def RiskLevel.rank : RiskLevel → ℕ
  | .low => 0
  | .medium => 1
  | .high => 2

/-! ## Reports -/

structure Pose where
  frameId : String
  x : Option ℚ
  y : Option ℚ
  yaw : Option ℚ
  deriving DecidableEq

/-- What a report tells of the scan and of the action; the center keeps it as it is. -/
structure StageDetails where
  reportedAt : Json
  collisionZone : Json
  collisionPointsInside : Json
  frontObstacleDistance : Json
  rearClearance : Json
  leftClearance : Json
  rightClearance : Json
  actionResult : Json

/-- The payload of `task.obstacle_stage`. An absent text is the empty one and an absent number is 0, which the `or` of
the source treats alike. -/
structure StageReport where
  obstacleEpisodeId : String
  stage : String
  recoveryAttempt : ℤ
  maxRecoveryAttempts : ℤ
  alertDescription : String
  details : StageDetails
  pose : Pose

namespace StageReport

variable (report : StageReport)

/-- `stage` -/
def stageName : String := if report.stage = "" then "DETECTED_STOP" else report.stage

def maxAttempts : ℤ := if report.maxRecoveryAttempts = 0 then 3 else report.maxRecoveryAttempts

def fallbackDescription : String :=
  match report.stageName with
  | "DETECTED_STOP" => "发现障碍物，已停车"
  | "WAITING_PROGRESS" => "障碍物前等待局部绕行"
  | "RECOVERY_ATTEMPT" => "正在进行第 " ++ toString report.recoveryAttempt ++ "/" ++ toString report.maxAttempts ++
      " 次后退绕行避障"
  | "DISSUASION" => "三次避障失败，请离开巡检线路"
  | "SAFE_OBSERVING" => "障碍安全观察中"
  | "CLEAR_CONFIRMED" => "障碍已连续清除"
  | "RESUMED" => "障碍清除，任务已恢复"
  | _ => "巡检线路障碍"

/-- `description`, which is the title as well. -/
def description : String :=
  if report.alertDescription = "" then report.fallbackDescription else report.alertDescription

def risk : RiskLevel :=
  if report.stageName = "DISSUASION" ∨ report.stageName = "SAFE_OBSERVING" then .high
  else if report.stageName = "RECOVERY_ATTEMPT" then .medium
  else .low

def stageRank : ℕ :=
  match report.stageName with
  | "DETECTED_STOP" => 1
  | "RECOVERY_ATTEMPT" => 2
  | "DISSUASION" => 3
  | _ => 0

/-- The stage where it is one for the user. -/
def userStage : String := if 0 < report.stageRank then report.stageName else ""

end StageReport

structure StageRecord where
  stage : String
  attempt : ℤ
  description : String
  details : StageDetails

def StageReport.record (report : StageReport) : StageRecord where
  stage := report.stageName
  attempt := report.recoveryAttempt
  description := report.description
  details := report.details

def StageRecord.key (record : StageRecord) : String × ℤ := (record.stage, record.attempt)

/-! ## Alerts -/

/-- `raw_detection` of an obstacle alert. -/
structure ObstacleRecord where
  obstacleEpisodeId : String
  stages : List StageRecord
  currentStage : String
  highestUserStage : String
  highestUserStageRank : ℕ

structure MapData where
  mapId : String
  version : String
  deriving DecidableEq

structure Execution where
  pk : String
  mapData : Option MapData
  deriving DecidableEq

structure Snapshot where
  mediaId : ℕ
  url : String
  deriving DecidableEq

/-- A row of `InspectionEvent`. -/
structure InspectionEvent where
  eventId : Uuid
  taskExecution : String
  mapData : Option MapData
  title : String
  eventType : String
  location : String
  detectedAt : ℕ
  confidence : ℕ
  riskLevel : RiskLevel
  description : String
  raw : ObstacleRecord
  frameId : String
  positionX : Option ℚ
  positionY : Option ℚ
  positionYaw : Option ℚ
  sourceComponent : String
  sourceCode : String
  snapshot : Option Snapshot

structure Robot where
  location : String
  todayAlerts : ℕ
  deriving DecidableEq

structure Tables where
  robot : Robot
  events : List InspectionEvent

/-- A report as it arrives, with the time and the first snapshot of the event, where there is one. -/
structure Delivery where
  report : StageReport
  occurredAt : ℕ
  pendingSnapshot : Option Snapshot

def createdEvent (robot : Robot) (execution : Execution) (eventId : Uuid) (episodeId : String)
    (delivery : Delivery) : InspectionEvent where
  eventId := eventId
  taskExecution := execution.pk
  mapData := execution.mapData
  title := delivery.report.description
  eventType := "navigation_obstacle"
  location := robot.location
  detectedAt := delivery.occurredAt
  confidence := 100
  riskLevel := delivery.report.risk
  description := delivery.report.description
  raw :=
    { obstacleEpisodeId := episodeId
      stages := [delivery.report.record]
      currentStage := delivery.report.stageName
      highestUserStage := delivery.report.userStage
      highestUserStageRank := delivery.report.stageRank }
  frameId := if delivery.report.pose.frameId = "" then "map" else delivery.report.pose.frameId
  positionX := delivery.report.pose.x
  positionY := delivery.report.pose.y
  positionYaw := delivery.report.pose.yaw
  sourceComponent := "edge-agent"
  sourceCode := "COLLISION_STOP"
  snapshot := delivery.pendingSnapshot

/-- The stages with a report: in the place of the first record of its key, or at the end. -/
def mergedStages (stages : List StageRecord) (record : StageRecord) : List StageRecord :=
  match stages.findIdx? fun item => decide (item.stage = record.stage ∧ item.attempt = record.attempt) with
  | none => stages ++ [record]
  | some index => stages.set index record

def RiskLevel.max (a b : RiskLevel) : RiskLevel := if a.rank < b.rank then b else a

def mergedEvent (episodeId : String) (event : InspectionEvent) (delivery : Delivery) : InspectionEvent :=
  let report := delivery.report
  let leads : Bool := decide (event.raw.highestUserStageRank ≤ report.stageRank ∧ 0 < report.stageRank)
  { event with
    title := if leads then report.description else event.title
    description := if leads then report.description else event.description
    riskLevel := event.riskLevel.max report.risk
    raw :=
      { obstacleEpisodeId := episodeId
        stages := mergedStages event.raw.stages report.record
        currentStage := report.stageName
        highestUserStage := if leads then report.stageName else event.raw.highestUserStage
        highestUserStageRank := if leads then report.stageRank else event.raw.highestUserStageRank }
    snapshot := event.snapshot.or delivery.pendingSnapshot }

section Ingestion

variable (texts : Texts) (uuid5 : String → Uuid) (execution : Execution)

/-- `uuid.uuid5(uuid.NAMESPACE_URL, ...)` -/
def obstacleEventId (episodeId : String) : Uuid := uuid5 ("roamerx:obstacle:" ++ execution.pk ++ ":" ++ episodeId)

def ingestObstacleStage (tables : Tables) (delivery : Delivery) : Except Raised (Tables × InspectionEvent × Bool) :=
  let episodeId := texts.strip delivery.report.obstacleEpisodeId
  if episodeId = "" then .error (.other "ValueError")
  else
    let eventId := obstacleEventId uuid5 execution episodeId
    match tables.events.find? fun event => decide (event.eventId = eventId) with
    | none =>
      let event := createdEvent tables.robot execution eventId episodeId delivery
      .ok ({ robot := { tables.robot with todayAlerts := tables.robot.todayAlerts + 1 }
             events := tables.events ++ [event] }, event, true)
    | some event =>
      let event := mergedEvent episodeId event delivery
      .ok ({ tables with
             events := tables.events.map fun e => if e.eventId = eventId then event else e }, event, false)

/-- Reports delivered one after another. -/
def ingestAll (tables : Tables) (deliveries : List Delivery) : Except Raised Tables :=
  deliveries.foldlM (fun tables delivery => (·.1) <$> ingestObstacleStage texts uuid5 execution tables delivery) tables

end Ingestion

end AlertService

end RoamerX
