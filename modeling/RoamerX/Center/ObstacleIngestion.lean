import RoamerX.Center.ObstacleAlerts

set_option autoImplicit false

/-! # What the alert of an episode tells

The reports of one episode may come in any order and more than once. Which stages the alert lists, its risk and its
highest stage depend on which reports came. Its title is that of the last report among those of the highest stage, so
where the attempts to back off are reported out of order it need not be the one of the latest attempt. -/

namespace RoamerX

namespace AlertService

variable {texts : Texts} {uuid5 : String → Uuid} {execution : Execution} {tables : Tables} {eventId : Uuid}
  {episodeId : String} {event : InspectionEvent} {first : Delivery} {rest : List Delivery} {reports : List StageReport}

/-! ## One report -/

def OfEpisode (texts : Texts) (episodeId : String) (deliveries : List Delivery) : Prop :=
  ∀ delivery ∈ deliveries, texts.strip delivery.report.obstacleEpisodeId = episodeId

def Unseen (eventId : Uuid) (tables : Tables) : Prop := ∀ event ∈ tables.events, event.eventId ≠ eventId

theorem find?_eq_none (h : Unseen eventId tables) :
    tables.events.find? (fun event => decide (event.eventId = eventId)) = none :=
  List.find?_eq_none.mpr fun event hmem hfound => h event hmem (of_decide_eq_true hfound)

theorem ingest_first (hid : episodeId ≠ "") (hepisode : texts.strip first.report.obstacleEpisodeId = episodeId)
    (hunseen : Unseen (obstacleEventId uuid5 execution episodeId) tables) :
    ingestObstacleStage texts uuid5 execution tables first =
      .ok ({ robot := { tables.robot with todayAlerts := tables.robot.todayAlerts + 1 }
             events := tables.events ++
               [createdEvent tables.robot execution (obstacleEventId uuid5 execution episodeId) episodeId first] },
        createdEvent tables.robot execution (obstacleEventId uuid5 execution episodeId) episodeId first, true) := by
  unfold ingestObstacleStage
  rw [hepisode]
  dsimp only
  rw [if_neg hid, find?_eq_none hunseen]

theorem ingest_later {delivery : Delivery} {events : List InspectionEvent} (hid : episodeId ≠ "")
    (hepisode : texts.strip delivery.report.obstacleEpisodeId = episodeId)
    (hevents : tables.events = events ++ [event])
    (hunseen : ∀ e ∈ events, e.eventId ≠ obstacleEventId uuid5 execution episodeId)
    (hevent : event.eventId = obstacleEventId uuid5 execution episodeId) :
    ingestObstacleStage texts uuid5 execution tables delivery =
      .ok ({ tables with events := events ++ [mergedEvent episodeId event delivery] },
        mergedEvent episodeId event delivery, false) := by
  have hfind : tables.events.find? (fun e => decide (e.eventId = obstacleEventId uuid5 execution episodeId)) =
      some event := by
    rw [hevents, List.find?_append, List.find?_eq_none.mpr fun e hmem => mt of_decide_eq_true (hunseen e hmem),
      Option.none_or, List.find?_cons, decide_eq_true hevent]
  have hmap : tables.events.map (fun e => if e.eventId = obstacleEventId uuid5 execution episodeId then
      mergedEvent episodeId event delivery else e) = events ++ [mergedEvent episodeId event delivery] := by
    rw [hevents, List.map_append, List.map_singleton, if_pos hevent]
    refine congrArg (· ++ _) ?_
    conv_rhs => rw [← List.map_id events]
    exact List.map_congr_left fun e hmem => if_neg (hunseen e hmem)
  unfold ingestObstacleStage
  rw [hepisode]
  dsimp only
  rw [if_neg hid, hfind]
  dsimp only
  rw [hmap]

theorem eventId_mergedEvent (event : InspectionEvent) (delivery : Delivery) :
    (mergedEvent episodeId event delivery).eventId = event.eventId := rfl

/-! ## Many reports -/

def eventAfter (robot : Robot) (execution : Execution) (eventId : Uuid) (episodeId : String) (first : Delivery)
    (rest : List Delivery) : InspectionEvent :=
  rest.foldl (mergedEvent episodeId) (createdEvent robot execution eventId episodeId first)

theorem ingest_rest {events : List InspectionEvent} (hid : episodeId ≠ "") (hepisode : OfEpisode texts episodeId rest)
    (hevents : tables.events = events ++ [event])
    (hunseen : ∀ e ∈ events, e.eventId ≠ obstacleEventId uuid5 execution episodeId)
    (hevent : event.eventId = obstacleEventId uuid5 execution episodeId) :
    ingestAll texts uuid5 execution tables rest =
      .ok { tables with events := events ++ [rest.foldl (mergedEvent episodeId) event] } := by
  induction rest generalizing tables event with
  | nil =>
    have htables : tables = { tables with events := events ++ [event] } := by rw [← hevents]
    exact congrArg Except.ok htables
  | cons delivery rest ih =>
    obtain ⟨hfirst, hrest⟩ := List.forall_mem_cons.mp hepisode
    unfold ingestAll at ih ⊢
    rw [List.foldlM_cons, ingest_later hid hfirst hevents hunseen hevent]
    exact ih hrest rfl hevent

/-- **Whatever the order, an episode has one alert, which counts once.** -/
theorem ingestAll_eq (hid : episodeId ≠ "") (hepisode : OfEpisode texts episodeId (first :: rest))
    (hunseen : Unseen (obstacleEventId uuid5 execution episodeId) tables) :
    ingestAll texts uuid5 execution tables (first :: rest) =
      .ok { robot := { tables.robot with todayAlerts := tables.robot.todayAlerts + 1 }
            events := tables.events ++
              [eventAfter tables.robot execution (obstacleEventId uuid5 execution episodeId) episodeId first rest] } := by
  obtain ⟨hfirst, hrest⟩ := List.forall_mem_cons.mp hepisode
  unfold ingestAll
  rw [List.foldlM_cons, ingest_first hid hfirst hunseen]
  exact ingest_rest hid hrest rfl hunseen rfl

/-! ## What an alert says of a set of reports -/

/-- No report is of a higher stage, and none of the same stage rank is of a later attempt. -/
def MostAdvanced (reports : List StageReport) (top : StageReport) : Prop :=
  ∀ report ∈ reports, report.stageRank < top.stageRank ∨
    report.stageRank = top.stageRank ∧ report.recoveryAttempt ≤ top.recoveryAttempt

/-- What does not depend on the order of the reports. -/
structure Merged (reports : List StageReport) (event : InspectionEvent) : Prop where
  stages : ∀ record, record ∈ event.raw.stages ↔ ∃ report ∈ reports, report.record = record
  once : (event.raw.stages.map StageRecord.key).Nodup
  risk : ∃ report ∈ reports, event.riskLevel = report.risk
  risk_le : ∀ report ∈ reports, report.risk.rank ≤ event.riskLevel.rank
  highest : ∃ report ∈ reports, event.raw.highestUserStageRank = report.stageRank ∧
    event.raw.highestUserStage = report.userStage
  rank_le : ∀ report ∈ reports, report.stageRank ≤ event.raw.highestUserStageRank

/-- The title is that of a most advanced report. -/
def TitledByMostAdvanced (reports : List StageReport) (event : InspectionEvent) : Prop :=
  ∃ top ∈ reports, MostAdvanced reports top ∧ event.title = top.description

/-- Reports of one stage and attempt are one report. -/
def DistinctPairs (reports : List StageReport) : Prop :=
  ∀ report ∈ reports, ∀ report' ∈ reports, report.record.key = report'.record.key → report = report'

/-! ## Stages -/

theorem mergedStages_eq_put (stages : List StageRecord) (record : StageRecord) :
    mergedStages stages record = Keyed.put StageRecord.key (fun _ new => new) stages record := by
  unfold mergedStages
  induction stages with
  | nil => rfl
  | cons item stages ih =>
    have hkey : item.key = record.key ↔ item.stage = record.stage ∧ item.attempt = record.attempt := Prod.mk.injEq _ _ _ _ ▸ Iff.rfl
    rw [List.findIdx?_cons, Keyed.put]
    by_cases h : item.stage = record.stage ∧ item.attempt = record.attempt
    · rw [if_pos (hkey.mpr h), decide_eq_true h]
      rfl
    · rw [if_neg (mt hkey.mp h), decide_eq_false h, ← ih]
      cases stages.findIdx? fun item => decide (item.stage = record.stage ∧ item.attempt = record.attempt) with
      | none => rfl
      | some index => rfl

theorem mem_mergedStages {stages : List StageRecord} {record : StageRecord}
    (hdistinct : ∀ item ∈ stages, item.key = record.key → item = record) :
    (∀ item, item ∈ mergedStages stages record ↔ item ∈ stages ∨ item = record) ∧
      ((stages.map StageRecord.key).Nodup → ((mergedStages stages record).map StageRecord.key).Nodup) := by
  rw [mergedStages_eq_put]
  by_cases hmem : record.key ∈ stages.map StageRecord.key
  · obtain ⟨item, hitem, hkey⟩ := List.mem_map.mp hmem
    obtain rfl := hdistinct item hitem hkey
    -- the record is there already, and stays what it is
    cases hget : Keyed.get StageRecord.key item.key stages with
    | none => exact absurd hmem (Keyed.get_eq_none_iff.mp hget)
    | some found =>
      have hfound := hdistinct found (Keyed.mem_of_get hget) (Keyed.key_of_get hget)
      rw [Keyed.put_eq_self hget hfound.symm]
      refine ⟨fun other => ⟨Or.inl, fun h => h.elim id fun heq => heq ▸ hitem⟩, id⟩
  · rw [Keyed.put_of_notMem hmem]
    refine ⟨fun item => by rw [List.mem_append, List.mem_singleton], fun hnodup => ?_⟩
    rw [List.map_append, List.nodup_append]
    refine ⟨hnodup, List.nodup_singleton _, ?_⟩
    rintro key hkey key' hkey' rfl
    rw [List.map_singleton, List.mem_singleton] at hkey'
    exact hmem (hkey' ▸ hkey)

/-! ## Risk and rank -/

theorem rank_max (a b : RiskLevel) : (a.max b).rank = max a.rank b.rank := by
  cases a <;> cases b <;> rfl

theorem max_eq_or (a b : RiskLevel) : a.max b = a ∨ a.max b = b := by
  unfold RiskLevel.max
  split
  · exact Or.inr rfl
  · exact Or.inl rfl

def Leads (event : InspectionEvent) (report : StageReport) : Prop :=
  event.raw.highestUserStageRank ≤ report.stageRank ∧ 0 < report.stageRank

theorem not_leads {report : StageReport} (h : ¬ Leads event report) :
    report.stageRank ≤ event.raw.highestUserStageRank := by
  unfold Leads at h
  omega

theorem mergedEvent_of_leads {delivery : Delivery} (h : Leads event delivery.report) :
    (mergedEvent episodeId event delivery).title = delivery.report.description ∧
      (mergedEvent episodeId event delivery).raw.highestUserStageRank = delivery.report.stageRank ∧
      (mergedEvent episodeId event delivery).raw.highestUserStage = delivery.report.userStage := by
  unfold Leads at h
  have huser : delivery.report.userStage = delivery.report.stageName := if_pos h.2
  simp only [mergedEvent, h, and_self, decide_true, if_true, huser]

theorem mergedEvent_of_not_leads {delivery : Delivery} (h : ¬ Leads event delivery.report) :
    (mergedEvent episodeId event delivery).title = event.title ∧
      (mergedEvent episodeId event delivery).raw.highestUserStageRank = event.raw.highestUserStageRank ∧
      (mergedEvent episodeId event delivery).raw.highestUserStage = event.raw.highestUserStage := by
  unfold Leads at h
  simp only [mergedEvent, h, decide_false, Bool.false_eq_true, if_false, and_self]

theorem merged_created (robot : Robot) (eventId : Uuid) :
    Merged [first.report] (createdEvent robot execution eventId episodeId first) where
  stages record := by
    constructor
    · intro hrecord
      exact ⟨first.report, List.mem_singleton_self _, (List.mem_singleton.mp hrecord).symm⟩
    · rintro ⟨report, hreport, rfl⟩
      rw [List.mem_singleton.mp hreport]
      exact List.mem_singleton_self _
  once := List.nodup_singleton _
  risk := ⟨first.report, List.mem_singleton_self _, rfl⟩
  risk_le := List.forall_mem_singleton.mpr le_rfl
  highest := ⟨first.report, List.mem_singleton_self _, rfl, rfl⟩
  rank_le := List.forall_mem_singleton.mpr le_rfl

theorem Merged.step {delivery : Delivery} (h : Merged reports event)
    (hdistinct : DistinctPairs (reports ++ [delivery.report])) :
    Merged (reports ++ [delivery.report]) (mergedEvent episodeId event delivery) := by
  have hlast : delivery.report ∈ reports ++ [delivery.report] := List.mem_append_right _ (List.mem_singleton_self _)
  have hold : ∀ {report}, report ∈ reports → report ∈ reports ++ [delivery.report] := List.mem_append_left _
  have hsame : ∀ item ∈ event.raw.stages, item.key = delivery.report.record.key → item = delivery.report.record := by
    intro item hitem hkey
    obtain ⟨report, hreport, rfl⟩ := (h.stages item).mp hitem
    rw [hdistinct report (hold hreport) _ hlast hkey]
  obtain ⟨hstages, honce⟩ := mem_mergedStages hsame
  constructor
  · intro record
    simp only [List.mem_append, List.mem_singleton, or_and_right, exists_or, exists_eq_left, ← h.stages]
    rw [@eq_comm _ _ record]
    exact hstages record
  · exact honce h.once
  · rcases max_eq_or event.riskLevel delivery.report.risk with hmax | hmax
    · obtain ⟨report, hreport, hrisk⟩ := h.risk
      exact ⟨report, hold hreport, hmax.trans hrisk⟩
    · exact ⟨delivery.report, hlast, hmax⟩
  · intro report hreport
    change _ ≤ (event.riskLevel.max delivery.report.risk).rank
    rw [rank_max]
    rcases List.mem_append.mp hreport with hreport | hreport
    · exact le_max_of_le_left (h.risk_le report hreport)
    · rw [List.mem_singleton.mp hreport]
      exact le_max_right _ _
  · by_cases hleads : Leads event delivery.report
    · exact ⟨delivery.report, hlast, (mergedEvent_of_leads hleads).2⟩
    · obtain ⟨report, hreport, hrank, hstage⟩ := h.highest
      exact ⟨report, hold hreport, (mergedEvent_of_not_leads hleads).2.1.trans hrank,
        (mergedEvent_of_not_leads hleads).2.2.trans hstage⟩
  · intro report hreport
    by_cases hleads : Leads event delivery.report
    · rw [(mergedEvent_of_leads hleads).2.1]
      rcases List.mem_append.mp hreport with hreport | hreport
      · exact (h.rank_le report hreport).trans hleads.1
      · rw [List.mem_singleton.mp hreport]
    · rw [(mergedEvent_of_not_leads hleads).2.1]
      rcases List.mem_append.mp hreport with hreport | hreport
      · exact h.rank_le report hreport
      · rw [List.mem_singleton.mp hreport]
        exact not_leads hleads

/-! ## The alert after a run -/

theorem eventAfter_append_singleton (robot : Robot) (eventId : Uuid) (delivery : Delivery) :
    eventAfter robot execution eventId episodeId first (rest ++ [delivery]) =
      mergedEvent episodeId (eventAfter robot execution eventId episodeId first rest) delivery := by
  unfold eventAfter
  rw [List.foldl_append]
  rfl

def reportsOf (deliveries : List Delivery) : List StageReport := deliveries.map Delivery.report

/-- **What the alert tells apart from the title depends on which reports came.** -/
theorem merged_eventAfter (robot : Robot) (eventId : Uuid) (h : DistinctPairs (reportsOf (first :: rest))) :
    Merged (reportsOf (first :: rest)) (eventAfter robot execution eventId episodeId first rest) := by
  induction rest using List.reverseRecOn with
  | nil => exact merged_created robot eventId
  | append_singleton rest delivery ih =>
    have hreports : reportsOf (first :: (rest ++ [delivery])) = reportsOf (first :: rest) ++ [delivery.report] := by
      simp [reportsOf]
    rw [hreports] at h ⊢
    rw [eventAfter_append_singleton]
    exact (ih fun r hr r' hr' => h r (List.mem_append_left _ hr) r' (List.mem_append_left _ hr')).step h

/-- The report that gives the title: the last of those of the highest user stage, and the first where none is of a
user stage. -/
def titleReport (first : Delivery) (rest : List Delivery) : StageReport :=
  (lastTop (fun delivery => delivery.report.stageRank) first rest).report

theorem title_eventAfter (robot : Robot) (eventId : Uuid) :
    (eventAfter robot execution eventId episodeId first rest).title = (titleReport first rest).description ∧
      (eventAfter robot execution eventId episodeId first rest).raw.highestUserStageRank =
        (titleReport first rest).stageRank := by
  induction rest using List.reverseRecOn with
  | nil => exact ⟨rfl, rfl⟩
  | append_singleton rest delivery ih =>
    rw [eventAfter_append_singleton]
    unfold titleReport at ih ⊢
    rw [lastTop_append_singleton]
    by_cases h : Leads (eventAfter robot execution eventId episodeId first rest) delivery.report
    · have hleads := h
      unfold Leads at hleads
      rw [ih.2] at hleads
      rw [if_pos hleads]
      exact ⟨(mergedEvent_of_leads h).1, (mergedEvent_of_leads h).2.1⟩
    · have hleads := h
      unfold Leads at hleads
      rw [ih.2] at hleads
      rw [if_neg hleads]
      exact ⟨(mergedEvent_of_not_leads h).1.trans ih.1, (mergedEvent_of_not_leads h).2.1.trans ih.2⟩

/-! ## In any order -/

/-- What the reports of an episode come to. -/
structure Ingested (tables : Tables) (eventId : Uuid) (reports : List StageReport) (tables' : Tables) : Prop where
  alerts : tables'.robot.todayAlerts = tables.robot.todayAlerts + 1
  event : ∃ event, tables'.events = tables.events ++ [event] ∧ event.eventId = eventId ∧ Merged reports event ∧
    TitledByMostAdvanced reports event

theorem eventId_eventAfter (robot : Robot) (eventId : Uuid) :
    (eventAfter robot execution eventId episodeId first rest).eventId = eventId := by
  induction rest using List.reverseRecOn with
  | nil => rfl
  | append_singleton rest delivery ih =>
    rw [eventAfter_append_singleton, eventId_mergedEvent, ih]

/-- **Reports in any order, and again, come to the same alert just where the one that gives the title is described as
a most advanced one.** -/
theorem ingested_iff (hid : episodeId ≠ "") (hepisode : OfEpisode texts episodeId (first :: rest))
    (hunseen : Unseen (obstacleEventId uuid5 execution episodeId) tables)
    (hdistinct : DistinctPairs (reportsOf (first :: rest))) :
    (∃ tables', ingestAll texts uuid5 execution tables (first :: rest) = .ok tables' ∧
      Ingested tables (obstacleEventId uuid5 execution episodeId) (reportsOf (first :: rest)) tables') ↔
    ∃ top ∈ reportsOf (first :: rest), MostAdvanced (reportsOf (first :: rest)) top ∧
      (titleReport first rest).description = top.description := by
  have hmerged : Merged (reportsOf (first :: rest)) (eventAfter tables.robot execution
      (obstacleEventId uuid5 execution episodeId) episodeId first rest) := merged_eventAfter _ _ hdistinct
  rw [ingestAll_eq hid hepisode hunseen]
  constructor
  · rintro ⟨tables', hrun, hingested⟩
    cases hrun
    obtain ⟨event, hevents, -, -, top, hmem, htop, htitle⟩ := hingested.event
    obtain rfl := List.singleton_inj.mp (List.append_cancel_left hevents)
    exact ⟨top, hmem, htop, (title_eventAfter _ _).1.symm.trans htitle⟩
  · rintro ⟨top, hmem, htop, htitle⟩
    exact ⟨_, rfl, rfl, _, rfl, eventId_eventAfter _ _, hmerged, top, hmem, htop, (title_eventAfter _ _).1.trans htitle⟩

/-! ## Two attempts to back off -/

/-- The report of an attempt to back off. -/
def attemptDelivery (attempt : ℤ) : Delivery where
  report :=
    { obstacleEpisodeId := "episode-1"
      stage := "RECOVERY_ATTEMPT"
      recoveryAttempt := attempt
      maxRecoveryAttempts := 3
      alertDescription := ""
      details := ⟨.null, .null, .null, .null, .null, .null, .null, .obj []⟩
      pose := ⟨"", none, none, none⟩ }
  occurredAt := 0
  pendingSnapshot := none

def emptyTables : Tables := ⟨⟨"", 0⟩, []⟩

theorem distinct_attempts {a b : ℤ} (h : a ≠ b) :
    DistinctPairs (reportsOf [attemptDelivery a, attemptDelivery b]) := by
  intro report hreport report' hreport' hkey
  have hattempt : report.recoveryAttempt = report'.recoveryAttempt := congrArg Prod.snd hkey
  simp only [reportsOf, List.map_cons, List.map_nil, List.mem_cons, List.not_mem_nil, or_false] at hreport hreport'
  rcases hreport with rfl | rfl <;> rcases hreport' with rfl | rfl
  · rfl
  · exact absurd hattempt h
  · exact absurd hattempt.symm h
  · rfl

theorem mostAdvanced_attempt : MostAdvanced (reportsOf [attemptDelivery 1, attemptDelivery 2]) (attemptDelivery 2).report := by
  intro report hreport
  simp only [reportsOf, List.map_cons, List.map_nil, List.mem_cons, List.not_mem_nil, or_false] at hreport
  rcases hreport with rfl | rfl <;> exact Or.inr ⟨rfl, by decide⟩

theorem attempts_in_order : ∃ tables', ingestAll default (fun _ => 0) ⟨"1", none⟩ emptyTables
    [attemptDelivery 1, attemptDelivery 2] = .ok tables' ∧
    Ingested emptyTables (obstacleEventId (fun _ => 0) ⟨"1", none⟩ "episode-1")
      (reportsOf [attemptDelivery 1, attemptDelivery 2]) tables' := by
  refine (ingested_iff (by decide) ?_ ?_ (distinct_attempts (by decide))).mpr ?_
  · exact List.forall_mem_cons.mpr ⟨rfl, List.forall_mem_singleton.mpr rfl⟩
  · exact fun event hmem => absurd hmem List.not_mem_nil
  · exact ⟨_, List.mem_cons_of_mem _ (List.mem_singleton_self _), mostAdvanced_attempt, rfl⟩

/-- The first attempt is reported after the second and takes the title. -/
theorem attempts_out_of_order : DistinctPairs (reportsOf [attemptDelivery 2, attemptDelivery 1]) ∧
    ¬ ∃ tables', ingestAll default (fun _ => 0) ⟨"1", none⟩ emptyTables
    [attemptDelivery 2, attemptDelivery 1] = .ok tables' ∧
    Ingested emptyTables (obstacleEventId (fun _ => 0) ⟨"1", none⟩ "episode-1")
      (reportsOf [attemptDelivery 2, attemptDelivery 1]) tables' := by
  refine ⟨distinct_attempts (by decide), ?_⟩
  rintro ⟨tables', hrun, hingested⟩
  cases hrun
  obtain ⟨event, hevents, -, -, top, hmem, htop, htitle⟩ := hingested.event
  obtain rfl := List.singleton_inj.mp hevents
  have hattempt := htop (attemptDelivery 2).report List.mem_cons_self
  simp only [reportsOf, List.map_cons, List.map_nil, List.mem_cons, List.not_mem_nil, or_false] at hmem
  rcases hmem with rfl | rfl
  · exact absurd htitle (by decide)
  · exact absurd hattempt (by decide)

end AlertService

end RoamerX
