import RoamerX.Center.BicycleAlerts
import RoamerX.Lib.Cooldown
import RoamerX.Lib.Run

set_option autoImplicit false

/-! # One bicycle incident within the cooldown

Each report of a bicycle is a new incident or counts for one that is cooling, and an Edge alert that comes again
changes nothing, as long as the look-up finds the incident: it reads only the newest 20 events of the robot and judges
by columns that a merged report may overwrite. An alert that was merged leaves no trace of its id. -/

namespace RoamerX

namespace BicycleAlerts

open Cooldown

section

variable (texts : Texts) (upper : String → String) (isoformat : ℤ → String)
  (newest : NewestFirst InspectionEvent InspectionEvent.createdAt) (cooldownSeconds : ℕ)

/-! ## Incidents -/

/-- The incident of a row, where it is one. -/
def InspectionEvent.toIncident (event : InspectionEvent) : Option (Incident ℕ) :=
  if event.incident then
    some ⟨event.robot, event.createdAt, (mergedReports? texts event.rawDetection).getD 0⟩
  else none

def incidents (tables : Tables) : List (Incident ℕ) := tables.events.filterMap (InspectionEvent.toIncident texts)

def Handled (tables tables' : Tables) : Arrival → Prop
  | .telemetry robot clock _ report =>
    if isBicycleDetection texts report.detection then
      Reported (1000000 * cooldownSeconds) robot clock.now (incidents texts tables) (incidents texts tables')
    else incidents texts tables' = incidents texts tables
  | .edgeAlert robot clock alert =>
    if alert.eventId ∈ tables.handled then
      tables'.events = tables.events ∧ tables'.todayAlerts = tables.todayAlerts
    else if isBicycleAlert texts alert then
      Reported (1000000 * cooldownSeconds) robot clock.now (incidents texts tables) (incidents texts tables')
    else incidents texts tables' = incidents texts tables
  | .other _ => incidents texts tables' = incidents texts tables

/-! ## The condition -/

/-- No incident of the robot is cooling. -/
def Quiet (tables : Tables) (robot : ℕ) (now : ℤ) : Prop :=
  cooldownSeconds = 0 ∨ ∀ row ∈ window cooldownSeconds tables robot now, row.incident = false

/-- The look-up comes to an incident where one is cooling. -/
structure Findable (tables : Tables) (robot : ℕ) (now : ℤ) : Prop where
  /-- Nothing else of that time passes for a bicycle. -/
  only : ∀ row ∈ window cooldownSeconds tables robot now, row.recognised texts = true → row.incident = true
  /-- One that is cooling passes for a bicycle and is among the newest 20 rows. -/
  found : ∀ row ∈ window cooldownSeconds tables robot now, row.incident = true →
    ∃ other ∈ window cooldownSeconds tables robot now, other.incident = true ∧ other.recognised texts = true ∧
      (NewestFirst.upTo InspectionEvent.createdAt other (window cooldownSeconds tables robot now)).length ≤ 20

def Careful (tables : Tables) : Arrival → Prop
  | .telemetry robot clock eventId report => isBicycleDetection texts report.detection = true →
    readable texts report.detection = true ∧
    (cooldownSeconds ≠ 0 → Findable texts cooldownSeconds tables robot clock.now) ∧
    -- a row that is created has all its columns, and its identifier is new
    (Quiet cooldownSeconds tables robot clock.now →
      (telemetryIncident isoformat cooldownSeconds robot clock eventId report).storable = true ∧
        ∀ row ∈ tables.events, row.eventId ≠ eventId)
  | .edgeAlert robot clock alert => shouldRegisterEdgeAlert texts upper alert = true →
    -- an alert comes again only where a row has its identifier, and else the identifier is new
    (alert.eventId ∈ tables.handled ↔ ∃ row ∈ tables.events, row.eventId = alert.eventId) ∧
    (isBicycleAlert texts alert = true → alert.eventId ∉ tables.handled →
      readable texts alert.detection = true ∧
      (cooldownSeconds ≠ 0 → Findable texts cooldownSeconds tables robot clock.now) ∧
      (Quiet cooldownSeconds tables robot clock.now →
        (edgeEvent texts robot clock alert).storable = true ∧ mergedReports? texts alert.detection = some 1))
  -- no other part of the center writes to an incident
  | .other event => ∀ row ∈ tables.events, row.eventId = event.eventId → row.incident = false

structure Inv (tables : Tables) : Prop where
  unique : (tables.events.map InspectionEvent.eventId).Nodup
  counted : ∀ row ∈ tables.events, row.incident = true → (mergedReports? texts row.rawDetection).isSome
  apart : Apart (1000000 * cooldownSeconds) (incidents texts tables)

end

variable {texts : Texts} {upper : String → String} {isoformat : ℤ → String}
  {newest : NewestFirst InspectionEvent InspectionEvent.createdAt} {cooldownSeconds : ℕ} {tables tables' : Tables}
  {robot : ℕ} {clock : Clock} {now : ℤ} {row event : InspectionEvent} {raw detection : List (String × Json)}

/-! ## The count of an incident -/

theorem one_le_mergedReports {m : ℤ} (h : mergedReports? texts raw = some m) : 1 ≤ m := by
  obtain ⟨aggregation, -, hcount⟩ := Option.bind_eq_some_iff.mp h
  obtain ⟨count, -, rfl⟩ := Option.map_eq_some_iff.mp hcount
  exact Int.le_max_left 1 count

theorem mergedReports_set {aggregation : List (String × Json)} {m : ℤ}
    (hcount : Json.get? aggregation "merged_reports" = some (.num (.int m))) (hm : 1 ≤ m) :
    mergedReports? texts (Json.set raw "alert_aggregation" (.obj aggregation)) = some m := by
  have htruthy : (Json.obj aggregation).truthy = true := by
    cases aggregation with
    | nil => exact nomatch hcount
    | cons member members => rfl
  have haggregation : aggregation? (Json.set raw "alert_aggregation" (.obj aggregation)) = some aggregation := by
    simp only [aggregation?, Json.getOr, Json.get?_set, if_true, htruthy]
  have hnonzero : (Json.num (.int m)).truthy = true := decide_eq_true (by omega)
  rw [mergedReports?, haggregation, Option.bind_some, Json.getOr, hcount]
  simp only [hnonzero, if_true, int?, Option.map_some, Option.some.injEq]
  exact max_eq_right hm

theorem mergeBicycleEvent_spec {merged : InspectionEvent}
    (h : mergeBicycleEvent texts isoformat cooldownSeconds now event detection = .ok merged) :
    merged.eventId = event.eventId ∧ merged.robot = event.robot ∧ merged.createdAt = event.createdAt ∧
      merged.incident = event.incident ∧ ∃ m, mergedReports? texts event.rawDetection = some m ∧
        mergedReports? texts merged.rawDetection = some (m + 1) := by
  unfold mergeBicycleEvent at h
  split at h
  · next aggregation m haggregation hm =>
    split at h
    · exact nomatch h
    · obtain rfl := Except.ok.inj h
      refine ⟨rfl, rfl, rfl, rfl, m, hm, mergedReports_set ?_ ?_⟩
      · simp
      · have hpos := one_le_mergedReports hm
        omega
  · exact nomatch h

theorem mergeBicycleEvent_ok (isoformat : ℤ → String) (cooldownSeconds : ℕ) (now : ℤ) {m : ℤ}
    (hcount : mergedReports? texts event.rawDetection = some m) (hreadable : readable texts detection = true) :
    ∃ merged, mergeBicycleEvent texts isoformat cooldownSeconds now event detection = .ok merged := by
  obtain ⟨aggregation, haggregation, -⟩ := Option.bind_eq_some_iff.mp hcount
  unfold mergeBicycleEvent
  rw [haggregation, hcount]
  simp [hreadable]

/-! ## The look-up -/

theorem mem_window : row ∈ window cooldownSeconds tables robot now ↔
    row ∈ tables.events ∧ row.robot = robot ∧ now - 1000000 * cooldownSeconds ≤ row.createdAt := by
  rw [window, List.mem_filter, Bool.and_eq_true, decide_eq_true_eq, decide_eq_true_eq]

theorem recentBicycleEvent_some
    (hfindable : cooldownSeconds ≠ 0 → Findable texts cooldownSeconds tables robot now)
    (h : recentBicycleEvent texts newest cooldownSeconds tables robot now = some row) :
    row ∈ tables.events ∧ row.robot = robot ∧ now - 1000000 * cooldownSeconds ≤ row.createdAt ∧
      row.incident = true := by
  unfold recentBicycleEvent at h
  split at h
  · exact nomatch h
  · next hcooldown =>
    have hwindow := newest.mem_of_mem_take (List.mem_of_find?_eq_some h)
    obtain ⟨hrow, hrobot, htime⟩ := mem_window.mp hwindow
    exact ⟨hrow, hrobot, htime, (hfindable hcooldown).only row hwindow (List.find?_some h)⟩

theorem recentBicycleEvent_none
    (hfindable : cooldownSeconds ≠ 0 → Findable texts cooldownSeconds tables robot now)
    (h : recentBicycleEvent texts newest cooldownSeconds tables robot now = none) :
    Quiet cooldownSeconds tables robot now := by
  unfold recentBicycleEvent at h
  split at h
  · next hzero => exact Or.inl hzero
  · next hcooldown =>
    refine Or.inr fun row hrow => Bool.eq_false_iff.mpr fun hincident => ?_
    obtain ⟨other, hother, -, hrecognised, hfew⟩ := (hfindable hcooldown).found row hrow hincident
    exact List.find?_eq_none.mp h other (newest.mem_take hother hfew) hrecognised

/-! ## One report -/

theorem toIncident_of_incident (h : event.incident = true) : event.toIncident texts =
    some ⟨event.robot, event.createdAt, (mergedReports? texts event.rawDetection).getD 0⟩ := by
  rw [InspectionEvent.toIncident, if_pos h]

theorem reported_merge (hinv : Inv texts cooldownSeconds tables) {merged : InspectionEvent}
    (hrow : row ∈ tables.events ∧ row.robot = robot ∧ now - 1000000 * cooldownSeconds ≤ row.createdAt ∧
      row.incident = true)
    (hmerged : mergeBicycleEvent texts isoformat cooldownSeconds now row detection = .ok merged) :
    Reported (1000000 * cooldownSeconds) robot now (incidents texts tables) (incidents texts (tables.save merged)) ∧
      Inv texts cooldownSeconds (tables.save merged) := by
  obtain ⟨hmem, hrobot, hcooling, hincident⟩ := hrow
  obtain ⟨hid, hrobot', hcreated, hincident', m, hm, hm'⟩ := mergeBicycleEvent_spec hmerged
  obtain ⟨front, back, hevents⟩ := List.append_of_mem hmem
  have hunique := hinv.unique
  rw [hevents, List.map_append, List.map_cons, List.nodup_append] at hunique
  have hfront : merged.eventId ∉ front.map InspectionEvent.eventId := fun hfront =>
    hunique.2.2 _ hfront _ List.mem_cons_self hid
  have hsave : (tables.save merged).events = front ++ merged :: back := by
    rw [Tables.save, hevents]
    exact Keyed.put_append_cons hfront hid.symm
  have hold : incidents texts tables = front.filterMap (InspectionEvent.toIncident texts) ++
      ⟨row.robot, row.createdAt, m⟩ :: back.filterMap (InspectionEvent.toIncident texts) := by
    rw [incidents, hevents, List.filterMap_append,
      List.filterMap_cons_some (toIncident_of_incident hincident), hm, Option.getD_some]
  have hnew : incidents texts (tables.save merged) = front.filterMap (InspectionEvent.toIncident texts) ++
      ⟨row.robot, row.createdAt, m + 1⟩ :: back.filterMap (InspectionEvent.toIncident texts) := by
    rw [incidents, hsave, List.filterMap_append,
      List.filterMap_cons_some (toIncident_of_incident (hincident'.trans hincident)), hm', Option.getD_some, hrobot',
      hcreated]
  have hreported : Reported (1000000 * cooldownSeconds) robot now (incidents texts tables)
      (incidents texts (tables.save merged)) := by
    rw [hold, hnew]
    exact Reported.counted _ _ ⟨row.robot, row.createdAt, m⟩ hrobot hcooling
  refine ⟨hreported, ?_, ?_, hinv.apart.reported hreported⟩
  · have hsame := hinv.unique
    rw [hsave, List.map_append, List.map_cons, hid]
    rw [hevents, List.map_append, List.map_cons] at hsame
    exact hsame
  · rw [hsave]
    intro other hother hotherIncident
    rcases List.mem_append.mp hother with hother | hother
    · exact hinv.counted other (hevents ▸ List.mem_append_left _ hother) hotherIncident
    rcases List.mem_cons.mp hother with rfl | hother
    · rw [hm']
      rfl
    · exact hinv.counted other (hevents ▸ List.mem_append_right _ (List.mem_cons_of_mem _ hother)) hotherIncident

theorem create_ok (hstorable : event.storable = true) (hfresh : ∀ row ∈ tables.events, row.eventId ≠ event.eventId) :
    ∃ created, create tables event = .ok created ∧ created.events = tables.events ++ [event] ∧
      created.handled = tables.handled := by
  have hany : tables.events.any (fun row => decide (row.eventId = event.eventId)) = false :=
    List.any_eq_false.mpr fun row hrow => by simpa using hfresh row hrow
  refine ⟨{ tables.save event with
    todayAlerts := Function.update tables.todayAlerts event.robot (tables.todayAlerts event.robot + 1) }, ?_, ?_, rfl⟩
  · rw [create, hstorable, hany]
    rfl
  · refine Keyed.put_of_notMem fun hmem => ?_
    obtain ⟨row, hrow, hid⟩ := List.mem_map.mp hmem
    exact hfresh row hrow hid

theorem Inv.append (hinv : Inv texts cooldownSeconds tables)
    (hfresh : ∀ row ∈ tables.events, row.eventId ≠ event.eventId) (hevents : tables'.events = tables.events ++ [event])
    (hcounted : event.incident = true → (mergedReports? texts event.rawDetection).isSome)
    (hapart : Apart (1000000 * cooldownSeconds) (incidents texts tables')) : Inv texts cooldownSeconds tables' := by
  refine ⟨?_, ?_, hapart⟩
  · rw [hevents, List.map_append, List.nodup_append]
    refine ⟨hinv.unique, List.nodup_singleton _, fun id hid new hnew => ?_⟩
    obtain ⟨row, hrow, rfl⟩ := List.mem_map.mp hid
    rw [List.map_singleton, List.mem_singleton] at hnew
    rw [hnew]
    exact hfresh row hrow
  · rw [hevents]
    intro row hrow
    rcases List.mem_append.mp hrow with hrow | hrow
    · exact hinv.counted row hrow
    · rw [List.mem_singleton.mp hrow]
      exact hcounted

theorem reported_create (hinv : Inv texts cooldownSeconds tables)
    (hquiet : Quiet cooldownSeconds tables event.robot now) (hnow : now ≤ event.createdAt)
    (hfresh : ∀ row ∈ tables.events, row.eventId ≠ event.eventId) (hincident : event.incident = true)
    (hcount : mergedReports? texts event.rawDetection = some 1)
    (hevents : tables'.events = tables.events ++ [event]) :
    Reported (1000000 * cooldownSeconds) event.robot now (incidents texts tables) (incidents texts tables') ∧
      Inv texts cooldownSeconds tables' := by
  have hnew : incidents texts tables' = incidents texts tables ++ [⟨event.robot, event.createdAt, 1⟩] := by
    rw [incidents, hevents, List.filterMap_append, List.filterMap_cons_some (toIncident_of_incident hincident), hcount]
    rfl
  have hreported : Reported (1000000 * cooldownSeconds) event.robot now (incidents texts tables)
      (incidents texts tables') := by
    rw [hnew]
    refine Reported.new _ _ hnow fun hpos incident hmem hsource => ?_
    obtain ⟨row, hrow, hrowIncident⟩ := List.mem_filterMap.mp hmem
    unfold InspectionEvent.toIncident at hrowIncident
    split at hrowIncident
    · next hrowTrue =>
      obtain rfl := Option.some.inj hrowIncident
      rcases hquiet with hzero | hquiet
      · rw [hzero] at hpos
        exact absurd hpos (lt_irrefl _)
      · by_contra hlate
        have hwindow := mem_window.mpr ⟨hrow, hsource, not_lt.mp hlate⟩
        exact Bool.noConfusion ((hquiet row hwindow).symm.trans hrowTrue)
    · exact nomatch hrowIncident
  exact ⟨hreported, hinv.append hfresh hevents (fun _ => by rw [hcount]; rfl) (hinv.apart.reported hreported)⟩

/-! ## One arrival -/

theorem incidents_congr (hevents : tables'.events = tables.events) :
    incidents texts tables' = incidents texts tables := by
  rw [incidents, incidents, hevents]

theorem Inv.congr (hinv : Inv texts cooldownSeconds tables) (hevents : tables'.events = tables.events) :
    Inv texts cooldownSeconds tables' :=
  ⟨hevents ▸ hinv.unique, hevents ▸ hinv.counted, incidents_congr hevents ▸ hinv.apart⟩

theorem now_le_createdAt (clock : Clock) : clock.now ≤ clock.createdAt :=
  Int.le_add_of_nonneg_right (Int.natCast_nonneg _)

theorem handled_telemetry (newest : NewestFirst InspectionEvent InspectionEvent.createdAt)
    (hinv : Inv texts cooldownSeconds tables) {eventId : Uuid} {report : TelemetryReport}
    (hcareful : Careful texts upper isoformat cooldownSeconds tables (.telemetry robot clock eventId report))
    (hbicycle : isBicycleDetection texts report.detection = true) :
    ∃ tables' event created, ingestTelemetryBicycleDetection texts isoformat newest cooldownSeconds tables robot clock
        eventId report = .ok (tables', event, created) ∧
      Reported (1000000 * cooldownSeconds) robot clock.now (incidents texts tables) (incidents texts tables') ∧
      Inv texts cooldownSeconds tables' := by
  obtain ⟨hreadable, hfindable, hcreate⟩ := hcareful hbicycle
  unfold ingestTelemetryBicycleDetection
  cases hrecent : recentBicycleEvent texts newest cooldownSeconds tables robot clock.now with
  | some row =>
    have hrow := recentBicycleEvent_some hfindable hrecent
    obtain ⟨m, hm⟩ := Option.isSome_iff_exists.mp (hinv.counted row hrow.1 hrow.2.2.2)
    obtain ⟨merged, hmerged⟩ := mergeBicycleEvent_ok isoformat cooldownSeconds clock.now hm hreadable
    refine ⟨tables.save merged, merged, false, ?_, reported_merge hinv hrow hmerged⟩
    dsimp only
    rw [hmerged]
    rfl
  | none =>
    have hquiet := recentBicycleEvent_none hfindable hrecent
    obtain ⟨hstorable, hfresh⟩ := hcreate hquiet
    obtain ⟨created, hcreated, hevents, -⟩ := create_ok hstorable hfresh
    have hcount : mergedReports? texts
        (telemetryIncident isoformat cooldownSeconds robot clock eventId report).rawDetection = some 1 :=
      mergedReports_set rfl (le_refl _)
    refine ⟨created, telemetryIncident isoformat cooldownSeconds robot clock eventId report, true, ?_,
      reported_create hinv hquiet (now_le_createdAt clock) hfresh rfl hcount hevents⟩
    dsimp only
    rw [hreadable, hcreated]
    rfl

theorem handled_edgeAlert (newest : NewestFirst InspectionEvent InspectionEvent.createdAt)
    (hinv : Inv texts cooldownSeconds tables) {alert : EdgeAlert}
    (hcareful : Careful texts upper isoformat cooldownSeconds tables (.edgeAlert robot clock alert))
    (hbicycle : isBicycleAlert texts alert = true) (hnew : alert.eventId ∉ tables.handled) :
    ∃ tables' event created, ingestEdgeAlert texts upper isoformat newest cooldownSeconds tables robot clock alert =
        .ok (tables', some event, created) ∧
      Reported (1000000 * cooldownSeconds) robot clock.now (incidents texts tables) (incidents texts tables') ∧
      Inv texts cooldownSeconds tables' := by
  have hregister : shouldRegisterEdgeAlert texts upper alert = true := by
    rw [shouldRegisterEdgeAlert, hbicycle, Bool.true_or]
  obtain ⟨hknown, hbicycleCareful⟩ := hcareful hregister
  obtain ⟨hreadable, hfindable, hcreate⟩ := hbicycleCareful hbicycle hnew
  have hfresh : ∀ row ∈ tables.events, row.eventId ≠ alert.eventId := fun row hrow hid =>
    hnew (hknown.mpr ⟨row, hrow, hid⟩)
  have hfind : tables.events.find? (fun event => decide (event.eventId = alert.eventId)) = none :=
    List.find?_eq_none.mpr fun row hrow => by simpa using hfresh row hrow
  unfold ingestEdgeAlert
  rw [hregister, hfind, hbicycle]
  dsimp only
  cases hrecent : recentBicycleEvent texts newest cooldownSeconds tables robot clock.now with
  | some row =>
    have hrow := recentBicycleEvent_some hfindable hrecent
    obtain ⟨m, hm⟩ := Option.isSome_iff_exists.mp (hinv.counted row hrow.1 hrow.2.2.2)
    obtain ⟨merged, hmerged⟩ := mergeBicycleEvent_ok isoformat cooldownSeconds clock.now hm hreadable
    refine ⟨tables.save merged, merged, false, ?_, reported_merge hinv hrow hmerged⟩
    simp only [hmerged, if_true]
    rfl
  | none =>
    have hquiet := recentBicycleEvent_none hfindable hrecent
    obtain ⟨hstorable, hcount⟩ := hcreate hquiet
    obtain ⟨created, hcreated, hevents, -⟩ := create_ok hstorable hfresh
    refine ⟨created, edgeEvent texts robot clock alert, true, ?_,
      reported_create hinv hquiet (now_le_createdAt clock) hfresh hbicycle hcount hevents⟩
    simp only [hreadable, hcreated, if_true]
    rfl

theorem toIncident_of_other (h : event.incident = false) : event.toIncident texts = none := by
  rw [InspectionEvent.toIncident, h]
  rfl

theorem incidents_append (h : event.incident = false) (hevents : tables'.events = tables.events ++ [event]) :
    incidents texts tables' = incidents texts tables := by
  rw [incidents, hevents, List.filterMap_append, List.filterMap_cons_none (toIncident_of_other h), List.filterMap_nil,
    List.append_nil]
  rfl

theorem other_edgeAlert (hinv : Inv texts cooldownSeconds tables) {alert : EdgeAlert}
    (hother : isBicycleAlert texts alert = false)
    (hfresh : ∀ row ∈ tables.events, row.eventId ≠ alert.eventId) {result : Tables × Option InspectionEvent × Bool}
    (h : ingestEdgeAlert texts upper isoformat newest cooldownSeconds tables robot clock alert = .ok result) :
    incidents texts result.1 = incidents texts tables ∧ Inv texts cooldownSeconds result.1 := by
  have hfind : tables.events.find? (fun event => decide (event.eventId = alert.eventId)) = none :=
    List.find?_eq_none.mpr fun row hrow => by simpa using hfresh row hrow
  unfold ingestEdgeAlert at h
  split at h
  · obtain rfl := Except.ok.inj h
    exact ⟨rfl, hinv⟩
  rw [hfind, hother] at h
  simp only [Bool.false_eq_true, if_false] at h
  split at h
  · exact nomatch h
  by_cases hstorable : (edgeEvent texts robot clock alert).storable = true
  · obtain ⟨created, hcreated, hevents, -⟩ := create_ok hstorable hfresh
    rw [hcreated] at h
    obtain rfl := Except.ok.inj h
    have hincidents := @incidents_append texts _ _ _ hother hevents
    refine ⟨hincidents, hinv.append hfresh hevents (fun hincident => ?_) (hincidents ▸ hinv.apart)⟩
    exact Bool.noConfusion (hother.symm.trans hincident)
  · rw [create, Bool.eq_false_iff.mpr hstorable] at h
    exact nomatch h

theorem other_put (hinv : Inv texts cooldownSeconds tables)
    {combine : InspectionEvent → InspectionEvent → InspectionEvent}
    (hcombine : ∀ old new, (combine old new).eventId = old.eventId ∧ (combine old new).incident = old.incident)
    (hevent : event.incident = false)
    (hother : ∀ row ∈ tables.events, row.eventId = event.eventId → row.incident = false)
    (hevents : tables'.events = Keyed.put InspectionEvent.eventId combine tables.events event) :
    incidents texts tables' = incidents texts tables ∧ Inv texts cooldownSeconds tables' := by
  by_cases hknown : event.eventId ∈ tables.events.map InspectionEvent.eventId
  · obtain ⟨row, hrow, hid⟩ := List.mem_map.mp hknown
    have hrowOther := hother row hrow hid
    obtain ⟨hwrittenId, hwrittenOther⟩ := hcombine row event
    rw [hrowOther] at hwrittenOther
    obtain ⟨front, back, hsplit⟩ := List.append_of_mem hrow
    have hunique := hinv.unique
    rw [hsplit, List.map_append, List.map_cons, List.nodup_append] at hunique
    have hfront : event.eventId ∉ front.map InspectionEvent.eventId := fun hfront =>
      hunique.2.2 _ hfront _ List.mem_cons_self hid.symm
    rw [hsplit, Keyed.put_append_cons hfront hid] at hevents
    have hincidents : incidents texts tables' = incidents texts tables := by
      rw [incidents, incidents, hevents, hsplit, List.filterMap_append, List.filterMap_append,
        List.filterMap_cons_none (toIncident_of_other hrowOther),
        List.filterMap_cons_none (toIncident_of_other hwrittenOther)]
    refine ⟨hincidents, ?_, ?_, hincidents ▸ hinv.apart⟩
    · have hsame := hinv.unique
      rw [hsplit, List.map_append, List.map_cons] at hsame
      rw [hevents, List.map_append, List.map_cons, hwrittenId]
      exact hsame
    · rw [hevents]
      intro other hmem hincident
      rcases List.mem_append.mp hmem with hmem | hmem
      · exact hinv.counted other (hsplit ▸ List.mem_append_left _ hmem) hincident
      rcases List.mem_cons.mp hmem with rfl | hmem
      · exact Bool.noConfusion (hwrittenOther.symm.trans hincident)
      · exact hinv.counted other (hsplit ▸ List.mem_append_right _ (List.mem_cons_of_mem _ hmem)) hincident
  · rw [Keyed.put_of_notMem hknown] at hevents
    have hincidents := @incidents_append texts _ _ _ hevent hevents
    refine ⟨hincidents, hinv.append (fun row hrow hid => hknown (List.mem_map.mpr ⟨row, hrow, hid⟩)) hevents
      (fun hincident => Bool.noConfusion (hevent.symm.trans hincident)) (hincidents ▸ hinv.apart)⟩

theorem handled_step (hinv : Inv texts cooldownSeconds tables) (arrival : Arrival)
    (hcareful : Careful texts upper isoformat cooldownSeconds tables arrival) :
    Handled texts cooldownSeconds tables (step texts upper isoformat newest cooldownSeconds tables arrival) arrival ∧
      Inv texts cooldownSeconds (step texts upper isoformat newest cooldownSeconds tables arrival) := by
  cases arrival with
  | telemetry robot clock eventId report =>
    simp only [Handled, step]
    cases hbicycle : isBicycleDetection texts report.detection with
    | false => exact ⟨rfl, hinv⟩
    | true =>
      obtain ⟨tables', event, created, heq, hreported, hinv'⟩ := handled_telemetry newest hinv hcareful hbicycle
      rw [heq]
      exact ⟨hreported, hinv'⟩
  | edgeAlert robot clock alert =>
    simp only [Handled, step]
    by_cases hhandled : alert.eventId ∈ tables.handled
    · -- it comes again: a row has its identifier, or nothing is registered
      rw [if_pos hhandled]
      cases hregister : shouldRegisterEdgeAlert texts upper alert with
      | false =>
        rw [ingestEdgeAlert, hregister]
        exact ⟨⟨rfl, rfl⟩, hinv⟩
      | true =>
        obtain ⟨row, hrow, hid⟩ := (hcareful hregister).1.mp hhandled
        have hfind : (tables.events.find? fun event => decide (event.eventId = alert.eventId)).isSome :=
          List.find?_isSome.mpr ⟨row, hrow, decide_eq_true hid⟩
        obtain ⟨existing, hexisting⟩ := Option.isSome_iff_exists.mp hfind
        rw [ingestEdgeAlert, hregister, hexisting]
        exact ⟨⟨rfl, rfl⟩, hinv.congr rfl⟩
    rw [if_neg hhandled]
    cases hbicycle : isBicycleAlert texts alert with
    | true =>
      obtain ⟨tables', event, created, heq, hreported, hinv'⟩ :=
        handled_edgeAlert newest hinv hcareful hbicycle hhandled
      rw [heq]
      exact ⟨hreported, hinv'.congr rfl⟩
    | false =>
      cases hregister : shouldRegisterEdgeAlert texts upper alert with
      | false =>
        rw [ingestEdgeAlert, hregister]
        exact ⟨rfl, hinv⟩
      | true =>
        have hfresh : ∀ row ∈ tables.events, row.eventId ≠ alert.eventId := fun row hrow hid =>
          hhandled ((hcareful hregister).1.mpr ⟨row, hrow, hid⟩)
        rw [if_neg Bool.false_ne_true]
        split
        · next tables' created heq => exact other_edgeAlert hinv hbicycle hfresh heq
        · next tables' event created heq =>
          obtain ⟨hincidents, hinv'⟩ := other_edgeAlert hinv hbicycle hfresh heq
          exact ⟨hincidents, hinv'.congr rfl⟩
        · exact ⟨rfl, hinv⟩
  | other event =>
    refine @other_put _ _ _ _ { event with incident := false } hinv _ (fun _ _ => ⟨?_, ?_⟩) rfl hcareful rfl
    · rfl
    · rfl

/-! ## The condition can be evaluated -/

instance (robot : ℕ) (now : ℤ) : Decidable (Quiet cooldownSeconds tables robot now) :=
  inferInstanceAs (Decidable (cooldownSeconds = 0 ∨ ∀ row ∈ window cooldownSeconds tables robot now, row.incident = false))

instance (robot : ℕ) (now : ℤ) : Decidable (Findable texts cooldownSeconds tables robot now) :=
  decidable_of_iff
    ((∀ row ∈ window cooldownSeconds tables robot now, row.recognised texts = true → row.incident = true) ∧
      ∀ row ∈ window cooldownSeconds tables robot now, row.incident = true →
        ∃ other ∈ window cooldownSeconds tables robot now, other.incident = true ∧ other.recognised texts = true ∧
          (NewestFirst.upTo InspectionEvent.createdAt other (window cooldownSeconds tables robot now)).length ≤ 20)
    ⟨fun h => ⟨h.1, h.2⟩, fun h => ⟨h.only, h.found⟩⟩

instance : ∀ (tables : Tables) (arrival : Arrival),
    Decidable (Careful texts upper isoformat cooldownSeconds tables arrival)
  | _, .telemetry _ _ _ _ => by
    dsimp only [Careful]
    infer_instance
  | _, .edgeAlert _ _ _ => by
    dsimp only [Careful]
    infer_instance
  | _, .other _ => by
    dsimp only [Careful]
    infer_instance

/-! ## Every run -/

theorem inv_empty : Inv texts cooldownSeconds Tables.empty where
  unique := List.nodup_nil
  counted _ hrow := absurd hrow List.not_mem_nil
  apart := List.Pairwise.nil

/-- In a run of careful steps, incidents are apart, and each report counts once. -/
theorem cooled_of_careful (texts : Texts) (upper : String → String) (isoformat : ℤ → String)
    (newest : NewestFirst InspectionEvent InspectionEvent.createdAt) (cooldownSeconds : ℕ) (arrivals : List Arrival)
    (hcareful : Run.Always (step texts upper isoformat newest cooldownSeconds)
      (Careful texts upper isoformat cooldownSeconds) Tables.empty arrivals) :
    Run.Always (step texts upper isoformat newest cooldownSeconds) (fun tables arrival =>
      Handled texts cooldownSeconds tables (step texts upper isoformat newest cooldownSeconds tables arrival) arrival)
      Tables.empty arrivals ∧
    ∀ reached, reached <+: arrivals → Apart (1000000 * cooldownSeconds)
      (incidents texts (Run.exec (step texts upper isoformat newest cooldownSeconds) Tables.empty reached)) := by
  constructor
  · exact Run.always_of_guarded (Inv texts cooldownSeconds)
      (fun _ arrival hinv hstep => (handled_step hinv arrival hstep).2)
      (fun _ arrival hinv hstep => (handled_step hinv arrival hstep).1) inv_empty hcareful
  · rintro reached ⟨rest, rfl⟩
    have hreached := ((Run.always_append _ _ _ reached rest).mp hcareful).1
    exact (Run.exec_invariant_of_always (Inv texts cooldownSeconds)
      (fun _ arrival hinv hstep => (handled_step hinv arrival hstep).2) inv_empty hreached).apart

/-- An alert of the Edge, `seconds` after the first one. -/
def parkingAlert (seconds : ℕ) (eventId : Uuid) : Arrival :=
  .edgeAlert 1 ⟨1000000 * seconds, 0⟩
    { eventId := eventId
      eventType := .str "vehicle_illegal_parking"
      source := [("component", .str "bike_bot"), ("code", .str "BICYCLE_ALERT")]
      detection := [("label", .str "自行车违停"), ("class", .str "bicycle"), ("confidence", .num (.float (9 / 10)))] }

/-- One alert is created, one merged, the first one comes again, and one comes after the cooldown. -/
theorem cooled_parkingAlerts :
    Run.Always (step default id (fun _ => "") (NewestFirst.byInsertion _) 10) (fun tables arrival =>
      Handled default 10 tables (step default id (fun _ => "") (NewestFirst.byInsertion _) 10 tables arrival) arrival)
      Tables.empty [parkingAlert 0 1, parkingAlert 1 2, parkingAlert 2 1, parkingAlert 20 3] ∧
    ∀ reached, reached <+: [parkingAlert 0 1, parkingAlert 1 2, parkingAlert 2 1, parkingAlert 20 3] →
      Apart (1000000 * (10 : ℕ)) (incidents default
        (Run.exec (step default id (fun _ => "") (NewestFirst.byInsertion _) 10) Tables.empty reached)) :=
  cooled_of_careful default id (fun _ => "") (NewestFirst.byInsertion _) 10 _ (by decide +kernel)

theorem Handled.again {alert : EdgeAlert} (h : Handled texts cooldownSeconds tables tables' (.edgeAlert robot clock alert))
    (hhandled : alert.eventId ∈ tables.handled) : tables'.events = tables.events := by
  simp only [Handled] at h
  rw [if_pos hhandled] at h
  exact h.1

/-- An alert that was merged and comes again is counted again. -/
theorem recounted :
    ¬ Run.Always (step default id (fun _ => "") (NewestFirst.byInsertion _) 10) (fun tables arrival =>
      Handled default 10 tables (step default id (fun _ => "") (NewestFirst.byInsertion _) 10 tables arrival) arrival)
      Tables.empty [parkingAlert 0 1, parkingAlert 1 2, parkingAlert 2 2] := by
  rintro ⟨-, -, hagain, -⟩
  have hcounts := congrArg (List.map fun event => mergedReports? default event.rawDetection)
    (Handled.again hagain (by decide +kernel))
  exact absurd hcounts (by decide +kernel)

end BicycleAlerts

end RoamerX
