import RoamerX.Center.Parsing

set_option autoImplicit false

/-! # Payloads in form

What the errors of `validate_payload` ask of each type of message. `parse_message` ends in a
`ProtocolError`, or in an envelope in form, unless it comes to a timestamp that is no date or to a
member that it looks up in a set and that has no hash. -/

namespace RoamerX

namespace CenterProtocol

open Excepts

variable {texts : Texts} {upper : String → String}

/-! ## Forms -/

/-- The member reads as an instant with a timezone. -/
def IsInstant (texts : Texts) (mapping : List (String × Json)) (key : String) (instant : ℕ) : Prop :=
  ∃ value, Filled mapping key value ∧ texts.datetime (texts.str value) = .aware instant

/-- A waypoint of a `task.start`. -/
def WaypointForm (texts : Texts) (index : ℕ) (waypoint : Json) : Prop :=
  ∃ members, waypoint = .obj members ∧
    (∀ check ∈ waypointChecks texts "waypoint sequence must start at 0 and be contiguous" index members,
      check.1 = true) ∧
    snapshotOnly (Json.get? members "actions") = true

/-- `task.start`. -/
structure StartForm (texts : Texts) (command route : List (String × Json)) (waypoints : List Json) :
    Prop where
  snapshot : Json.get? command "route_snapshot" = some (.obj route)
  listed : Json.get? route "waypoints" = some (.arr waypoints)
  filled : waypoints ≠ []
  each : ∀ n waypoint, waypoints[n]? = some waypoint → WaypointForm texts n waypoint
  options : ∀ check ∈ optionChecks texts
    "route_snapshot global_controller must be theta_star, navfn or smac_hybrid" route command,
    check.1 = true
  session : ((Json.get? command "continuous_rosbag").getD (.bool false)).truthy = true →
    IsUuid texts command "loop_session_id"

/-- The payload and the object of a command. -/
structure CommandForm (texts : Texts) (messageType : String) (payload command : List (String × Json)) :
    Prop where
  commandId : IsUuid texts payload "command_id"
  expiry : ∃ issued expires, IsInstant texts payload "issued_at" issued
    ∧ IsInstant texts payload "expires_at" expires ∧ issued < expires
  execution : isTaskType messageType = true → IsUuid texts payload "task_execution_id"
  object : Json.get? payload "command" = some (.obj command)
  start : messageType = "task.start" → ∃ route waypoints, StartForm texts command route waypoints
  rosbagStop : messageType = "diagnostics.nav_rosbag_stop" → IsUuid texts command "loop_session_id"
  singleGoal : messageType = "nav.single_goal" → PoseNumeric command ∧
    OneOf texts globalControllers (orElse (Json.get? command "global_controller") (.str "theta_star"))

def IsMember (mapping : List (String × Json)) (key : String) (choices : List String) : Prop :=
  ∃ text ∈ choices, Json.get? mapping key = some (.str text)

/-- A point of a `trajectory.batch`, with its sequence number. -/
structure PointForm (texts : Texts) (point : List (String × Json)) (seq : ℕ) : Prop where
  seq : Json.get? point "seq" = some (.num (.int seq))
  sampledAt : ∃ instant, IsInstant texts point "sampled_at" instant
  pose : PoseNumeric point
  keyframe : checkKeyframe (Json.get? point "keyframe") = .ok ()

/-- A `trajectory.batch`, its points numbered one after the other. -/
structure BatchForm (texts : Texts) (payload : List (String × Json)) (points : List Json) (first : ℕ) :
    Prop where
  execution : IsUuid texts payload "task_execution_id"
  batchId : IsUuid texts payload "batch_id"
  listed : Json.get? payload "points" = some (.arr points)
  count : 1 ≤ points.length ∧ points.length ≤ 100
  each : ∀ n point, points[n]? = some point → ∃ members, point = .obj members ∧
    PointForm texts members (first + n)
  firstSeq : Json.equalsInt first (Json.get? payload "first_seq") = true
  lastSeq : Json.equalsInt (first + (points.length - 1) : ℕ) (Json.get? payload "last_seq") = true

/-- An entry of a `system.log.batch`. -/
structure EntryForm (texts : Texts) (upper : String → String) (entry : List (String × Json)) : Prop where
  level : ∃ value, Filled entry "level" value ∧ upper (texts.str value) ∈ logLevels
  module : ∃ value, Filled entry "module" value ∧ texts.str value ∈ logModules
  eventCode : ∃ value, Filled entry "event_code" value
  message : ∃ value, Filled entry "message" value

/-- An `alert.event`. -/
structure AlertForm (texts : Texts) (payload : List (String × Json)) : Prop where
  eventId : IsUuid texts payload "event_id"
  occurredAt : ∃ instant, IsInstant texts payload "occurred_at" instant
  eventType : ∃ value, Filled payload "event_type" value
  severity : ∃ value, Filled payload "severity" value

/-- The payload is in the form of its type. -/
structure PayloadForm (texts : Texts) (upper : String → String) (messageType : String)
    (payload : List (String × Json)) : Prop where
  command : messageType ∈ commandTypes → ∃ command, CommandForm texts messageType payload command
  ack : messageType = "command.ack" →
    IsUuid texts payload "command_id" ∧ IsMember payload "ack" ["accepted", "rejected"]
  progress : messageType = "command.progress" → IsUuid texts payload "command_id" ∧
    ∀ value, Filled payload "result" value → ∃ members, value = .obj members
  result : messageType = "command.result" → IsUuid texts payload "command_id" ∧
    IsMember payload "status" ["succeeded", "failed", "cancelled", "timed_out"]
  batch : messageType = "trajectory.batch" → ∃ points first, BatchForm texts payload points first
  alert : messageType = "alert.event" → AlertForm texts payload
  log : messageType = "system.log.batch" → ∃ entries,
    Json.get? payload "entries" = some (.arr entries) ∧ entries.length ≤ 100 ∧
      ∀ entry ∈ entries, ∃ members, entry = .obj members ∧ EntryForm texts upper members

/-- The constraints that an envelope of the center documents, in its types and in its errors. -/
structure EnvelopeForm (texts : Texts) (upper : String → String) (e : MessageEnvelope) : Prop where
  known : e.messageType ∈ uplinkTypes ++ commandTypes
  robot : e.robotId ≠ ""
  session : e.messageType ∈ uplinkTypes → ∃ id, e.sessionId = texts.uuidText id
  payload : PayloadForm texts upper e.messageType e.payload

/-! ## Each reader -/

theorem required_eq_ok_iff {mapping : List (String × Json)} {key : String} {value : Json} :
    required mapping key = .ok value ↔ Filled mapping key value := by
  unfold required Filled
  cases Json.get? mapping key with
  | none => simp [invalidMessage]
  | some v =>
    cases v with
    | null =>
      refine iff_of_false (by simp [invalidMessage]) ?_
      rintro ⟨⟨⟩, hnull⟩
      exact absurd hnull (by simp [Json.isNull])
    | _ =>
      constructor
      · rintro ⟨⟩
        exact ⟨rfl, rfl⟩
      · rintro ⟨⟨⟩, -⟩
        rfl

@[simp] theorem raisesOnly_required (mapping : List (String × Json)) (key : String) :
    RaisesOnly Raised.IsProtocolError (required mapping key) := by
  unfold required
  split
  · exact raisesOnly_invalidMessage _
  · exact raisesOnly_invalidMessage _
  · exact raisesOnly_ok _

theorem parseUuid_eq_ok_iff {value : Json} {field : String} {id : Uuid} :
    parseUuid texts value field = .ok id ↔ texts.uuid? (texts.str value) = some id := by
  unfold parseUuid
  cases texts.uuid? (texts.str value) with
  | none => simp [invalidMessage]
  | some id' => simp

@[simp] theorem raisesOnly_parseUuid (value : Json) (field : String) :
    RaisesOnly Raised.IsProtocolError (parseUuid texts value field) := by
  unfold parseUuid
  split
  · exact raisesOnly_ok _
  · exact raisesOnly_invalidMessage _

theorem normalizeTimestamp_eq_ok_iff {value : Json} {instant : ℕ} :
    normalizeTimestamp texts value = .ok instant ↔
      texts.datetime (texts.str value) = .aware instant := by
  unfold normalizeTimestamp
  cases texts.datetime (texts.str value) <;> simp [invalidMessage]

theorem raisesOnly_normalizeTimestamp (value : Json) :
    RaisesOnly Raised.IsProtocolError (normalizeTimestamp texts value) ↔
      texts.datetime (texts.str value) ≠ .impossible := by
  unfold normalizeTimestamp
  cases texts.datetime (texts.str value) <;> simp [Raised.IsProtocolError]

theorem checkMember_eq_ok_iff {choices : List String} {message : String} {value : Json} :
    checkMember choices message value = .ok () ↔ ∃ text ∈ choices, value = .str text := by
  cases value with
  | str text =>
    rw [checkMember]
    by_cases hmember : text ∈ choices
    · rw [if_pos hmember]
      exact iff_of_true rfl ⟨text, hmember, rfl⟩
    · rw [if_neg hmember]
      refine iff_of_false (by simp [invalidMessage]) ?_
      rintro ⟨_, hother, ⟨⟩⟩
      exact hmember hother
  | _ => simp [checkMember, invalidMessage]

theorem raisesOnly_checkMember (choices : List String) (message : String) (value : Json) :
    RaisesOnly Raised.IsProtocolError (checkMember choices message value) ↔ HasHash (some value) := by
  cases value with
  | str text =>
    rw [checkMember]
    split_ifs <;> simp [HasHash]
  | _ => simp [checkMember, HasHash, Raised.IsProtocolError]

/-! ## What comes to a timestamp or to a set -/

/-- The timestamp, where there is one, is a date. -/
def TimeReads (texts : Texts) (mapping : List (String × Json)) (key : String) : Prop :=
  ∀ value, Filled mapping key value → texts.datetime (texts.str value) ≠ .impossible

/-- The points that the checks come to are sampled at dates. -/
def PointsRead (texts : Texts) (points : List Json) : Prop :=
  ∀ (n : ℕ) point, points[n]? = some (.obj point) →
    (∀ m < n, ∀ before, points[m]? = some before →
      ∃ members seq, before = .obj members ∧ PointForm texts members seq) →
    (∃ seq : ℕ, Json.get? point "seq" = some (.num (.int seq))) → TimeReads texts point "sampled_at"

/-- The checks on a payload come to no timestamp that is no date and to no member without a hash. -/
structure PayloadReads (texts : Texts) (messageType : String) (payload : List (String × Json)) :
    Prop where
  issued : messageType ∈ commandTypes → IsUuid texts payload "command_id" →
    TimeReads texts payload "issued_at"
  expires : messageType ∈ commandTypes → IsUuid texts payload "command_id" →
    (∃ instant, IsInstant texts payload "issued_at" instant) → TimeReads texts payload "expires_at"
  ack : messageType = "command.ack" → IsUuid texts payload "command_id" →
    HasHash (Json.get? payload "ack")
  result : messageType = "command.result" → IsUuid texts payload "command_id" →
    HasHash (Json.get? payload "status")
  batch : messageType = "trajectory.batch" → IsUuid texts payload "task_execution_id" →
    IsUuid texts payload "batch_id" → ∀ points, Json.get? payload "points" = some (.arr points) →
      1 ≤ points.length → points.length ≤ 100 → PointsRead texts points
  alert : messageType = "alert.event" → IsUuid texts payload "event_id" →
    TimeReads texts payload "occurred_at"

/-! ## `trajectory.batch` -/

theorem trajectorySeq_eq_ok_iff {value : Json} {seq : ℕ} :
    trajectorySeq value = .ok seq ↔ value = .num (.int seq) := by
  unfold trajectorySeq
  split
  · rename_i n
    split_ifs with hneg
    · refine iff_of_false (by simp [invalidMessage]) ?_
      rintro ⟨⟩
      omega
    · constructor
      · rintro ⟨⟩
        rw [Int.toNat_of_nonneg (not_lt.1 hneg)]
      · rintro ⟨⟩
        rfl
  · rename_i hother
    refine iff_of_false (by simp [invalidMessage]) ?_
    rintro rfl
    exact hother seq rfl

theorem raisesOnly_trajectorySeq (value : Json) :
    RaisesOnly Raised.IsProtocolError (trajectorySeq value) := by
  unfold trajectorySeq
  split
  · split_ifs
    · exact raisesOnly_invalidMessage _
    · exact raisesOnly_ok _
  · exact raisesOnly_invalidMessage _

theorem requireNumeric_eq_ok_iff {message : String} {value : Option Json} :
    requireNumeric message value = .ok () ↔ isNumeric value = true := by
  unfold requireNumeric
  split_ifs with hnumeric <;> simp [hnumeric, invalidMessage]

@[simp] theorem raisesOnly_requireNumeric (message : String) (value : Option Json) :
    RaisesOnly Raised.IsProtocolError (requireNumeric message value) := by
  unfold requireNumeric
  split_ifs
  · exact raisesOnly_ok _
  · exact raisesOnly_invalidMessage _

@[simp] theorem raisesOnly_checkKeyframe (value : Option Json) :
    RaisesOnly Raised.IsProtocolError (checkKeyframe value) := by
  unfold checkKeyframe
  split
  · exact raisesOnly_ok _
  · exact raisesOnly_ok _
  · exact raisesOnly_ok _
  · exact raisesOnly_invalidMessage _

theorem validateTrajectoryPoint_eq_ok_iff {point : Json} {seq : ℕ} :
    validateTrajectoryPoint texts point = .ok seq ↔
      ∃ members, point = .obj members ∧ PointForm texts members seq := by
  cases point with
  | obj members =>
    simp only [validateTrajectoryPoint, bind_eq_ok_iff, required_eq_ok_iff, trajectorySeq_eq_ok_iff,
      normalizeTimestamp_eq_ok_iff]
    constructor
    · rintro ⟨value, hseq, _, rfl, sampledAt, hsampledAt, instant, hinstant, _, hx, _, hy, _, hyaw, _,
        hkeyframe, ⟨⟩⟩
      refine ⟨members, rfl, hseq.1, ⟨instant, sampledAt, hsampledAt, hinstant⟩, ?_, hkeyframe⟩
      simp only [PoseNumeric, List.forall_mem_cons, List.not_mem_nil, false_implies, implies_true,
        and_true]
      exact ⟨requireNumeric_eq_ok_iff.1 hx, requireNumeric_eq_ok_iff.1 hy,
        requireNumeric_eq_ok_iff.1 hyaw⟩
    · rintro ⟨_, ⟨⟩, hseq, ⟨instant, sampledAt, hsampledAt, hinstant⟩, hpose, hkeyframe⟩
      exact ⟨_, ⟨hseq, rfl⟩, seq, rfl, sampledAt, hsampledAt, instant, hinstant, (),
        requireNumeric_eq_ok_iff.2 (hpose "x" (by decide)), (),
        requireNumeric_eq_ok_iff.2 (hpose "y" (by decide)), (),
        requireNumeric_eq_ok_iff.2 (hpose "yaw" (by decide)), (), hkeyframe, rfl⟩
  | _ => simp [validateTrajectoryPoint, invalidMessage]

theorem raisesOnly_validateTrajectoryPoint (point : Json) :
    RaisesOnly Raised.IsProtocolError (validateTrajectoryPoint texts point) ↔
      ∀ members, point = .obj members →
        (∃ seq : ℕ, Json.get? members "seq" = some (.num (.int seq))) →
        TimeReads texts members "sampled_at" := by
  cases point with
  | obj members =>
    simp only [validateTrajectoryPoint, raisesOnly_bind_iff, raisesOnly_required, true_and,
      required_eq_ok_iff, raisesOnly_trajectorySeq, trajectorySeq_eq_ok_iff,
      raisesOnly_normalizeTimestamp, raisesOnly_requireNumeric, raisesOnly_checkKeyframe,
      raisesOnly_pure, implies_true, and_true]
    constructor
    · rintro h _ ⟨⟩ ⟨seq, hseq⟩ value hvalue
      exact h _ ⟨hseq, rfl⟩ seq rfl value hvalue
    · rintro h _ hvalue seq rfl sampledAt hsampledAt
      exact h members rfl ⟨seq, hvalue.1⟩ sampledAt hsampledAt
  | _ => simp [validateTrajectoryPoint]

theorem checkSequences_cons_eq_ok_iff {payload : List (String × Json)} {first : ℕ} {rest : List ℕ} :
    checkSequences payload (first :: rest) = .ok () ↔
      first :: rest = List.range' first (rest.length + 1) ∧
      Json.equalsInt first (Json.get? payload "first_seq") = true ∧
      Json.equalsInt (first + rest.length : ℕ) (Json.get? payload "last_seq") = true := by
  unfold checkSequences
  dsimp only
  by_cases hrange : first :: rest = List.range' first (rest.length + 1)
  · have hlast : (first :: rest).getLast (List.cons_ne_nil first rest) = first + rest.length := by
      rw [List.getLast_congr _ (by simp) hrange, List.getLast_range']
      omega
    rw [if_neg (not_not.2 hrange), hlast]
    split_ifs with hends
    · rw [Bool.and_eq_true] at hends
      exact iff_of_true rfl ⟨hrange, hends⟩
    · rw [Bool.and_eq_true] at hends
      refine iff_of_false (by simp [invalidMessage]) ?_
      intro h
      exact hends h.2
  · rw [if_pos hrange]
    refine iff_of_false (by simp [invalidMessage]) ?_
    intro h
    exact hrange h.1

theorem raisesOnly_checkSequences {payload : List (String × Json)} {seqs : List ℕ} (h : seqs ≠ []) :
    RaisesOnly Raised.IsProtocolError (checkSequences payload seqs) := by
  obtain ⟨first, rest, rfl⟩ := List.exists_cons_of_ne_nil h
  unfold checkSequences
  dsimp only
  split_ifs
  · exact raisesOnly_invalidMessage _
  · exact raisesOnly_ok ()
  · exact raisesOnly_invalidMessage _

theorem of_validateTrajectoryBatch {payload : List (String × Json)}
    (h : validateTrajectoryBatch texts payload = .ok ()) :
    ∃ points first, BatchForm texts payload points first := by
  unfold validateTrajectoryBatch at h
  simp only [bind_eq_ok_iff, required_eq_ok_iff, parseUuid_eq_ok_iff] at h
  obtain ⟨execution, hexecution, executionId, hexecutionId, batch, hbatch, batchId, hbatchId, value,
    hvalue, h⟩ := h
  cases value with
  | arr points =>
    dsimp only at h
    by_cases hcount : 1 ≤ points.length ∧ points.length ≤ 100
    · rw [if_pos hcount] at h
      obtain ⟨seqs, hseqs, h⟩ := bind_eq_ok h
      have hlength := (forall₂_of_mapM hseqs).length_eq
      cases seqs with
      | nil =>
        rw [List.length_nil] at hlength
        omega
      | cons first rest =>
        obtain ⟨hrange, hfirst, hlast⟩ := checkSequences_cons_eq_ok_iff.1 h
        rw [List.length_cons] at hlength
        refine ⟨points, first, ⟨execution, executionId, hexecution, hexecutionId⟩,
          ⟨batch, batchId, hbatch, hbatchId⟩, hvalue.1, hcount, ?_, hfirst, ?_⟩
        · intro n point hn
          obtain ⟨seq, hseq, hpassed⟩ := getElem?_of_mapM hseqs hn
          have hbound : n < rest.length + 1 := (List.getElem?_eq_some_iff.1 hseq).1
          rw [hrange, List.getElem?_range' hbound, Nat.one_mul, Option.some.injEq] at hseq
          rw [hseq]
          exact validateTrajectoryPoint_eq_ok_iff.1 hpassed
        · rw [hlength]
          exact hlast
    · rw [if_neg hcount] at h
      exact absurd h (by simp [invalidMessage])
  | _ => exact absurd h (by simp [invalidMessage])

theorem raisesOnly_validateTrajectoryBatch (payload : List (String × Json)) :
    RaisesOnly Raised.IsProtocolError (validateTrajectoryBatch texts payload) ↔
      (IsUuid texts payload "task_execution_id" → IsUuid texts payload "batch_id" →
        ∀ points, Json.get? payload "points" = some (.arr points) → 1 ≤ points.length →
          points.length ≤ 100 → PointsRead texts points) := by
  have hloop : ∀ points : List Json, 1 ≤ points.length →
      (RaisesOnly Raised.IsProtocolError (do
        checkSequences payload (← points.mapM (validateTrajectoryPoint texts))) ↔
      PointsRead texts points) := by
    intro points hcount
    rw [raisesOnly_bind_iff, raisesOnly_mapM_iff]
    simp only [raisesOnly_validateTrajectoryPoint, validateTrajectoryPoint_eq_ok_iff]
    constructor
    · rintro ⟨h, -⟩ n point hn hbefore hseq
      refine h n (.obj point) hn ?_ point rfl hseq
      intro m hm before hat
      obtain ⟨members, seq, rfl, hform⟩ := hbefore m hm before hat
      exact ⟨seq, members, rfl, hform⟩
    · intro h
      refine ⟨?_, ?_⟩
      · rintro n _ hn hbefore members rfl hseq
        refine h n members hn ?_ hseq
        intro m hm before hat
        obtain ⟨seq, members, rfl, hform⟩ := hbefore m hm before hat
        exact ⟨members, seq, rfl, hform⟩
      · intro seqs hseqs
        refine raisesOnly_checkSequences ?_
        rintro rfl
        have hlength := (forall₂_of_mapM hseqs).length_eq
        rw [List.length_nil] at hlength
        omega
  unfold validateTrajectoryBatch
  simp only [raisesOnly_bind_iff, raisesOnly_required, true_and, required_eq_ok_iff,
    raisesOnly_parseUuid, parseUuid_eq_ok_iff]
  constructor
  · rintro h ⟨execution, executionId, hexecution, hexecutionId⟩ ⟨batch, batchId, hbatch, hbatchId⟩ points
      hpoints hone hmost
    have hraised := h execution hexecution executionId hexecutionId batch hbatch batchId hbatchId
      (.arr points) ⟨hpoints, rfl⟩
    dsimp only at hraised
    rw [if_pos ⟨hone, hmost⟩] at hraised
    exact (hloop points hone).1 hraised
  · intro h execution hexecution executionId hexecutionId batch hbatch batchId hbatchId value hvalue
    cases value with
    | arr points =>
      dsimp only
      split_ifs with hcount
      · exact (hloop points hcount.1).2 (h ⟨execution, executionId, hexecution, hexecutionId⟩
          ⟨batch, batchId, hbatch, hbatchId⟩ points hvalue.1 hcount.1 hcount.2)
      · exact raisesOnly_invalidMessage _
    | _ => exact raisesOnly_invalidMessage _

/-! ## Commands -/

theorem validateWaypoint_eq_ok_iff {index : ℕ} {waypoint : Json} :
    validateWaypoint texts index waypoint = .ok () ↔ WaypointForm texts index waypoint := by
  unfold WaypointForm
  cases waypoint with
  | obj members =>
    rw [validateWaypoint, checkAll_eq_ok_iff, List.forall_mem_append]
    simp
  | _ => simp [validateWaypoint, invalidMessage]

theorem raisesOnly_validateWaypoint (index : ℕ) (waypoint : Json) :
    RaisesOnly Raised.IsProtocolError (validateWaypoint texts index waypoint) := by
  unfold validateWaypoint
  split
  · exact raisesOnly_checkAll _
  · exact raisesOnly_invalidMessage _

theorem of_validateTaskStart {command : List (String × Json)}
    (h : validateTaskStart texts command = .ok ()) :
    ∃ route waypoints, StartForm texts command route waypoints := by
  unfold validateTaskStart at h
  obtain ⟨snapshot, hsnapshot, h⟩ := bind_eq_ok h
  cases snapshot with
  | obj route =>
    obtain ⟨list, hlist, h⟩ := bind_eq_ok h
    split at h
    · rename_i first rest
      obtain ⟨_, heach, h⟩ := bind_eq_ok h
      obtain ⟨_, hoptions, h⟩ := bind_eq_ok h
      refine ⟨route, first :: rest, (required_eq_ok_iff.1 hsnapshot).1, (required_eq_ok_iff.1 hlist).1,
        List.cons_ne_nil _ _, ?_, checkAll_eq_ok_iff.1 hoptions, ?_⟩
      · intro n waypoint hn
        have hpassed := checkEach_eq_ok_iff.1 heach n waypoint hn
        rw [Nat.zero_add] at hpassed
        exact validateWaypoint_eq_ok_iff.1 hpassed
      · intro hcontinuous
        rw [if_pos hcontinuous] at h
        obtain ⟨session, hsession, h⟩ := bind_eq_ok h
        obtain ⟨id, hid, -⟩ := bind_eq_ok h
        exact ⟨session, id, required_eq_ok_iff.1 hsession, parseUuid_eq_ok_iff.1 hid⟩
    · exact absurd h (by simp [invalidMessage])
  | _ => exact absurd h (by simp [invalidMessage])

theorem raisesOnly_validateTaskStart (command : List (String × Json)) :
    RaisesOnly Raised.IsProtocolError (validateTaskStart texts command) := by
  unfold validateTaskStart
  rw [raisesOnly_bind_iff]
  refine ⟨raisesOnly_required _ _, fun snapshot _ => ?_⟩
  split
  · rw [raisesOnly_bind_iff]
    refine ⟨raisesOnly_required _ _, fun list _ => ?_⟩
    split
    · rw [raisesOnly_bind_iff]
      constructor
      · rw [raisesOnly_checkEach_iff]
        intro n waypoint _ _
        exact raisesOnly_validateWaypoint _ waypoint
      · intro _ _
        rw [raisesOnly_bind_iff]
        refine ⟨raisesOnly_checkAll _, fun _ _ => ?_⟩
        split_ifs
        · simp only [raisesOnly_bind_iff, raisesOnly_required, raisesOnly_parseUuid, raisesOnly_pure,
            true_and, implies_true]
        · exact raisesOnly_pure ()
    · exact raisesOnly_invalidMessage _
  · exact raisesOnly_invalidMessage _

theorem raisesOnly_validateObject (messageType : String) (command : List (String × Json)) :
    RaisesOnly Raised.IsProtocolError (validateObject texts messageType command) := by
  unfold validateObject
  split_ifs
  · exact raisesOnly_validateTaskStart command
  · simp only [raisesOnly_bind_iff, raisesOnly_required, raisesOnly_parseUuid, raisesOnly_pure,
      true_and, implies_true]
  · exact raisesOnly_checkAll _
  · exact raisesOnly_ok ()

theorem validateCommandId_eq_ok_iff {payload : List (String × Json)} :
    validateCommandId texts payload = .ok () ↔ IsUuid texts payload "command_id" := by
  simp only [validateCommandId, bind_eq_ok_iff, required_eq_ok_iff, parseUuid_eq_ok_iff, IsUuid]
  constructor
  · rintro ⟨value, hvalue, id, hid, -⟩
    exact ⟨value, id, hvalue, hid⟩
  · rintro ⟨value, id, hvalue, hid⟩
    exact ⟨value, hvalue, id, hid, rfl⟩

@[simp] theorem raisesOnly_validateCommandId (payload : List (String × Json)) :
    RaisesOnly Raised.IsProtocolError (validateCommandId texts payload) := by
  simp only [validateCommandId, raisesOnly_bind_iff, raisesOnly_required, raisesOnly_parseUuid,
    raisesOnly_pure, true_and, implies_true]

theorem of_validateExpiry {payload : List (String × Json)}
    (h : validateExpiry texts payload = .ok ()) :
    ∃ issued expires, IsInstant texts payload "issued_at" issued
      ∧ IsInstant texts payload "expires_at" expires ∧ issued < expires := by
  simp only [validateExpiry, bind_eq_ok_iff, required_eq_ok_iff, normalizeTimestamp_eq_ok_iff] at h
  obtain ⟨issuedAt, hissuedAt, issued, hissued, expiresAt, hexpiresAt, expires, hexpires, again, hagain,
    h⟩ := h
  obtain ⟨⟩ := hissued.symm.trans hagain
  by_cases hexpired : expires ≤ issued
  · rw [if_pos hexpired] at h
    exact absurd h (by simp [invalidMessage])
  · exact ⟨issued, expires, ⟨issuedAt, hissuedAt, hissued⟩, ⟨expiresAt, hexpiresAt, hexpires⟩,
      not_le.1 hexpired⟩

theorem raisesOnly_validateExpiry (payload : List (String × Json)) :
    RaisesOnly Raised.IsProtocolError (validateExpiry texts payload) ↔
      TimeReads texts payload "issued_at" ∧
      ((∃ instant, IsInstant texts payload "issued_at" instant) →
        TimeReads texts payload "expires_at") := by
  simp only [validateExpiry, raisesOnly_bind_iff, raisesOnly_required, true_and, required_eq_ok_iff,
    raisesOnly_normalizeTimestamp, normalizeTimestamp_eq_ok_iff]
  constructor
  · intro h
    constructor
    · intro issuedAt hissuedAt
      exact (h issuedAt hissuedAt).1
    · rintro ⟨issued, issuedAt, hissuedAt, hissued⟩ expiresAt hexpiresAt
      exact ((h issuedAt hissuedAt).2 issued hissued expiresAt hexpiresAt).1
  · rintro ⟨hissued, hexpires⟩ issuedAt hissuedAt
    refine ⟨hissued issuedAt hissuedAt, ?_⟩
    intro instant hinstant expiresAt hexpiresAt
    refine ⟨hexpires ⟨instant, issuedAt, hissuedAt, hinstant⟩ expiresAt hexpiresAt, ?_⟩
    intro expires _
    refine ⟨hissued issuedAt hissuedAt, ?_⟩
    intro again _
    split_ifs
    · exact raisesOnly_invalidMessage _
    · exact raisesOnly_ok ()

theorem of_validateCommand {messageType : String} {payload : List (String × Json)}
    (h : validateCommand texts messageType payload = .ok ()) :
    ∃ command, CommandForm texts messageType payload command := by
  unfold validateCommand at h
  obtain ⟨hid, h⟩ := check_bind_eq_ok_iff.1 h
  obtain ⟨hexpiry, h⟩ := check_bind_eq_ok_iff.1 h
  obtain ⟨hexecution, h⟩ := check_bind_eq_ok_iff.1 h
  obtain ⟨value, hvalue, h⟩ := bind_eq_ok h
  cases value with
  | obj command =>
    refine ⟨command, validateCommandId_eq_ok_iff.1 hid, of_validateExpiry hexpiry, ?_,
      (required_eq_ok_iff.1 hvalue).1, ?_, ?_, ?_⟩
    · intro htask
      rw [validateExecution, if_pos htask] at hexecution
      obtain ⟨execution, hfound, hexecution⟩ := bind_eq_ok hexecution
      obtain ⟨id, hread, -⟩ := bind_eq_ok hexecution
      exact ⟨execution, id, required_eq_ok_iff.1 hfound, parseUuid_eq_ok_iff.1 hread⟩
    · rintro rfl
      have hstart : validateTaskStart texts command = .ok () := by simpa [validateObject] using h
      exact of_validateTaskStart hstart
    · rintro rfl
      have hsession : (do
          let _ ← parseUuid texts (← required command "loop_session_id") "loop_session_id"
          return ()) = .ok () := by simpa [validateObject] using h
      obtain ⟨session, hfound, hsession⟩ := bind_eq_ok hsession
      obtain ⟨id, hread, -⟩ := bind_eq_ok hsession
      exact ⟨session, id, required_eq_ok_iff.1 hfound, parseUuid_eq_ok_iff.1 hread⟩
    · rintro rfl
      have hgoal : validateNavSingleGoal texts command = .ok () := by simpa [validateObject] using h
      rw [validateNavSingleGoal, checkAll_eq_ok_iff, List.forall_mem_append, List.forall_mem_map]
        at hgoal
      exact ⟨hgoal.1, by simpa [isChoice, OneOf] using hgoal.2⟩
  | _ => exact absurd h (by simp [invalidMessage])

theorem raisesOnly_validateCommand (messageType : String) (payload : List (String × Json)) :
    RaisesOnly Raised.IsProtocolError (validateCommand texts messageType payload) ↔
      (IsUuid texts payload "command_id" → TimeReads texts payload "issued_at" ∧
        ((∃ instant, IsInstant texts payload "issued_at" instant) →
          TimeReads texts payload "expires_at")) := by
  unfold validateCommand
  rw [raisesOnly_check_iff, validateCommandId_eq_ok_iff, raisesOnly_check_iff,
    raisesOnly_validateExpiry]
  constructor
  · rintro ⟨-, h⟩ hid
    exact (h hid).1
  · intro h
    refine ⟨raisesOnly_validateCommandId payload, fun hid => ⟨h hid, fun _ => ?_⟩⟩
    rw [raisesOnly_check_iff]
    constructor
    · unfold validateExecution
      split_ifs
      · simp only [raisesOnly_bind_iff, raisesOnly_required, raisesOnly_parseUuid, raisesOnly_pure,
          true_and, implies_true]
      · exact raisesOnly_ok ()
    · intro _
      rw [raisesOnly_bind_iff]
      refine ⟨raisesOnly_required _ _, fun value _ => ?_⟩
      split
      · exact raisesOnly_validateObject messageType _
      · exact raisesOnly_invalidMessage _

/-! ## The other payloads -/

theorem isMember_of_checkMember {mapping : List (String × Json)} {key message : String}
    {choices : List String}
    (h : (required mapping key >>= checkMember choices message) = .ok ()) :
    IsMember mapping key choices := by
  obtain ⟨value, hvalue, h⟩ := bind_eq_ok h
  obtain ⟨text, htext, rfl⟩ := checkMember_eq_ok_iff.1 h
  exact ⟨text, htext, (required_eq_ok_iff.1 hvalue).1⟩

theorem raisesOnly_required_checkMember (mapping : List (String × Json)) (key message : String)
    (choices : List String) :
    RaisesOnly Raised.IsProtocolError (required mapping key >>= checkMember choices message) ↔
      HasHash (Json.get? mapping key) := by
  rw [raisesOnly_bind_iff]
  simp only [raisesOnly_required, true_and, required_eq_ok_iff, raisesOnly_checkMember]
  constructor
  · intro h
    cases hvalue : Json.get? mapping key with
    | none => trivial
    | some value =>
      cases value with
      | arr items => exact h _ ⟨hvalue, rfl⟩
      | obj members => exact h _ ⟨hvalue, rfl⟩
      | _ => trivial
  · rintro h value ⟨hvalue, -⟩
    rwa [hvalue] at h

theorem raisesOnly_answer (payload : List (String × Json)) (key message : String)
    (choices : List String) :
    RaisesOnly Raised.IsProtocolError (do
        validateCommandId texts payload
        checkMember choices message (← required payload key)) ↔
      (IsUuid texts payload "command_id" → HasHash (Json.get? payload key)) := by
  rw [raisesOnly_check_iff, validateCommandId_eq_ok_iff]
  constructor
  · rintro ⟨-, h⟩ hid
    exact (raisesOnly_required_checkMember payload key message choices).1 (h hid)
  · intro h
    exact ⟨raisesOnly_validateCommandId payload, fun hid =>
      (raisesOnly_required_checkMember payload key message choices).2 (h hid)⟩

theorem of_validateProgress {payload : List (String × Json)}
    (h : validateProgress texts payload = .ok ()) :
    IsUuid texts payload "command_id" ∧
      ∀ value, Filled payload "result" value → ∃ members, value = .obj members := by
  unfold validateProgress at h
  obtain ⟨hid, h⟩ := check_bind_eq_ok_iff.1 h
  refine ⟨validateCommandId_eq_ok_iff.1 hid, ?_⟩
  rintro value ⟨hvalue, hnull⟩
  rw [hvalue] at h
  cases value with
  | null => exact absurd hnull (by simp [Json.isNull])
  | obj members => exact ⟨members, rfl⟩
  | _ => exact absurd h (by simp [invalidMessage])

theorem raisesOnly_validateProgress (payload : List (String × Json)) :
    RaisesOnly Raised.IsProtocolError (validateProgress texts payload) := by
  unfold validateProgress
  rw [raisesOnly_check_iff]
  refine ⟨raisesOnly_validateCommandId payload, fun _ => ?_⟩
  split
  · exact raisesOnly_ok ()
  · exact raisesOnly_ok ()
  · exact raisesOnly_ok ()
  · exact raisesOnly_invalidMessage _

theorem of_validateAlert {payload : List (String × Json)} (h : validateAlert texts payload = .ok ()) :
    AlertForm texts payload := by
  simp only [validateAlert, bind_eq_ok_iff, required_eq_ok_iff, parseUuid_eq_ok_iff,
    normalizeTimestamp_eq_ok_iff] at h
  obtain ⟨eventId, heventId, id, hid, occurredAt, hoccurredAt, instant, hinstant, type, htype, severity,
    hseverity, -⟩ := h
  exact ⟨⟨eventId, id, heventId, hid⟩, ⟨instant, occurredAt, hoccurredAt, hinstant⟩, ⟨type, htype⟩,
    severity, hseverity⟩

theorem raisesOnly_validateAlert (payload : List (String × Json)) :
    RaisesOnly Raised.IsProtocolError (validateAlert texts payload) ↔
      (IsUuid texts payload "event_id" → TimeReads texts payload "occurred_at") := by
  simp only [validateAlert, raisesOnly_bind_iff, raisesOnly_required, true_and, required_eq_ok_iff,
    raisesOnly_parseUuid, parseUuid_eq_ok_iff, raisesOnly_normalizeTimestamp, raisesOnly_pure,
    implies_true, and_true]
  constructor
  · rintro h ⟨eventId, id, heventId, hid⟩
    exact h eventId heventId id hid
  · intro h eventId heventId id hid
    exact h ⟨eventId, id, heventId, hid⟩

theorem of_validateLogEntry {entry : Json} (h : validateLogEntry texts upper entry = .ok ()) :
    ∃ members, entry = .obj members ∧ EntryForm texts upper members := by
  cases entry with
  | obj members =>
    refine ⟨members, rfl, ?_⟩
    unfold validateLogEntry at h
    obtain ⟨level, hlevel, h⟩ := bind_eq_ok h
    by_cases hlevels : upper (texts.str level) ∈ logLevels
    · rw [if_pos hlevels] at h
      obtain ⟨module, hmodule, h⟩ := bind_eq_ok h
      by_cases hmodules : texts.str module ∈ logModules
      · rw [if_pos hmodules] at h
        obtain ⟨code, hcode, h⟩ := bind_eq_ok h
        obtain ⟨message, hmessage, -⟩ := bind_eq_ok h
        exact ⟨⟨level, required_eq_ok_iff.1 hlevel, hlevels⟩,
          ⟨module, required_eq_ok_iff.1 hmodule, hmodules⟩, ⟨code, required_eq_ok_iff.1 hcode⟩,
          message, required_eq_ok_iff.1 hmessage⟩
      · rw [if_neg hmodules] at h
        exact absurd h (by simp [invalidMessage])
    · rw [if_neg hlevels] at h
      exact absurd h (by simp [invalidMessage])
  | _ => exact absurd h (by simp [validateLogEntry, invalidMessage])

theorem raisesOnly_validateLogEntry (entry : Json) :
    RaisesOnly Raised.IsProtocolError (validateLogEntry texts upper entry) := by
  cases entry with
  | obj members =>
    unfold validateLogEntry
    rw [raisesOnly_bind_iff]
    refine ⟨raisesOnly_required _ _, fun level _ => ?_⟩
    by_cases hlevels : upper (texts.str level) ∈ logLevels
    · rw [if_pos hlevels, raisesOnly_bind_iff]
      refine ⟨raisesOnly_required _ _, fun module _ => ?_⟩
      split_ifs
      · simp only [raisesOnly_bind_iff, raisesOnly_required, raisesOnly_pure, true_and, implies_true]
      · exact raisesOnly_invalidMessage _
    · rw [if_neg hlevels]
      exact raisesOnly_invalidMessage _
  | _ => exact raisesOnly_invalidMessage _

theorem of_validateLogBatch {payload : List (String × Json)}
    (h : validateLogBatch texts upper payload = .ok ()) :
    ∃ entries, Json.get? payload "entries" = some (.arr entries) ∧ entries.length ≤ 100 ∧
      ∀ entry ∈ entries, ∃ members, entry = .obj members ∧ EntryForm texts upper members := by
  unfold validateLogBatch at h
  obtain ⟨value, hvalue, h⟩ := bind_eq_ok h
  cases value with
  | arr entries =>
    dsimp only at h
    by_cases hcount : entries.length ≤ 100
    · rw [if_pos hcount] at h
      refine ⟨entries, (required_eq_ok_iff.1 hvalue).1, hcount, ?_⟩
      intro entry hentry
      obtain ⟨n, hn⟩ := List.mem_iff_getElem?.1 hentry
      exact of_validateLogEntry (checkEach_eq_ok_iff.1 h n entry hn)
    · rw [if_neg hcount] at h
      exact absurd h (by simp [invalidMessage])
  | _ => exact absurd h (by simp [invalidMessage])

theorem raisesOnly_validateLogBatch (payload : List (String × Json)) :
    RaisesOnly Raised.IsProtocolError (validateLogBatch texts upper payload) := by
  unfold validateLogBatch
  rw [raisesOnly_bind_iff]
  refine ⟨raisesOnly_required _ _, fun value _ => ?_⟩
  split
  · split_ifs
    · rw [raisesOnly_checkEach_iff]
      intro _ entry _ _
      exact raisesOnly_validateLogEntry entry
    · exact raisesOnly_invalidMessage _
  · exact raisesOnly_invalidMessage _

/-! ## `validate_payload` -/

theorem of_validatePayload {messageType : String} {payload : List (String × Json)}
    (h : validatePayload texts upper messageType payload = .ok ()) :
    PayloadForm texts upper messageType payload := by
  unfold validatePayload at h
  refine ⟨?_, ?_, ?_, ?_, ?_, ?_, ?_⟩
  · intro hcommand
    rw [if_pos hcommand] at h
    exact of_validateCommand h
  · rintro rfl
    rw [if_neg (by decide), if_pos rfl] at h
    obtain ⟨hid, h⟩ := check_bind_eq_ok_iff.1 h
    exact ⟨validateCommandId_eq_ok_iff.1 hid, isMember_of_checkMember h⟩
  · rintro rfl
    rw [if_neg (by decide), if_neg (by decide), if_pos rfl] at h
    exact of_validateProgress h
  · rintro rfl
    rw [if_neg (by decide), if_neg (by decide), if_neg (by decide), if_pos rfl] at h
    obtain ⟨hid, h⟩ := check_bind_eq_ok_iff.1 h
    exact ⟨validateCommandId_eq_ok_iff.1 hid, isMember_of_checkMember h⟩
  · rintro rfl
    rw [if_neg (by decide), if_neg (by decide), if_neg (by decide), if_neg (by decide), if_pos rfl] at h
    exact of_validateTrajectoryBatch h
  · rintro rfl
    rw [if_neg (by decide), if_neg (by decide), if_neg (by decide), if_neg (by decide),
      if_neg (by decide), if_pos rfl] at h
    exact of_validateAlert h
  · rintro rfl
    rw [if_neg (by decide), if_neg (by decide), if_neg (by decide), if_neg (by decide),
      if_neg (by decide), if_neg (by decide), if_pos rfl] at h
    exact of_validateLogBatch h

theorem raisesOnly_validatePayload (messageType : String) (payload : List (String × Json)) :
    RaisesOnly Raised.IsProtocolError (validatePayload texts upper messageType payload) ↔
      PayloadReads texts messageType payload := by
  unfold validatePayload
  by_cases hcommand : messageType ∈ commandTypes
  · have hother : ∀ type ∉ commandTypes, messageType ≠ type := by
      rintro type htype rfl
      exact htype hcommand
    rw [if_pos hcommand, raisesOnly_validateCommand]
    constructor
    · intro h
      exact ⟨fun _ hid => (h hid).1, fun _ hid => (h hid).2,
        fun heq => absurd heq (hother _ (by decide)), fun heq => absurd heq (hother _ (by decide)),
        fun heq => absurd heq (hother _ (by decide)), fun heq => absurd heq (hother _ (by decide))⟩
    · intro h hid
      exact ⟨h.issued hcommand hid, h.expires hcommand hid⟩
  rw [if_neg hcommand]
  by_cases hack : messageType = "command.ack"
  · subst hack
    rw [if_pos rfl, validateAck, raisesOnly_answer]
    constructor
    · intro h
      exact ⟨fun hmem => absurd hmem hcommand, fun hmem => absurd hmem hcommand, fun _ => h, by simp,
        by simp, by simp⟩
    · intro h
      exact h.ack rfl
  rw [if_neg hack]
  by_cases hprogress : messageType = "command.progress"
  · subst hprogress
    rw [if_pos rfl]
    exact iff_of_true (raisesOnly_validateProgress payload)
      ⟨fun hmem => absurd hmem hcommand, fun hmem => absurd hmem hcommand, by simp, by simp, by simp,
        by simp⟩
  rw [if_neg hprogress]
  by_cases hresult : messageType = "command.result"
  · subst hresult
    rw [if_pos rfl, validateResult, raisesOnly_answer]
    constructor
    · intro h
      exact ⟨fun hmem => absurd hmem hcommand, fun hmem => absurd hmem hcommand, by simp, fun _ => h,
        by simp, by simp⟩
    · intro h
      exact h.result rfl
  rw [if_neg hresult]
  by_cases hbatch : messageType = "trajectory.batch"
  · subst hbatch
    rw [if_pos rfl, raisesOnly_validateTrajectoryBatch]
    constructor
    · intro h
      exact ⟨fun hmem => absurd hmem hcommand, fun hmem => absurd hmem hcommand, by simp, by simp,
        fun _ => h, by simp⟩
    · intro h
      exact h.batch rfl
  rw [if_neg hbatch]
  by_cases halert : messageType = "alert.event"
  · subst halert
    rw [if_pos rfl, raisesOnly_validateAlert]
    constructor
    · intro h
      exact ⟨fun hmem => absurd hmem hcommand, fun hmem => absurd hmem hcommand, by simp, by simp,
        by simp, fun _ => h⟩
    · intro h
      exact h.alert rfl
  rw [if_neg halert]
  refine iff_of_true ?_ ⟨fun hmem => absurd hmem hcommand, fun hmem => absurd hmem hcommand,
    fun heq => absurd heq hack, fun heq => absurd heq hresult, fun heq => absurd heq hbatch,
    fun heq => absurd heq halert⟩
  split_ifs
  · exact raisesOnly_validateLogBatch payload
  · exact raisesOnly_ok ()

end CenterProtocol

end RoamerX
