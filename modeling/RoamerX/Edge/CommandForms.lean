import RoamerX.Edge.Decoding

set_option autoImplicit false

/-! # Commands in form

What the errors of `validate_command` ask of each kind of command object, and that a command object is
let through when it is in that form. `decode_message` then ends in a `ProtocolError`, or in an envelope
in form, but for the accesses that nothing guards and for a sequence number that nothing looks at. -/

namespace RoamerX

namespace EdgeProtocol

open Excepts

variable {texts : Texts}

/-! ## Forms -/

def PoseForm (seedSource : String) (sources : List String) (command : List (String × Json)) : Prop :=
  PoseNumeric command ∨
    (∀ field ∈ ["x", "y", "yaw"], ∀ value, ¬ Filled command field value) ∧ seedSource ∈ sources

/-- The member reads as an identifier; an absent one is `None`. -/
def ReadsAsUuid (texts : Texts) (mapping : List (String × Json)) (key : String) : Prop :=
  ∃ id, texts.uuid? (texts.str ((Json.get? mapping key).getD .null)) = some id

/-- A waypoint of a `task.start`. -/
def WaypointForm (texts : Texts) (index : ℕ) (waypoint : Json) : Prop :=
  ∃ members, waypoint = .obj members ∧
    ∀ check ∈ waypointChecks texts "waypoint sequence must be contiguous" index members, check.1 = true

/-- `task.start`. -/
structure StartForm (texts : Texts) (command route : List (String × Json)) (waypoints : List Json) :
    Prop where
  snapshot : Json.get? command "route_snapshot" = some (.obj route)
  listed : Json.get? route "waypoints" = some (.arr waypoints)
  filled : waypoints ≠ []
  each : ∀ n waypoint, waypoints[n]? = some waypoint → WaypointForm texts n waypoint
  options : ∀ check ∈ optionChecks texts
    "route global_controller must be theta_star, navfn or smac_hybrid" route command, check.1 = true
  session : ((Json.get? command "continuous_rosbag").getD (.bool false)).truthy = true →
    ReadsAsUuid texts command "loop_session_id"

def isOneOf (choices : List String) : Json → Bool
  | .str text => decide (text ∈ choices)
  | _ => false

structure MappingForm (command : List (String × Json)) : Prop where
  name : noneOr isText (Json.get? command "map_name") = true
  record : noneOr isBool (Json.get? command "record_rosbag") = true
  kind : noneOr (isOneOf ["indoor", "outdoor"]) (Json.get? command "mapping_type") = true
  scope : noneOr (isOneOf ["indoor", "transition", "outdoor"]) (Json.get? command "scene_scope") = true

/-- `nav.single_goal`. -/
def SingleGoalForm (texts : Texts) (command : List (String × Json)) : Prop :=
  PoseNumeric command ∧ OneOf texts globalControllers
    (orElse (Json.get? command "global_controller") (.str "theta_star"))

/-- `nav.relocalize`. -/
def RelocalizeForm (texts : Texts) (command : List (String × Json)) : Prop :=
  let seedSource := strippedOr texts (Json.get? command "seed_source") "last_trusted"
  PoseForm seedSource
      ["mapping_start", "last_trusted", "global", "progressive", "quick_then_global"] command ∧
    (seedSource = "progressive" → ∃ waypoints,
      orElse (Json.get? command "waypoints") (.arr []) = .arr waypoints ∧
        ∀ waypoint ∈ waypoints, ∃ members, waypoint = .obj members ∧ PoseNumeric members)

/-- `map.activate`. -/
def ActivateForm (texts : Texts) (command : List (String × Json)) : Prop :=
  ∀ field ∈ ["map_id", "map_version"],
    texts.strip (texts.str ((Json.get? command field).getD (.str ""))) ≠ ""

/-- `map.optimize`. -/
def OptimizeForm (texts : Texts) (command : List (String × Json)) : Prop :=
  strippedOr texts (some (orElse (Json.get? command "source_map_id")
      (orElse (Json.get? command "map_id") (.str "")))) "" ≠ "" ∧
    ∃ first rest, Json.get? command "selected_candidates" = some (.arr (first :: rest))

/-- `map.boundary_apply`. -/
def BoundaryForm (texts : Texts) (command : List (String × Json)) : Prop :=
  strippedOr texts (Json.get? command "map_id") "" ≠ "" ∧
    ∃ boundary polygon, Json.get? command "boundary" = some (.obj boundary) ∧
      isPositiveInt (Json.get? boundary "revision") = true ∧
      Json.get? boundary "outer_polygon" = some (.arr polygon) ∧ 3 ≤ polygon.length

/-- `diagnostics.log_config`. -/
def LogConfigForm (command : List (String × Json)) : Prop :=
  ∃ enabled, Json.get? command "enabled" = some (.bool enabled) ∧ (enabled = true →
    (∃ first rest, Json.get? command "modules" = some (.arr (first :: rest))) ∧
      ∃ n, Json.get? command "sample_hz" = some (.num n) ∧ between oneTenth 5 n = true)

/-- `sensor.restart`. -/
def SensorForm (texts : Texts) (command : List (String × Json)) : Prop :=
  texts.lower (strippedOr texts (Json.get? command "sensor") "") ∈ ["lidar", "imu", "lidar_imu", "rtk"]

/-- `audio.volume`. -/
def VolumeForm (texts : Texts) (command : List (String × Json)) : Prop :=
  texts.str (orElse (Json.get? command "target") (.str "")) ∈ ["speaker_3588", "speaker_nx"] ∧
    ∃ n, Json.get? command "volume" = some (.num n) ∧ between 0 100 n = true

/-- The command object is in the form of its type; most types ask nothing of it. -/
structure ObjectForm (texts : Texts) (messageType : String) (command : List (String × Json)) : Prop where
  start : messageType = "task.start" → ∃ route waypoints, StartForm texts command route waypoints
  rosbagStop : messageType = "diagnostics.nav_rosbag_stop" →
    ReadsAsUuid texts command "loop_session_id"
  mapping : messageType ∈ ["mapping.start", "mapping.origin_start", "mapping.slam_start"] →
    MappingForm command
  initialPose : messageType = "nav.initial_pose" →
    PoseForm (strippedOr texts (Json.get? command "seed_source") "")
      ["mapping_start", "last_trusted", "rtk"] command
  singleGoal : messageType = "nav.single_goal" → SingleGoalForm texts command
  relocalize : messageType = "nav.relocalize" → RelocalizeForm texts command
  activate : messageType = "map.activate" → ActivateForm texts command
  optimize : messageType = "map.optimize" → OptimizeForm texts command
  boundary : messageType = "map.boundary_apply" → BoundaryForm texts command
  logConfig : messageType = "diagnostics.log_config" → LogConfigForm command
  sensor : messageType = "sensor.restart" → SensorForm texts command
  volume : messageType = "audio.volume" → VolumeForm texts command

/-! ## The checks let through what is in form -/

theorem parseUuid_ok_iff_readsAsUuid {command : List (String × Json)} {key : String} :
    (∃ id, parseUuid texts (Json.get? command key) key = .ok id) ↔ ReadsAsUuid texts command key := by
  simp only [parseUuid_eq_ok_iff, ReadsAsUuid]

theorem validateWaypoint_eq_ok_iff {index : ℕ} {waypoint : Json} :
    validateWaypoint texts index waypoint = .ok () ↔ WaypointForm texts index waypoint := by
  unfold WaypointForm
  cases waypoint with
  | obj members =>
    rw [validateWaypoint, checkAll_eq_ok_iff]
    constructor
    · intro h
      exact ⟨members, rfl, h⟩
    · rintro ⟨_, ⟨⟩, h⟩
      exact h
  | _ => simp [validateWaypoint]

theorem validateTaskStart_eq_ok_iff {command : List (String × Json)} :
    validateTaskStart texts command = .ok () ↔
      ∃ route waypoints, StartForm texts command route waypoints := by
  constructor
  · intro h
    unfold validateTaskStart at h
    split at h
    · rename_i route hroute
      split at h
      · rename_i first rest hwaypoints
        obtain ⟨_, heach, h⟩ := bind_eq_ok h
        obtain ⟨_, hoptions, h⟩ := bind_eq_ok h
        refine ⟨route, first :: rest, hroute, hwaypoints, List.cons_ne_nil _ _, ?_,
          checkAll_eq_ok_iff.1 hoptions, ?_⟩
        · intro n waypoint hn
          have hpassed := checkEach_eq_ok_iff.1 heach n waypoint hn
          rw [Nat.zero_add] at hpassed
          exact validateWaypoint_eq_ok_iff.1 hpassed
        · intro hcontinuous
          rw [if_pos hcontinuous] at h
          obtain ⟨id, hid, -⟩ := bind_eq_ok h
          exact parseUuid_ok_iff_readsAsUuid.1 ⟨id, hid⟩
      · exact absurd h (by simp [invalidMessage])
    · exact absurd h (by simp [invalidMessage])
  · rintro ⟨route, waypoints, h⟩
    obtain ⟨first, rest, rfl⟩ := List.exists_cons_of_ne_nil h.filled
    have heach : checkEach (validateWaypoint texts) 0 (first :: rest) = .ok () := by
      refine checkEach_eq_ok_iff.2 ?_
      intro n waypoint hn
      rw [Nat.zero_add]
      exact validateWaypoint_eq_ok_iff.2 (h.each n waypoint hn)
    unfold validateTaskStart
    rw [h.snapshot]
    dsimp only
    rw [h.listed]
    dsimp only
    rw [heach, checkAll_eq_ok_iff.2 h.options, ok_bind, ok_bind]
    split_ifs with hcontinuous
    · obtain ⟨id, hid⟩ := parseUuid_ok_iff_readsAsUuid.2 (h.session hcontinuous)
      rw [hid]
      rfl
    · rfl

theorem mem_supplied_iff {command : List (String × Json)} {field : String} :
    field ∈ supplied command ↔ field ∈ ["x", "y", "yaw"] ∧ ∃ value, Filled command field value := by
  unfold supplied Filled
  rw [List.mem_filter]
  refine and_congr_right fun _ => ?_
  cases Json.get? command field with
  | none => simp
  | some value => simp

theorem poseChecks_hold_iff {messageType seedSource : String} {sources : List String}
    {command : List (String × Json)} :
    (∀ check ∈ poseChecks messageType seedSource sources command, check.1 = true) ↔
      PoseForm seedSource sources command := by
  have hrow : (∀ check ∈ poseChecks messageType seedSource sources command, check.1 = true) ↔
      ((supplied command ≠ [] ∨ seedSource ∈ sources) ∧
        (supplied command = [] ∨ (supplied command).length = 3)) ∧
      ∀ field ∈ supplied command, isNumeric (Json.get? command field) = true := by
    unfold poseChecks
    rw [List.forall_mem_append, List.forall_mem_map]
    simp
  have hwhole : (supplied command).length = 3 → supplied command = ["x", "y", "yaw"] := by
    intro h
    exact List.Sublist.eq_of_length List.filter_sublist h
  have hnone : supplied command = [] ↔
      ∀ field ∈ ["x", "y", "yaw"], ∀ value, ¬ Filled command field value := by
    rw [List.eq_nil_iff_forall_not_mem]
    simp only [mem_supplied_iff, not_and, not_exists]
  rw [hrow, PoseForm, ← hnone]
  constructor
  · rintro ⟨⟨hseed, hlength⟩, hnumeric⟩
    by_cases hempty : supplied command = []
    · right
      exact ⟨hempty, hseed.resolve_left fun h => h hempty⟩
    · left
      rw [hwhole (hlength.resolve_left hempty)] at hnumeric
      exact hnumeric
  · rintro (hnumeric | ⟨hempty, hseed⟩)
    · have hall : supplied command = ["x", "y", "yaw"] := by
        unfold supplied
        rw [List.filter_eq_self]
        intro field hfield
        have hmember : field ∈ supplied command :=
          mem_supplied_iff.2 ⟨hfield, filled_of_isNumeric (hnumeric field hfield)⟩
        exact (List.mem_filter.1 hmember).2
      rw [hall]
      exact ⟨⟨Or.inl (List.cons_ne_nil _ _), Or.inr rfl⟩, hnumeric⟩
    · rw [hempty]
      exact ⟨⟨Or.inr hseed, Or.inl rfl⟩, fun _ h => absurd h List.not_mem_nil⟩

theorem checkMapping_eq_ok_iff {messageType : String} {command : List (String × Json)} :
    checkMapping messageType command = .ok () ↔ MappingForm command := by
  unfold checkMapping
  rw [check_bind_eq_ok_iff, check_bind_eq_ok_iff, checkMember_eq_ok_iff, checkMember_eq_ok_iff,
    checkAll_eq_ok_iff]
  simp only [List.forall_mem_cons, List.not_mem_nil, false_implies, implies_true, and_true]
  constructor
  · rintro ⟨⟨hname, hrecord⟩, hkind, hscope⟩
    exact ⟨hname, hrecord, hkind, hscope⟩
  · rintro ⟨hname, hrecord, hkind, hscope⟩
    exact ⟨⟨hname, hrecord⟩, hkind, hscope⟩

theorem checkCandidate_eq_ok_iff {index : ℕ} {waypoint : Json} :
    checkCandidate index waypoint = .ok () ↔
      ∃ members, waypoint = .obj members ∧ PoseNumeric members := by
  cases waypoint with
  | obj members =>
    rw [checkCandidate, checkAll_eq_ok_iff, List.forall_mem_map]
    constructor
    · intro h
      exact ⟨members, rfl, h⟩
    · rintro ⟨_, ⟨⟩, h⟩
      exact h
  | _ => simp [checkCandidate, invalidMessage]

theorem checkRelocalize_eq_ok_iff {command : List (String × Json)} :
    checkRelocalize texts command = .ok () ↔ RelocalizeForm texts command := by
  unfold checkRelocalize RelocalizeForm
  dsimp only
  rw [check_bind_eq_ok_iff, checkAll_eq_ok_iff, poseChecks_hold_iff]
  refine and_congr_right fun _ => ?_
  split_ifs with hprogressive
  · simp only [hprogressive, true_implies]
    cases orElse (Json.get? command "waypoints") (.arr []) with
    | arr waypoints =>
      dsimp only
      rw [checkEach_eq_ok_iff]
      simp only [checkCandidate_eq_ok_iff, Json.arr.injEq, exists_eq_left']
      constructor
      · intro h waypoint hwaypoint
        obtain ⟨n, hn⟩ := List.mem_iff_getElem?.1 hwaypoint
        exact h n waypoint hn
      · intro h n waypoint hn
        exact h waypoint (List.mem_of_getElem? hn)
    | _ => simp [invalidMessage]
  · refine iff_of_true rfl ?_
    intro h
    exact absurd h hprogressive

theorem isFilledList_iff {value : Option Json} :
    isFilledList value = true ↔ ∃ first rest, value = some (.arr (first :: rest)) := by
  unfold isFilledList
  split <;> simp_all

theorem checkSingleGoal_eq_ok_iff {command : List (String × Json)} :
    checkSingleGoal texts command = .ok () ↔ SingleGoalForm texts command := by
  rw [checkSingleGoal, checkAll_eq_ok_iff, List.forall_mem_append, List.forall_mem_map]
  simp [SingleGoalForm, PoseNumeric, OneOf, isChoice]

theorem checkActivate_eq_ok_iff {command : List (String × Json)} :
    checkActivate texts command = .ok () ↔ ActivateForm texts command := by
  rw [checkActivate, checkAll_eq_ok_iff, List.forall_mem_map]
  simp [ActivateForm]

theorem checkSensor_eq_ok_iff {command : List (String × Json)} :
    checkSensor texts command = .ok () ↔ SensorForm texts command := by
  rw [checkSensor, checkAll_eq_ok_iff]
  simp [SensorForm]

theorem checkOptimize_eq_ok_iff {command : List (String × Json)} :
    checkOptimize texts command = .ok () ↔ OptimizeForm texts command := by
  rw [checkOptimize, checkAll_eq_ok_iff, OptimizeForm, ← isFilledList_iff]
  simp

theorem numberWithin_iff {low high : ℚ} {value : Option Json} :
    numberWithin low high value = true ↔ ∃ n, value = some (.num n) ∧ between low high n = true := by
  unfold numberWithin
  split
  · simp
  · rename_i hother
    refine iff_of_false (by simp) ?_
    rintro ⟨n, rfl, -⟩
    exact hother n rfl

theorem checkVolume_eq_ok_iff {command : List (String × Json)} :
    checkVolume texts command = .ok () ↔ VolumeForm texts command := by
  rw [checkVolume, checkAll_eq_ok_iff, VolumeForm, ← numberWithin_iff]
  simp

theorem checkBoundary_eq_ok_iff {command : List (String × Json)} :
    checkBoundary texts command = .ok () ↔ BoundaryForm texts command := by
  have hpolygon : ∀ value : Option Json, isPolygon value = true ↔
      ∃ polygon, value = some (.arr polygon) ∧ 3 ≤ polygon.length := by
    intro value
    unfold isPolygon
    split <;> simp_all
  unfold checkBoundary BoundaryForm
  cases hboundary : Json.get? command "boundary" with
  | none => simp [invalidMessage]
  | some boundary =>
    cases boundary with
    | obj members =>
      dsimp only
      rw [checkAll_eq_ok_iff]
      simp [hpolygon]
    | _ => simp [invalidMessage]

theorem checkLogConfig_eq_ok_iff {command : List (String × Json)} :
    checkLogConfig command = .ok () ↔ LogConfigForm command := by
  unfold checkLogConfig LogConfigForm
  simp only [← isFilledList_iff, ← numberWithin_iff]
  cases Json.get? command "enabled" with
  | none => simp [invalidMessage]
  | some enabled =>
    cases enabled with
    | bool enabled =>
      cases enabled with
      | true =>
        dsimp only
        rw [checkAll_eq_ok_iff]
        simp
      | false => simp
    | _ => simp [invalidMessage]

theorem checkObject_eq_ok_iff {messageType : String} {command : List (String × Json)} :
    (messageType = "task.start" → ∃ route waypoints, StartForm texts command route waypoints) ∧
        checkObject texts messageType command = .ok () ↔ ObjectForm texts messageType command := by
  constructor
  · rintro ⟨hstart, h⟩
    unfold checkObject at h
    refine ⟨hstart, ?_, ?_, ?_, ?_, ?_, ?_, ?_, ?_, ?_, ?_, ?_⟩
    · rintro rfl
      rw [if_pos rfl] at h
      obtain ⟨id, hid, -⟩ := bind_eq_ok h
      exact parseUuid_ok_iff_readsAsUuid.1 ⟨id, hid⟩
    · intro hmapping
      have hstop : messageType ≠ "diagnostics.nav_rosbag_stop" := by
        rintro rfl
        exact absurd hmapping (by decide)
      rw [if_neg hstop, if_pos hmapping] at h
      exact checkMapping_eq_ok_iff.1 h
    · rintro rfl
      have hchecks : checkInitialPose texts command = .ok () := by simpa using h
      rw [checkInitialPose, checkAll_eq_ok_iff, poseChecks_hold_iff] at hchecks
      exact hchecks
    · rintro rfl
      have hchecks : checkSingleGoal texts command = .ok () := by simpa using h
      exact checkSingleGoal_eq_ok_iff.1 hchecks
    · rintro rfl
      have hchecks : checkRelocalize texts command = .ok () := by simpa using h
      exact checkRelocalize_eq_ok_iff.1 hchecks
    · rintro rfl
      have hchecks : checkActivate texts command = .ok () := by simpa using h
      exact checkActivate_eq_ok_iff.1 hchecks
    · rintro rfl
      have hchecks : checkOptimize texts command = .ok () := by simpa using h
      exact checkOptimize_eq_ok_iff.1 hchecks
    · rintro rfl
      have hchecks : checkBoundary texts command = .ok () := by simpa using h
      exact checkBoundary_eq_ok_iff.1 hchecks
    · rintro rfl
      have hchecks : checkLogConfig command = .ok () := by simpa using h
      exact checkLogConfig_eq_ok_iff.1 hchecks
    · rintro rfl
      have hchecks : checkSensor texts command = .ok () := by simpa using h
      exact checkSensor_eq_ok_iff.1 hchecks
    · rintro rfl
      have hchecks : checkVolume texts command = .ok () := by simpa using h
      exact checkVolume_eq_ok_iff.1 hchecks
  · intro h
    refine ⟨h.start, ?_⟩
    unfold checkObject
    by_cases hstop : messageType = "diagnostics.nav_rosbag_stop"
    · obtain ⟨id, hid⟩ := parseUuid_ok_iff_readsAsUuid.2 (h.rosbagStop hstop)
      rw [if_pos hstop, hid]
      rfl
    rw [if_neg hstop]
    by_cases hmapping : messageType ∈ ["mapping.start", "mapping.origin_start", "mapping.slam_start"]
    · rw [if_pos hmapping]
      exact checkMapping_eq_ok_iff.2 (h.mapping hmapping)
    rw [if_neg hmapping]
    by_cases hpose : messageType = "nav.initial_pose"
    · rw [if_pos hpose, checkInitialPose, checkAll_eq_ok_iff, poseChecks_hold_iff]
      exact h.initialPose hpose
    rw [if_neg hpose]
    by_cases hgoal : messageType = "nav.single_goal"
    · rw [if_pos hgoal]
      exact checkSingleGoal_eq_ok_iff.2 (h.singleGoal hgoal)
    rw [if_neg hgoal]
    by_cases hrelocalize : messageType = "nav.relocalize"
    · rw [if_pos hrelocalize]
      exact checkRelocalize_eq_ok_iff.2 (h.relocalize hrelocalize)
    rw [if_neg hrelocalize]
    by_cases hactivate : messageType = "map.activate"
    · rw [if_pos hactivate]
      exact checkActivate_eq_ok_iff.2 (h.activate hactivate)
    rw [if_neg hactivate]
    by_cases hoptimize : messageType = "map.optimize"
    · rw [if_pos hoptimize]
      exact checkOptimize_eq_ok_iff.2 (h.optimize hoptimize)
    rw [if_neg hoptimize]
    by_cases hboundary : messageType = "map.boundary_apply"
    · rw [if_pos hboundary]
      exact checkBoundary_eq_ok_iff.2 (h.boundary hboundary)
    rw [if_neg hboundary]
    by_cases hlog : messageType = "diagnostics.log_config"
    · rw [if_pos hlog]
      exact checkLogConfig_eq_ok_iff.2 (h.logConfig hlog)
    rw [if_neg hlog]
    by_cases hsensor : messageType = "sensor.restart"
    · rw [if_pos hsensor]
      exact checkSensor_eq_ok_iff.2 (h.sensor hsensor)
    rw [if_neg hsensor]
    by_cases hvolume : messageType = "audio.volume"
    · rw [if_pos hvolume]
      exact checkVolume_eq_ok_iff.2 (h.volume hvolume)
    rw [if_neg hvolume]

/-! ## Messages -/

theorem validateTimes_eq_ok_iff {messageType : String} {issuedAt expiresAt command : Json} :
    validateTimes texts messageType issuedAt expiresAt command = .ok () ↔
      (∃ issued expires, texts.fromIsoFormat (texts.str issuedAt) = .aware issued
        ∧ texts.fromIsoFormat (texts.str expiresAt) = .aware expires ∧ issued < expires) ∧
      ∃ members, command = .obj members ∧
        (messageType = "task.start" → ∃ route waypoints, StartForm texts members route waypoints) := by
  unfold validateTimes
  simp only [bind_eq_ok_iff, parseTime_eq_ok_iff]
  constructor
  · rintro ⟨issued, hissued, expires, hexpires, h⟩
    by_cases hexpired : expires ≤ issued
    · rw [if_pos hexpired] at h
      exact absurd h (by simp [invalidMessage])
    rw [if_neg hexpired] at h
    refine ⟨⟨issued, expires, hissued, hexpires, not_le.1 hexpired⟩, ?_⟩
    cases command with
    | obj members =>
      refine ⟨members, rfl, ?_⟩
      intro htype
      dsimp only at h
      rw [if_pos htype] at h
      exact validateTaskStart_eq_ok_iff.1 h
    | _ => exact absurd h (by simp [invalidMessage])
  · rintro ⟨⟨issued, expires, hissued, hexpires, hlt⟩, members, rfl, hstart⟩
    refine ⟨issued, hissued, expires, hexpires, ?_⟩
    rw [if_neg (not_le.2 hlt)]
    dsimp only
    split_ifs with htype
    · exact validateTaskStart_eq_ok_iff.2 (hstart htype)
    · rfl

theorem validateCommand_eq_ok_iff {messageType : String} {payload : List (String × Json)} :
    validateCommand texts messageType payload = .ok () ↔
      ∃ command, CommandFields texts messageType payload command ∧
        (messageType = "task.start" → ∃ route waypoints, StartForm texts command route waypoints) := by
  rw [validateCommand_eq]
  simp only [bind_eq_ok_iff, present_eq_ok_iff, parseUuid_eq_ok_iff, Option.getD_some,
    validateTimes_eq_ok_iff]
  constructor
  · rintro ⟨commandId, hcommandId, issuedAt, hissuedAt, expiresAt, hexpiresAt, _, hcommand, id, hid,
      _, hexecution, ⟨issued, expires, hissued, hexpires, hlt⟩, command, rfl, hstart⟩
    exact ⟨command, ⟨⟨commandId, id, hcommandId, hid⟩, validateExecution_eq_ok_iff.1 hexecution, ⟨issued, expires,
      ⟨issuedAt, hissuedAt, hissued⟩, ⟨expiresAt, hexpiresAt, hexpires⟩, hlt⟩, hcommand.1⟩, hstart⟩
  · rintro ⟨command, ⟨⟨commandId, id, hcommandId, hid⟩, hexecution, ⟨issued, expires,
      ⟨issuedAt, hissuedAt, hissued⟩, ⟨expiresAt, hexpiresAt, hexpires⟩, hlt⟩, hcommand⟩, hstart⟩
    exact ⟨commandId, hcommandId, issuedAt, hissuedAt, expiresAt, hexpiresAt, .obj command,
      ⟨hcommand, rfl⟩, id, hid, (), validateExecution_eq_ok_iff.2 hexecution, ⟨issued, expires, hissued, hexpires, hlt⟩, command, rfl,
      hstart⟩

theorem knownType_eq_ok_iff {value : Json} {messageType : String} :
    knownType texts value = .ok messageType ↔
      value = .str messageType ∧ messageType ∈ commandTypes ++ ["sync.response", "trajectory.ack"] := by
  unfold knownType
  split
  · rename_i text
    by_cases hknown : text ∈ commandTypes ++ ["sync.response", "trajectory.ack"]
    · rw [if_pos hknown]
      constructor
      · rintro ⟨⟩
        exact ⟨rfl, hknown⟩
      · rintro ⟨⟨⟩, -⟩
        rfl
    · rw [if_neg hknown]
      refine iff_of_false (by simp [invalidMessage]) ?_
      rintro ⟨⟨⟩, h⟩
      exact hknown h
  · simp
  · simp
  · rename_i hstr _ _
    refine iff_of_false (by simp [invalidMessage]) ?_
    rintro ⟨rfl, -⟩
    exact hstr messageType rfl

theorem raisesOnly_knownType (value : Json) :
    RaisesOnly Raised.IsProtocolError (knownType texts value) ↔ HasHash (some value) := by
  unfold knownType HasHash
  cases value with
  | str text =>
    dsimp only
    split_ifs <;> simp
  | arr items => simp [Raised.IsProtocolError]
  | obj members => simp [Raised.IsProtocolError]
  | _ => simp

theorem of_decodeMessage {data : List (String × Json)} {e : MessageEnvelope}
    (h : decodeMessage texts data = .ok e) :
    MessageFields texts data e.messageType e.payload ∧ e.sequence = Json.get? data "sequence" ∧
      (e.messageType ∈ commandTypes → validateCommand texts e.messageType e.payload = .ok ()) := by
  unfold decodeMessage at h
  simp only [bind_eq_ok_iff, present_eq_ok_iff] at h
  obtain ⟨version, hversion, messageId, hmessageId, type, htype, robotId, hrobotId, sessionId,
    hsessionId, sentAt, hsentAt, traceId, htraceId, payload, hpayload, h⟩ := h
  split at h
  · simp only [bind_eq_ok_iff, knownType_eq_ok_iff] at h
    obtain ⟨messageType, ⟨rfl, hknown⟩, h⟩ := h
    cases payload with
    | obj payload =>
      simp only [bind_eq_ok_iff, parseUuid_eq_ok_iff, parseTime_eq_ok_iff, Option.getD_some] at h
      obtain ⟨id, hid, instant, hinstant, trace, htrace, h⟩ := h
      have hform : MessageFields texts data messageType payload := by
        refine ⟨⟨?_, hversion.1, htype.1⟩, hknown, hpayload.1, ⟨messageId, id, hmessageId, hid⟩,
          ⟨traceId, trace, htraceId, htrace⟩, instant, sentAt, hsentAt, hinstant⟩
        simp only [headerKeys, List.forall_mem_cons, List.not_mem_nil, false_implies, implies_true,
          and_true]
        exact ⟨⟨_, hversion⟩, ⟨_, hmessageId⟩, ⟨_, htype⟩, ⟨_, hrobotId⟩, ⟨_, hsessionId⟩, ⟨_, hsentAt⟩,
          ⟨_, htraceId⟩, ⟨_, hpayload⟩⟩
      by_cases hcommand : messageType ∈ commandTypes
      · rw [if_pos hcommand] at h
        obtain ⟨_, hvalid, h⟩ := bind_eq_ok h
        cases h
        exact ⟨hform, rfl, fun _ => hvalid⟩
      · rw [if_neg hcommand] at h
        cases h
        exact ⟨hform, rfl, fun h => absurd h hcommand⟩
    | _ => exact absurd h (by simp [invalidMessage])
  · exact absurd h (by simp)

theorem decodeMessage_of_fields {data payload : List (String × Json)} {messageType : String}
    (hfields : MessageFields texts data messageType payload)
    (hcommand : messageType ∈ commandTypes → validateCommand texts messageType payload = .ok ()) :
    ∃ e, decodeMessage texts data = .ok e ∧ e.messageType = messageType ∧ e.payload = payload ∧
      e.sequence = Json.get? data "sequence" := by
  obtain ⟨robotId, hrobotId⟩ := hfields.filled "robot_id" (by decide)
  obtain ⟨sessionId, hsessionId⟩ := hfields.filled "session_id" (by decide)
  obtain ⟨messageId, id, hmessageId, hid⟩ := hfields.messageId
  obtain ⟨traceId, trace, htraceId, htrace⟩ := hfields.traceId
  obtain ⟨instant, sentAt, hsentAt, hinstant⟩ := hfields.sentAt
  have hversion : Filled data "protocol_version" (.str "1.0") := ⟨hfields.version, rfl⟩
  have htype : Filled data "message_type" (.str messageType) := ⟨hfields.typed, rfl⟩
  have hpayload : Filled data "payload" (.obj payload) := ⟨hfields.payload, rfl⟩
  refine ⟨⟨id, messageType, texts.str robotId, texts.str sessionId, instant, trace,
    Json.get? data "sequence", payload⟩, ?_, rfl, rfl, rfl⟩
  unfold decodeMessage
  simp only [bind_eq_ok_iff, present_eq_ok_iff]
  refine ⟨.str "1.0", hversion, messageId, hmessageId, .str messageType, htype, robotId, hrobotId,
    sessionId, hsessionId, sentAt, hsentAt, traceId, htraceId, .obj payload, hpayload, ?_⟩
  rw [knownType_eq_ok_iff.2 ⟨rfl, hfields.known⟩, ok_bind]
  dsimp only
  rw [parseUuid_eq_ok_iff.2 hid, parseTime_eq_ok_iff.2 hinstant, parseUuid_eq_ok_iff.2 htrace]
  rw [ok_bind, ok_bind, ok_bind]
  by_cases hmember : messageType ∈ commandTypes
  · rw [if_pos hmember, hcommand hmember]
    rfl
  · rw [if_neg hmember]
    rfl

theorem raisesOnly_decodeMessage (data : List (String × Json)) :
    RaisesOnly Raised.IsProtocolError (decodeMessage texts data) ↔
      (∀ messageType, HeaderFilled data messageType → HasHash (some messageType)) ∧
      ∀ messageType payload, MessageFields texts data messageType payload →
        messageType ∈ commandTypes →
        RaisesOnly Raised.IsProtocolError (validateCommand texts messageType payload) := by
  unfold decodeMessage
  simp only [raisesOnly_bind_iff, raisesOnly_present, true_and, present_eq_ok_iff]
  constructor
  · intro h
    constructor
    · intro messageType hheader
      obtain ⟨messageId, hmessageId⟩ := hheader.filled "message_id" (by decide)
      obtain ⟨type, htype⟩ := hheader.filled "message_type" (by decide)
      obtain ⟨robotId, hrobotId⟩ := hheader.filled "robot_id" (by decide)
      obtain ⟨sessionId, hsessionId⟩ := hheader.filled "session_id" (by decide)
      obtain ⟨sentAt, hsentAt⟩ := hheader.filled "sent_at" (by decide)
      obtain ⟨traceId, htraceId⟩ := hheader.filled "trace_id" (by decide)
      obtain ⟨payload, hpayload⟩ := hheader.filled "payload" (by decide)
      have hraised := h (.str "1.0") ⟨hheader.version, rfl⟩ messageId hmessageId type htype robotId
        hrobotId sessionId hsessionId sentAt hsentAt traceId htraceId payload hpayload
      change RaisesOnly Raised.IsProtocolError (knownType texts type >>= _) at hraised
      rw [raisesOnly_bind_iff, raisesOnly_knownType] at hraised
      obtain rfl := Option.some.inj (htype.1.symm.trans hheader.typed)
      exact hraised.1
    · intro messageType payload hfields hmember
      obtain ⟨robotId, hrobotId⟩ := hfields.filled "robot_id" (by decide)
      obtain ⟨sessionId, hsessionId⟩ := hfields.filled "session_id" (by decide)
      obtain ⟨messageId, id, hmessageId, hid⟩ := hfields.messageId
      obtain ⟨traceId, trace, htraceId, htrace⟩ := hfields.traceId
      obtain ⟨instant, sentAt, hsentAt, hinstant⟩ := hfields.sentAt
      have hraised := h (.str "1.0") ⟨hfields.version, rfl⟩ messageId hmessageId (.str messageType)
        ⟨hfields.typed, rfl⟩ robotId hrobotId sessionId hsessionId sentAt hsentAt traceId htraceId
        (.obj payload) ⟨hfields.payload, rfl⟩
      change RaisesOnly Raised.IsProtocolError (knownType texts (.str messageType) >>= _) at hraised
      rw [knownType_eq_ok_iff.2 ⟨rfl, hfields.known⟩, ok_bind] at hraised
      dsimp only at hraised
      rw [parseUuid_eq_ok_iff.2 hid, parseTime_eq_ok_iff.2 hinstant, parseUuid_eq_ok_iff.2 htrace,
        ok_bind, ok_bind, ok_bind, if_pos hmember, raisesOnly_bind_iff] at hraised
      exact hraised.1
  · rintro ⟨hhashable, hcommand⟩ version hversion messageId hmessageId type htype robotId hrobotId
      sessionId hsessionId sentAt hsentAt traceId htraceId payload hpayload
    split
    · have hheader : HeaderFilled data type := by
        refine ⟨?_, hversion.1, htype.1⟩
        simp only [headerKeys, List.forall_mem_cons, List.not_mem_nil, false_implies, implies_true,
          and_true]
        exact ⟨⟨_, hversion⟩, ⟨_, hmessageId⟩, ⟨_, htype⟩, ⟨_, hrobotId⟩, ⟨_, hsessionId⟩, ⟨_, hsentAt⟩,
          ⟨_, htraceId⟩, ⟨_, hpayload⟩⟩
      rw [raisesOnly_bind_iff, raisesOnly_knownType]
      refine ⟨hhashable type hheader, ?_⟩
      intro messageType htypeKnown
      obtain ⟨rfl, hknown⟩ := knownType_eq_ok_iff.1 htypeKnown
      cases payload with
      | obj payload =>
        simp only [raisesOnly_bind_iff, raisesOnly_parseUuid, raisesOnly_parseTime, true_and,
          parseUuid_eq_ok_iff, parseTime_eq_ok_iff, Option.getD_some]
        intro id hid instant hinstant trace htrace
        split_ifs with hmember
        · rw [raisesOnly_bind_iff]
          exact ⟨hcommand messageType payload ⟨hheader, hknown, hpayload.1, ⟨messageId, id, hmessageId,
            hid⟩, ⟨traceId, trace, htraceId, htrace⟩, instant, sentAt, hsentAt, hinstant⟩ hmember,
            fun _ _ => raisesOnly_pure _⟩
        · exact raisesOnly_pure _
      | _ => exact raisesOnly_invalidMessage _
    · rw [raisesOnly_error]
      trivial

/-! ## The whole decoder -/

/-- The checks on a command object come to nothing that has no hash, or no members. -/
def ObjectReads (texts : Texts) (messageType : String) (command : List (String × Json)) : Prop :=
  (messageType = "task.start" → StartReads texts command) ∧ MappingReads messageType command

/-- A sequence number, or none; `True` and `False` are integers too. -/
def IntegerOrNone : Option Json → Prop
  | none | some .null | some (.bool _) | some (.num (.int _)) => True
  | _ => False

/-- A command of a known type, the fields and the object of it in form. -/
def CommandForm (texts : Texts) (messageType : String) (payload : List (String × Json)) : Prop :=
  messageType ∈ commandTypes → ∃ command, CommandFields texts messageType payload command ∧
    ObjectForm texts messageType command

/-- The constraints that an envelope of the Edge documents, in its types and in its errors. -/
structure EnvelopeForm (texts : Texts) (e : MessageEnvelope) : Prop where
  known : e.messageType ∈ commandTypes ++ ["sync.response", "trajectory.ack"]
  sequence : IntegerOrNone e.sequence
  command : CommandForm texts e.messageType e.payload

/-- The members of a message that is either refused or decoded in form. -/
structure Decodable (texts : Texts) (data : List (String × Json)) : Prop where
  type : ∀ messageType, HeaderFilled data messageType → HasHash (some messageType)
  object : ∀ messageType payload command, MessageFields texts data messageType payload →
    messageType ∈ commandTypes → CommandFields texts messageType payload command →
    ObjectReads texts messageType command
  sequence : ∀ messageType payload, MessageFields texts data messageType payload →
    CommandForm texts messageType payload → IntegerOrNone (Json.get? data "sequence")

/-- The last checks of `decode_message`, on the object of a command. -/
def checkEnvelope (texts : Texts) (e : MessageEnvelope) : Except Raised Unit :=
  if e.messageType ∈ commandTypes then
    match Json.get? e.payload "command" with
    | some (.obj command) => checkObject texts e.messageType command
    | _ => .ok ()
  else .ok ()

theorem decodeObject_eq (data : List (String × Json)) :
    decodeObject texts data = (do
      let e ← decodeMessage texts data
      checkEnvelope texts e
      return e) := by
  unfold decodeObject
  refine bind_congr fun e => ?_
  unfold checkEnvelope
  by_cases hcommand : e.messageType ∈ commandTypes
  · rw [if_pos hcommand, if_pos hcommand]
    cases Json.get? e.payload "command" with
    | none => rfl
    | some value => cases value <;> rfl
  · rw [if_neg hcommand, if_neg hcommand]
    rfl

theorem checkEnvelope_of_command {e : MessageEnvelope} {command : List (String × Json)}
    (hcommand : Json.get? e.payload "command" = some (.obj command)) :
    checkEnvelope texts e =
      if e.messageType ∈ commandTypes then checkObject texts e.messageType command else .ok () := by
  rw [checkEnvelope, hcommand]

theorem checkEnvelope_eq_ok_iff {e : MessageEnvelope}
    (hvalid : e.messageType ∈ commandTypes → validateCommand texts e.messageType e.payload = .ok ()) :
    checkEnvelope texts e = .ok () ↔ CommandForm texts e.messageType e.payload := by
  unfold CommandForm
  by_cases hcommand : e.messageType ∈ commandTypes
  · obtain ⟨command, hfields, hstart⟩ := validateCommand_eq_ok_iff.1 (hvalid hcommand)
    rw [checkEnvelope_of_command hfields.command, if_pos hcommand]
    constructor
    · intro h _
      exact ⟨command, hfields, checkObject_eq_ok_iff.1 ⟨hstart, h⟩⟩
    · intro h
      obtain ⟨other, hother, hform⟩ := h hcommand
      obtain ⟨⟩ := Option.some.inj (hfields.command.symm.trans hother.command)
      exact (checkObject_eq_ok_iff.2 hform).2
  · rw [checkEnvelope, if_neg hcommand]
    exact iff_of_true rfl fun h => absurd h hcommand

theorem validateCommand_of_form {messageType : String} {payload : List (String × Json)}
    (h : CommandForm texts messageType payload) (hcommand : messageType ∈ commandTypes) :
    validateCommand texts messageType payload = .ok () := by
  obtain ⟨command, hfields, hform⟩ := h hcommand
  exact validateCommand_eq_ok_iff.2 ⟨command, hfields, hform.start⟩

theorem raisesOnly_decodeObject (data : List (String × Json)) :
    RaisesOnly Raised.IsProtocolError (decodeObject texts data) ↔
      (∀ messageType, HeaderFilled data messageType → HasHash (some messageType)) ∧
      ∀ messageType payload command, MessageFields texts data messageType payload →
        messageType ∈ commandTypes → CommandFields texts messageType payload command →
        ObjectReads texts messageType command := by
  rw [decodeObject_eq, raisesOnly_bind_iff, raisesOnly_decodeMessage]
  constructor
  · rintro ⟨⟨htype, hcommand⟩, hlast⟩
    refine ⟨htype, ?_⟩
    intro messageType payload command hfields hmember hfound
    refine ⟨(raisesOnly_validateCommand messageType payload).1
      (hcommand messageType payload hfields hmember) command hfound, ?_⟩
    intro hmapping
    have hstart : messageType ≠ "task.start" := by
      rintro rfl
      exact absurd hmapping (by decide)
    obtain ⟨e, he, rfl, rfl, -⟩ := decodeMessage_of_fields hfields fun _ =>
      validateCommand_eq_ok_iff.2 ⟨command, hfound, fun h => absurd h hstart⟩
    have hchecks := hlast e he
    rw [raisesOnly_bind_iff, checkEnvelope_of_command hfound.command, if_pos hmember,
      raisesOnly_checkObject] at hchecks
    exact hchecks.1 hmapping
  · rintro ⟨htype, hobject⟩
    refine ⟨⟨htype, ?_⟩, ?_⟩
    · intro messageType payload hfields hmember
      rw [raisesOnly_validateCommand]
      intro command hfound
      exact (hobject messageType payload command hfields hmember hfound).1
    · intro e he
      obtain ⟨hfields, -, hvalid⟩ := of_decodeMessage he
      rw [raisesOnly_bind_iff]
      refine ⟨?_, fun _ _ => raisesOnly_pure e⟩
      by_cases hmember : e.messageType ∈ commandTypes
      · obtain ⟨command, hfound, -⟩ := validateCommand_eq_ok_iff.1 (hvalid hmember)
        rw [checkEnvelope_of_command hfound.command, if_pos hmember, raisesOnly_checkObject]
        exact (hobject e.messageType e.payload command hfields hmember hfound).2
      · rw [checkEnvelope, if_neg hmember]
        exact raisesOnly_ok ()

theorem decodeObject_eq_ok_iff {data : List (String × Json)} {e : MessageEnvelope} :
    decodeObject texts data = .ok e ↔
      decodeMessage texts data = .ok e ∧ CommandForm texts e.messageType e.payload := by
  rw [decodeObject_eq, bind_eq_ok_iff]
  constructor
  · rintro ⟨e', he, h⟩
    obtain ⟨hchecks, h⟩ := check_bind_eq_ok_iff.1 h
    cases h
    exact ⟨he, (checkEnvelope_eq_ok_iff (of_decodeMessage he).2.2).1 hchecks⟩
  · rintro ⟨he, hform⟩
    refine ⟨e, he, ?_⟩
    rw [(checkEnvelope_eq_ok_iff (of_decodeMessage he).2.2).2 hform]
    rfl

theorem commandForm_of_decode {loads : String → LoadedText} {raw : RawMessage} {e : MessageEnvelope}
    (h : decode texts loads raw = .ok e) : CommandForm texts e.messageType e.payload := by
  obtain ⟨data, -, hdata⟩ := bind_eq_ok_iff.1 h
  exact (decodeObject_eq_ok_iff.1 hdata).2

/-- `decode_message` ends in a `ProtocolError` or in an envelope in form, for the members of an object. -/
theorem endsIn_decodeObject (data : List (String × Json)) :
    EndsIn Raised.IsProtocolError (EnvelopeForm texts) (decodeObject texts data) ↔
      Decodable texts data := by
  rw [endsIn_iff, raisesOnly_decodeObject]
  constructor
  · rintro ⟨⟨htype, hobject⟩, henvelope⟩
    refine ⟨htype, hobject, ?_⟩
    intro messageType payload hfields hform
    obtain ⟨e, he, rfl, rfl, hsequence⟩ := decodeMessage_of_fields hfields (validateCommand_of_form hform)
    rw [← hsequence]
    exact (henvelope e (decodeObject_eq_ok_iff.2 ⟨he, hform⟩)).sequence
  · intro h
    refine ⟨⟨h.type, h.object⟩, ?_⟩
    intro e he
    obtain ⟨hmessage, hform⟩ := decodeObject_eq_ok_iff.1 he
    obtain ⟨hfields, hsequence, -⟩ := of_decodeMessage hmessage
    refine ⟨hfields.known, ?_, hform⟩
    rw [hsequence]
    exact h.sequence e.messageType e.payload hfields hform

theorem endsIn_decode (loads : String → LoadedText) (raw : RawMessage) :
    EndsIn Raised.IsProtocolError (EnvelopeForm texts) (decode texts loads raw) ↔
      raw.Reads loads (Decodable texts) := by
  unfold decode
  rw [RawMessage.endsIn_read_iff]
  simp only [endsIn_decodeObject]

end EdgeProtocol

end RoamerX
