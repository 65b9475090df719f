import RoamerX.Boundary.Application
import RoamerX.Lib.Run
import Mathlib.Order.Lattice

set_option autoImplicit false

/-! # The speed limit of the zones

The manager remembers the limit it last reported, and the watch of the Edge, `_boundary_loop`, calls the
setter only where the limit has changed. What the setter was given is kept beside the manager. The two
stay the same unless the map changes, or the boundary is no more the active map's, under a limit. -/

namespace RoamerX

namespace BoundarySpeed

open BoundaryApplication NavigationBoundaryManager Effects Effect

variable {𝕜 : Type}

/-! ## The watch -/

/-- The manager, and what the setter of the speed limit was called with. -/
structure SpeedWatch (𝕜 : Type) where
  state : BoundaryState 𝕜
  /-- The limit that was last passed to the setter. -/
  passed : Option 𝕜 := none
  /-- The limit of the last call of the setter that did not raise. -/
  inForce : Option 𝕜 := none

/-- An Edge that has just started, with the boundary it has kept. -/
def SpeedWatch.start (saved : Option (NavigationBoundary 𝕜)) (mask : Option (Option (GridMap 𝕜)))
    (files : MaskFiles 𝕜) : SpeedWatch 𝕜 where
  state :=
    { manager :=
        { active := saved
          stored := saved
          mask := mask }
      files := files }

inductive WatchCall (𝕜 : Type)
  | apply (fails : Stage → Bool) (command : BoundaryCommand 𝕜)
  | activateMap (mapId : String) (storeFails : Bool)
  /-- A pass of `_boundary_loop` at a pose, with the map the robot is on. -/
  | observe (mapId : String) (x y : 𝕜) (logFails setterFails : Bool)

/-- `activate_map`; a store that raises leaves the boundary cleared in memory only. -/
def activateMapIn (mapId : String) (storeFails : Bool) (m : NavigationBoundaryManager 𝕜) :
    NavigationBoundaryManager 𝕜 :=
  if storeFails && decide (m.activeMapId ≠ mapId) then { m with active := none }
  else m.activateMap mapId

variable [Field 𝕜] [LinearOrder 𝕜]

/-- The limit of an observation reaches the setter, where it has changed. -/
def SpeedWatch.setLimit (w : SpeedWatch 𝕜) (observation : PoseObservation 𝕜) (setterFails : Bool) :
    SpeedWatch 𝕜 :=
  if observation.speedChanged then
    if setterFails then
      { w with
        state := { w.state with manager := w.state.manager.retrySpeedApplication }
        passed := observation.speedLimitMps }
    else
      { w with
        passed := observation.speedLimitMps
        inForce := observation.speedLimitMps }
  else w

/-- A pass of `_boundary_loop`; the transitions are logged before the limit is set. The stop at a
    violation is left out. -/
def SpeedWatch.observe (w : SpeedWatch 𝕜) (mapId : String) (x y : 𝕜) (logFails setterFails : Bool) :
    SpeedWatch 𝕜 :=
  let observed := w.state.manager.observePose mapId x y
  let w := { w with state := { w.state with manager := observed.1 } }
  if logFails && decide (observed.2.events ≠ ∅) then w else w.setLimit observed.2 setterFails

def SpeedWatch.call (cos sin : 𝕜 → 𝕜) (w : SpeedWatch 𝕜) : WatchCall 𝕜 → SpeedWatch 𝕜
  | .apply fails command => { w with state := (applyBoundary cos sin fails command w.state).2 }
  | .activateMap mapId storeFails =>
    { w with state := { w.state with manager := activateMapIn mapId storeFails w.state.manager } }
  | .observe mapId x y logFails setterFails => w.observe mapId x y logFails setterFails

/-! ## The right limit -/

/-- A restricted zone that the pose is in has this limit. -/
def Restricts (boundary : NavigationBoundary 𝕜) (x y limit : 𝕜) : Prop :=
  ∃ zone ∈ boundary.zones, zone.zoneType = .restricted ∧ pointInPolygon x y zone.polygon = true ∧
    zone.speedLimitMps = some limit

/-- The limit is the least of the restricted zones of the map that the pose is in; there is none where
    none of them has a limit. -/
def RightLimit (m : NavigationBoundaryManager 𝕜) (mapId : String) (x y : 𝕜) : Option 𝕜 → Prop
  | some limit => ∃ boundary, m.active = some boundary ∧ boundary.mapId = mapId ∧
    Restricts boundary x y limit ∧ ∀ other, Restricts boundary x y other → limit ≤ other
  | none => ∀ boundary, m.active = some boundary → boundary.mapId = mapId →
    ∀ other, ¬Restricts boundary x y other

omit [Field 𝕜] [LinearOrder 𝕜] in
theorem mem_limits {p : Zone 𝕜 → Bool} {zones : List (Zone 𝕜)} {limit : 𝕜} :
    limit ∈ zones.filterMap (fun zone =>
      if p zone && decide (zone.zoneType = .restricted) then zone.speedLimitMps else none) ↔
      ∃ zone ∈ zones, zone.zoneType = .restricted ∧ p zone = true ∧ zone.speedLimitMps = some limit := by
  rw [List.mem_filterMap]
  refine exists_congr fun zone => and_congr_right fun _ => ?_
  by_cases hp : (p zone && decide (zone.zoneType = .restricted)) = true
  · rw [if_pos hp]
    rw [Bool.and_eq_true, decide_eq_true_iff] at hp
    exact ⟨fun hlimit => ⟨hp.2, hp.1, hlimit⟩, fun h => h.2.2⟩
  · rw [if_neg hp]
    rw [Bool.and_eq_true, decide_eq_true_iff] at hp
    exact ⟨(fun hlimit => nomatch hlimit), fun h => absurd ⟨h.2.1, h.1⟩ hp⟩

theorem rightLimit_speedLimit {m : NavigationBoundaryManager 𝕜} {boundary : NavigationBoundary 𝕜}
    {mapId : String} (hactive : m.active = some boundary) (hmap : boundary.mapId = mapId) (x y : 𝕜) :
    RightLimit m mapId x y (speedLimit boundary x y) := by
  cases hlimit : speedLimit boundary x y with
  | none =>
    intro boundary' hactive' _ other hrestricts
    obtain rfl := Option.some.inj (hactive.symm.trans hactive')
    rw [speedLimit, List.min?_eq_none_iff] at hlimit
    have hmem := mem_limits.mpr hrestricts
    rw [hlimit] at hmem
    exact List.not_mem_nil hmem
  | some limit =>
    obtain ⟨hmem, hleast⟩ := List.min?_eq_some_iff.mp hlimit
    exact ⟨boundary, hactive, hmap, mem_limits.mp hmem,
      fun other hrestricts => hleast other (mem_limits.mpr hrestricts)⟩

/-! ## What is remembered -/

/-- The limit that is remembered is that of the setter, unless it is to be set again. -/
def Cached (w : SpeedWatch 𝕜) : Prop :=
  w.state.manager.lastSpeedLimit = none ∨
    w.state.manager.lastSpeedLimit = some w.passed ∧ w.inForce = w.passed

def Unlimited (w : SpeedWatch 𝕜) : Prop := w.passed = none ∧ w.inForce = none

def Remembers (cached : Option (Option 𝕜)) (s : BoundaryState 𝕜) : Prop :=
  s.manager.lastSpeedLimit = cached

section Frame

variable {cached : Option (Option 𝕜)} (fails : Stage → Bool)

omit [Field 𝕜] [LinearOrder 𝕜]

theorem triple_outside (stage : Stage) :
    Triple (Remembers cached) (outside fails stage) (fun _ => Remembers cached)
      (fun _ => Remembers cached) := by
  unfold outside
  split_ifs
  · exact triple_raise fun _ hs => hs
  · exact triple_pure fun _ hs => hs

theorem triple_writeFiles (mask : BoundaryFilterMask.Mask 𝕜) :
    Triple (Remembers cached) (writeFiles fails mask) (fun _ => Remembers cached)
      (fun _ => Remembers cached) := by
  unfold writeFiles
  refine triple_bind (triple_outside fails .writePgm) fun _ => ?_
  refine triple_bind (M := fun _ => Remembers cached) (triple_modify fun _ hs => hs) fun _ => ?_
  refine triple_bind (triple_outside fails .writeYaml) fun _ => ?_
  refine triple_bind (M := fun _ => Remembers cached) (triple_modify fun _ hs => hs) fun _ => ?_
  refine triple_bind (triple_outside fails .writeMetadata) fun _ => ?_
  refine triple_bind (M := fun _ => Remembers cached) (triple_modify fun _ hs => hs) fun _ => ?_
  exact triple_pure fun _ hs => hs

end Frame

theorem triple_maskOf (cos sin : 𝕜 → 𝕜) (fails : Stage → Bool) (boundary : NavigationBoundary 𝕜)
    (mask : Option (Option (GridMap 𝕜))) {cached : Option (Option 𝕜)} :
    Triple (Remembers cached) (maskOf cos sin fails boundary mask) (fun _ => Remembers cached)
      (fun _ => Remembers cached) := by
  cases mask with
  | none => exact triple_pure fun _ hs => hs
  | some localMap =>
    refine triple_bind (M := fun _ => Remembers cached) ?_ fun _ => triple_pure fun _ hs => hs
    unfold writeKeepoutFiles
    cases BoundaryFilterMask.writeKeepoutMask cos sin localMap boundary with
    | error e =>
      split_ifs
      · exact triple_bind (triple_outside fails .readMap) fun _ => triple_raise fun _ hs => hs
      · exact triple_raise fun _ hs => hs
    | ok mask =>
      split_ifs
      · exact triple_bind (triple_outside fails .readMap) fun _ => triple_writeFiles fails mask
      · exact triple_writeFiles fails mask

theorem lastSpeedLimit_applyBoundary (cos sin : 𝕜 → 𝕜) (fails : Stage → Bool)
    (command : BoundaryCommand 𝕜) (s : BoundaryState 𝕜) :
    (applyBoundary cos sin fails command s).2.manager.lastSpeedLimit = s.manager.lastSpeedLimit := by
  generalize hcached : s.manager.lastSpeedLimit = cached
  refine Triple.kept (I := Remembers cached) ?_ hcached
  unfold applyBoundary
  split_ifs
  · exact triple_raise fun _ hs => hs
  · refine triple_bind (M := fun _ => Remembers cached) (triple_modify fun _ hs => hs) fun _ => ?_
    refine triple_bind (M := fun _ => Remembers cached) (triple_get fun _ hs => hs) fun maskDir => ?_
    refine triple_bind (triple_maskOf cos sin fails command.boundary maskDir) fun _ => ?_
    refine triple_bind (triple_outside fails .setMetadata) fun _ => ?_
    refine triple_bind (M := fun _ => Remembers cached) (triple_modify fun _ hs => hs) fun _ => ?_
    refine triple_bind (triple_outside fails .emit) fun _ => ?_
    refine triple_bind (triple_outside fails .flush) fun _ => ?_
    exact triple_pure fun _ hs => hs

/-! ## Runs -/

/-- The call does not leave a limit behind: the map changes, and is observed without a boundary of its
    own, only while there is no limit, and no log of a transition fails where the limit is to change. -/
def Settled (w : SpeedWatch 𝕜) : WatchCall 𝕜 → Prop
  | .apply _ _ => True
  | .activateMap mapId _ => w.state.manager.activeMapId ≠ mapId → Unlimited w
  | .observe mapId x y logFails _ =>
    match w.state.manager.active with
    | none => Unlimited w
    | some boundary =>
      if boundary.mapId = mapId then
        logFails = true → (w.state.manager.observePose mapId x y).2.events ≠ ∅ →
          w.passed = speedLimit boundary x y ∧ w.inForce = speedLimit boundary x y
      else Unlimited w

theorem settled_of_active {w : SpeedWatch 𝕜} {boundary : NavigationBoundary 𝕜} {mapId : String}
    (hactive : w.state.manager.active = some boundary) (hmap : boundary.mapId = mapId) (x y : 𝕜)
    (setterFails : Bool) : Settled w (.observe mapId x y false setterFails) := by
  unfold Settled
  rw [hactive]
  dsimp only
  rw [if_pos hmap]
  exact fun hfails => nomatch hfails

/-- What is promised of an observation: the limit last passed is right, and so is the limit in force
    unless the setter has just failed. -/
def LimitRight (cos sin : 𝕜 → 𝕜) (w : SpeedWatch 𝕜) (call : WatchCall 𝕜) : Prop :=
  ∀ mapId x y logFails setterFails, call = .observe mapId x y logFails setterFails →
    RightLimit (w.call cos sin call).state.manager mapId x y (w.call cos sin call).passed ∧
      (setterFails = false →
        RightLimit (w.call cos sin call).state.manager mapId x y (w.call cos sin call).inForce)

theorem observe_of_other {w : SpeedWatch 𝕜} {mapId : String}
    (h : ∀ boundary, w.state.manager.active = some boundary → boundary.mapId ≠ mapId) (x y : 𝕜)
    (logFails setterFails : Bool) : w.observe mapId x y logFails setterFails = w := by
  have hobserved : w.state.manager.observePose mapId x y = (w.state.manager, {}) := by
    unfold observePose
    cases hactive : w.state.manager.active with
    | none => rfl
    | some boundary =>
      have hother : w.state.manager.activeMapId ≠ mapId := by
        unfold activeMapId
        rw [hactive]
        exact h boundary hactive
      dsimp only
      rw [if_pos hother]
  unfold SpeedWatch.observe
  rw [hobserved]
  simp [SpeedWatch.setLimit]

theorem observePose_of_active {m : NavigationBoundaryManager 𝕜} {boundary : NavigationBoundary 𝕜}
    {mapId : String} (hactive : m.active = some boundary) (hmap : boundary.mapId = mapId) (x y : 𝕜) :
    (m.observePose mapId x y).1.active = some boundary ∧
      (m.observePose mapId x y).1.lastSpeedLimit = some (speedLimit boundary x y) ∧
      (m.observePose mapId x y).2.speedLimitMps = speedLimit boundary x y ∧
      (m.observePose mapId x y).2.speedChanged =
        decide (some (speedLimit boundary x y) ≠ m.lastSpeedLimit) := by
  have hsame : ¬m.activeMapId ≠ mapId := by
    unfold activeMapId
    rw [hactive]
    exact not_not.mpr hmap
  unfold observePose
  rw [hactive]
  dsimp only
  rw [if_neg hsame]
  exact ⟨rfl, rfl, rfl, rfl⟩

theorem observe_of_active (setterFails : Bool) {w : SpeedWatch 𝕜} {boundary : NavigationBoundary 𝕜} {mapId : String}
    (h : Cached w) (hactive : w.state.manager.active = some boundary) (hmap : boundary.mapId = mapId)
    {x y : 𝕜} {logFails : Bool}
    (hlog : logFails = true → (w.state.manager.observePose mapId x y).2.events ≠ ∅ →
      w.passed = speedLimit boundary x y ∧ w.inForce = speedLimit boundary x y) :
    Cached (w.observe mapId x y logFails setterFails) ∧
      (w.observe mapId x y logFails setterFails).state.manager.active = some boundary ∧
      (w.observe mapId x y logFails setterFails).passed = speedLimit boundary x y ∧
      (setterFails = false →
        (w.observe mapId x y logFails setterFails).inForce = speedLimit boundary x y) := by
  obtain ⟨hstill, hcached, hlimit, hchanged⟩ := observePose_of_active hactive hmap x y
  unfold SpeedWatch.observe
  dsimp only
  by_cases hbreak : (logFails && decide ((w.state.manager.observePose mapId x y).2.events ≠ ∅)) = true
  · rw [if_pos hbreak]
    rw [Bool.and_eq_true, decide_eq_true_iff] at hbreak
    obtain ⟨hpassed, hforce⟩ := hlog hbreak.1 hbreak.2
    refine ⟨Or.inr ⟨?_, hforce.trans hpassed.symm⟩, hstill, hpassed, fun _ => hforce⟩
    exact hcached.trans (congrArg some hpassed.symm)
  · rw [if_neg hbreak]
    unfold SpeedWatch.setLimit
    rw [hchanged, hlimit]
    by_cases hnew : some (speedLimit boundary x y) ≠ w.state.manager.lastSpeedLimit
    · rw [if_pos (decide_eq_true hnew)]
      cases setterFails with
      | true => exact ⟨Or.inl rfl, hstill, rfl, fun h => nomatch h⟩
      | false => exact ⟨Or.inr ⟨hcached, rfl⟩, hstill, rfl, fun _ => rfl⟩
    · rw [if_neg fun h => hnew (of_decide_eq_true h)]
      rw [not_not] at hnew
      -- what is remembered is what the setter was given
      rcases h with hretry | ⟨hsame, hforce⟩
      · exact nomatch hnew.trans hretry
      · have hpassed : w.passed = speedLimit boundary x y := (Option.some.inj (hnew.trans hsame)).symm
        exact ⟨Or.inr ⟨hcached.trans (congrArg some hpassed.symm), hforce⟩, hstill, hpassed,
          fun _ => hforce.trans hpassed⟩

omit [Field 𝕜] [LinearOrder 𝕜] in
theorem Cached.activateMap {w : SpeedWatch 𝕜} (h : Cached w) {mapId : String} {storeFails : Bool}
    (hset : w.state.manager.activeMapId ≠ mapId → Unlimited w) :
    Cached { w with
      state := { w.state with manager := activateMapIn mapId storeFails w.state.manager } } := by
  by_cases hsame : w.state.manager.activeMapId = mapId
  · have hmanager : activateMapIn mapId storeFails w.state.manager = w.state.manager := by
      simp [activateMapIn, NavigationBoundaryManager.activateMap, hsame]
    rw [hmanager]
    exact h
  · obtain ⟨hpassed, hforce⟩ := hset hsame
    cases storeFails with
    | true =>
      have hmanager : activateMapIn mapId true w.state.manager =
          { w.state.manager with active := none } := by
        simp [activateMapIn, hsame]
      rw [hmanager]
      exact h
    | false =>
      refine Or.inr ⟨?_, hforce.trans hpassed.symm⟩
      change (activateMapIn mapId false w.state.manager).lastSpeedLimit = some w.passed
      simp [activateMapIn, NavigationBoundaryManager.activateMap, hsame, hpassed]

theorem Cached.call {w : SpeedWatch 𝕜} (h : Cached w) {call : WatchCall 𝕜} (hset : Settled w call)
    (cos sin : 𝕜 → 𝕜) : Cached (w.call cos sin call) := by
  cases call with
  | apply fails command =>
    unfold Cached SpeedWatch.call
    rw [lastSpeedLimit_applyBoundary]
    exact h
  | activateMap mapId storeFails => exact h.activateMap hset
  | observe mapId x y logFails setterFails =>
    unfold Settled at hset
    change Cached (w.observe mapId x y logFails setterFails)
    cases hactive : w.state.manager.active with
    | none =>
      rw [observe_of_other fun boundary hsome => nomatch hactive.symm.trans hsome]
      exact h
    | some boundary =>
      rw [hactive] at hset
      dsimp only at hset
      by_cases hmap : boundary.mapId = mapId
      · rw [if_pos hmap] at hset
        exact (observe_of_active setterFails h hactive hmap hset).1
      · rw [observe_of_other fun boundary' hsome => Option.some.inj (hactive.symm.trans hsome) ▸ hmap]
        exact h

theorem limitRight_of_settled {w : SpeedWatch 𝕜} (h : Cached w) {call : WatchCall 𝕜}
    (hset : Settled w call) (cos sin : 𝕜 → 𝕜) : LimitRight cos sin w call := by
  rintro mapId x y logFails setterFails rfl
  unfold Settled at hset
  change RightLimit (w.observe mapId x y logFails setterFails).state.manager mapId x y
      (w.observe mapId x y logFails setterFails).passed ∧
    (setterFails = false → RightLimit (w.observe mapId x y logFails setterFails).state.manager mapId x y
      (w.observe mapId x y logFails setterFails).inForce)
  cases hactive : w.state.manager.active with
  | none =>
    rw [hactive] at hset
    obtain ⟨hpassed, hforce⟩ : Unlimited w := hset
    rw [observe_of_other fun boundary hsome => nomatch hactive.symm.trans hsome]
    have hnone {limit : Option 𝕜} (hlimit : limit = none) :
        RightLimit w.state.manager mapId x y limit := by
      subst hlimit
      exact fun boundary hsome => nomatch hactive.symm.trans hsome
    exact ⟨hnone hpassed, fun _ => hnone hforce⟩
  | some boundary =>
    rw [hactive] at hset
    dsimp only at hset
    by_cases hmap : boundary.mapId = mapId
    · rw [if_pos hmap] at hset
      obtain ⟨_, hstill, hpassed, hforce⟩ :=
        observe_of_active setterFails h hactive hmap hset
      have hright := rightLimit_speedLimit hstill hmap x y
      exact ⟨hpassed ▸ hright, fun hset => hforce hset ▸ hright⟩
    · rw [if_neg hmap] at hset
      have hother : ∀ boundary', w.state.manager.active = some boundary' → boundary'.mapId ≠ mapId :=
        fun boundary' hsome => Option.some.inj (hactive.symm.trans hsome) ▸ hmap
      obtain ⟨hpassed, hforce⟩ := hset
      rw [observe_of_other hother]
      have hnone {limit : Option 𝕜} (hlimit : limit = none) :
          RightLimit w.state.manager mapId x y limit := by
        subst hlimit
        exact fun boundary' hsome hsame => absurd hsame (hother boundary' hsome)
      exact ⟨hnone hpassed, fun _ => hnone hforce⟩

/-- **Every observation of a run leaves the right limit in force**, where the map does not change under a
    limit and no log fails at a change of the limit. -/
theorem run_limitRight_of_settled (cos sin : 𝕜 → 𝕜) (saved : Option (NavigationBoundary 𝕜))
    (mask : Option (Option (GridMap 𝕜))) (files : MaskFiles 𝕜) (calls : List (WatchCall 𝕜))
    (hset : Run.Always (SpeedWatch.call cos sin) Settled (SpeedWatch.start saved mask files) calls) :
    Run.Always (SpeedWatch.call cos sin) (LimitRight cos sin) (SpeedWatch.start saved mask files) calls :=
  Run.always_of_guarded Cached (fun _ _ h hset => h.call hset cos sin)
    (fun _ _ h hset => limitRight_of_settled h hset cos sin) (Or.inr ⟨rfl, rfl⟩) hset

def yard : NavigationBoundary ℚ where
  mapId := "yard"
  revision := 1
  outerPolygon := [(-8, -8), (8, -8), (8, 8), (-8, 8)]
  safetyMarginM := 0
  zones :=
    [{ zoneType := .restricted
       polygon := [(0, 0), (4, 0), (4, 4), (0, 4)]
       speedLimitMps := some (1 / 2)
       warningDistanceM := 0 }]

/-- The robot drives into the corner and out of it, the setter failing once, and leaves the yard. -/
theorem run_limitRight_in_yard :
    Run.Always (SpeedWatch.call (fun _ => 1) fun _ => 0) (LimitRight (fun _ => 1) fun _ => 0)
      (SpeedWatch.start (some yard) none {} : SpeedWatch ℚ)
      [.observe "yard" 1 1 false true, .observe "yard" 1 1 false false, .observe "yard" (-1) 1 false false,
        .activateMap "hall" false] := by
  have hyard : yard.mapId = "yard" := rfl
  refine run_limitRight_of_settled _ _ _ _ _ _ ⟨?_, ?_, ?_, ?_, trivial⟩
  · exact settled_of_active (by decide +kernel) hyard _ _ _
  · exact settled_of_active (by decide +kernel) hyard _ _ _
  · exact settled_of_active (by decide +kernel) hyard _ _ _
  · exact fun _ => ⟨by decide +kernel, by decide +kernel⟩

/-- The robot leaves the yard for a map without a boundary. -/
def leaveYard : List (WatchCall ℚ) :=
  [.observe "yard" 1 1 false false, .activateMap "hall" false, .observe "hall" 1 1 false false]

/-- The limit of the yard stays in force on the next map. -/
theorem limit_kept_on_new_map :
    ¬∀ (cos sin : ℚ → ℚ) (saved : Option (NavigationBoundary ℚ)) (mask : Option (Option (GridMap ℚ)))
      (files : MaskFiles ℚ) (calls : List (WatchCall ℚ)),
      Run.Always (SpeedWatch.call cos sin) (LimitRight cos sin) (SpeedWatch.start saved mask files) calls := by
  intro hall
  have hrun := hall (fun _ => 1) (fun _ => 0) (some yard) none {} leaveYard
  have hright := (hrun.2.2.1 "hall" 1 1 false false rfl).1
  have hstill : (Run.exec (SpeedWatch.call (fun _ => 1) fun _ => 0) (SpeedWatch.start (some yard) none {})
      leaveYard).passed = some (1 / 2) := by
    decide +kernel
  have hgone : (Run.exec (SpeedWatch.call (fun _ => 1) fun _ => 0) (SpeedWatch.start (some yard) none {})
      leaveYard).state.manager.active = none := by
    decide +kernel
  have hwrong : ∀ w : SpeedWatch ℚ, w.state.manager.active = none → w.passed = some (1 / 2) →
      ¬RightLimit w.state.manager "hall" 1 1 w.passed := by
    intro w hactive hpassed
    rw [hpassed]
    rintro ⟨boundary, hsome, _⟩
    exact nomatch hactive.symm.trans hsome
  exact hwrong _ hgone hstill hright

end BoundarySpeed

end RoamerX
