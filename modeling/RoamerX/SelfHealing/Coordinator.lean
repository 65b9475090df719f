import RoamerX.Lib.Run
import RoamerX.SelfHealing.Diagnosis
import RoamerX.SelfHealing.Store

set_option autoImplicit false

/-! # The coordinator of self healing

`SelfHealingCoordinator`: one bounded episode at a time, with its level, the actions that the latest
diagnosis allows and the one action that is under way. The coordinator remembers one action, the store
keeps a row for each. Fresh identifiers are counted. -/

namespace RoamerX

namespace SelfHealing

/-! ## State -/

/-- `SelfHealingEpisode`. -/
structure Episode where
  episodeId : Uuid
  faultLabel : Fault
  sceneMode : SceneMode
  startedMonotonic : ℚ
  currentLevel : ℕ := 0
  actionType : String := ""
  activeActionId : Option Uuid := none
  rtkStableSamples : ℕ := 0
  allowedActions : List String := []
  finished : Bool := false
  deriving DecidableEq

/-- `SelfHealingCoordinator`, with its store. -/
structure Coordinator where
  ndtFailureScore : ℚ := 2 / 5
  rtkRequiredSamples : ℕ := 3
  episode : Option Episode := none
  lastDiagnosis : Option FaultDiagnosis := none
  /-- `_action_started_monotonic`. -/
  actionStarted : List (Uuid × ℚ) := []
  store : Tables
  nextId : Uuid

structure Now where
  wall : ℕ
  monotonic : ℚ
  deriving DecidableEq

def Coordinator.current (c : Coordinator) : Option Episode := c.episode.filter fun e => !e.finished

def Coordinator.modify (c : Coordinator) (f : Episode → Episode) : Coordinator :=
  { c with episode := c.episode.map f }

def Tables.freshId (t : Tables) : Uuid :=
  ((t.episodes.map EpisodeRow.episodeId) ++ (t.actions.map ActionRow.actionId)).foldr max 0 + 1

/-- The coordinator of an Edge that has closed what an earlier one left open. -/
def Coordinator.start (t : Tables) (now : ℕ) : Coordinator where
  store := t.reconcile now
  nextId := t.freshId

/-! ## Actions -/

/-- `finish_action`; without an id it is the action under way. -/
def Coordinator.finishAction (c : Coordinator) (now : Now) (actionId : Option Uuid) (success : Bool) :
    Coordinator :=
  match actionId <|> c.episode.bind Episode.activeActionId with
  | none => c
  | some id =>
    let duration := (c.actionStarted.lookup id).map fun started => max 0 (now.monotonic - started)
    let c :=
      { c with
        actionStarted := c.actionStarted.filter fun e => decide (e.1 ≠ id)
        store := c.store.finishAction now.wall id success duration }
    c.modify fun e =>
      { e with activeActionId := if e.activeActionId = some id then none else e.activeActionId }

def Coordinator.beginAction (c : Coordinator) (now : Now) (level : ℤ) (actionType : String) :
    Coordinator :=
  match c.current with
  | none => c
  | some e =>
    let currentLevel := min 3 (max e.currentLevel level.toNat)
    { c with
      episode := some
        { e with
          currentLevel := currentLevel
          actionType := actionType
          activeActionId := some c.nextId }
      actionStarted := (c.nextId, now.monotonic) :: c.actionStarted
      store := c.store.startAction now.wall c.nextId e.episodeId currentLevel actionType
      nextId := c.nextId + 1 }

def Coordinator.advance (c : Coordinator) : Coordinator :=
  match c.current with
  | none => c
  | some e => { c with episode := some { e with currentLevel := min 3 (e.currentLevel + 1) } }

/-- `complete`; an action that is under way ends with the episode. -/
def Coordinator.complete (c : Coordinator) (now : Now) (success : Bool) : Coordinator :=
  match c.current with
  | none => c
  | some e =>
    let c := if e.activeActionId.isSome then c.finishAction now e.activeActionId success else c
    let c := c.modify fun e => { e with finished := true }
    { c with
      store := c.store.finishEpisode now.wall e.episodeId success
        (max 0 (now.monotonic - e.startedMonotonic)) }

/-! ## Diagnoses -/

structure DiagnosisCall where
  now : Now
  /-- Stripped and in lower case; a request that is empty names `nav_action_failed`. -/
  requestedFault : String
  scene : SceneMode
  evidence : Evidence
  episodeId : Option Uuid := none
  level : Option ℤ := none

/-- `SelfHealingPolicyError`. -/
inductive PolicyError
  | levelOutOfRange
  | staleEpisode
  | otherEpisode
  | newEpisodeAboveZero
  | levelJump
  deriving DecidableEq

def Coordinator.openEpisode (c : Coordinator) (r : DiagnosisCall) : Coordinator :=
  let fault := normalizeFault c.ndtFailureScore r.requestedFault r.evidence r.scene
  { c with
    episode := some
      { episodeId := c.nextId
        faultLabel := fault
        sceneMode := r.scene
        startedMonotonic := r.now.monotonic }
    store := c.store.startEpisode r.now.wall c.nextId fault.label
    nextId := c.nextId + 1 }

def DiagnosisCall.requestedLevel (r : DiagnosisCall) : ℤ := r.level.getD 0

def Coordinator.namesFinished (c : Coordinator) (r : DiagnosisCall) : Bool :=
  c.episode.any (fun e => e.finished) && r.episodeId.isSome

/-- What is refused of a diagnosis, and for which reason. -/
def Coordinator.refusal (c : Coordinator) (r : DiagnosisCall) : Option PolicyError :=
  if r.requestedLevel < 0 ∨ 3 < r.requestedLevel then some .levelOutOfRange
  else if c.namesFinished r then
    if c.episode.map Episode.episodeId = r.episodeId ∧ c.lastDiagnosis.isSome then none
    else some .staleEpisode
  else
    match c.current with
    | none => if r.requestedLevel ≠ 0 then some .newEpisodeAboveZero else none
    | some e =>
      if r.episodeId.isSome ∧ r.episodeId ≠ some e.episodeId then some .otherEpisode
      else if (e.currentLevel : ℤ) + 1 < r.requestedLevel then some .levelJump
      else none

def Coordinator.request (c : Coordinator) (r : DiagnosisCall) (e : Episode) : DiagnosisRequest where
  ndtFailureScore := c.ndtFailureScore
  requiredRtkSamples := c.rtkRequiredSamples
  episodeId := e.episodeId
  requestedFault := e.faultLabel.label
  scene := r.scene
  evidence := r.evidence
  level := if r.level.isSome then max e.currentLevel r.requestedLevel.toNat else e.currentLevel
  rtkStableSamples := if r.evidence.rtkFixed then e.rtkStableSamples + 1 else 0

def Episode.takeUp (q : DiagnosisRequest) (e : Episode) : Episode :=
  { e with
    currentLevel := q.level
    rtkStableSamples := q.rtkStableSamples
    faultLabel := q.diagnose.faultLabel
    sceneMode := q.diagnose.sceneMode
    actionType := q.diagnose.actionType
    allowedActions := SelfHealing.allowedActions q.diagnose }

/-- An open episode is diagnosed; one that has recovered is completed. -/
def Coordinator.assess (c : Coordinator) (r : DiagnosisCall) : Coordinator :=
  match c.current with
  | none => c
  | some e =>
    let q := c.request r e
    let c :=
      { c with
        episode := some (e.takeUp q)
        lastDiagnosis := some q.diagnose }
    if q.diagnose.recovered then c.complete r.now true else c

def Coordinator.diagnose (c : Coordinator) (r : DiagnosisCall) : Coordinator :=
  match c.refusal r with
  | some _ => c
  | none =>
    if c.namesFinished r then c
    else if c.current.isNone then (c.openEpisode r).assess r
    else c.assess r

/-- `authorize_action`: whether the action may start. -/
def Coordinator.authorizes (c : Coordinator) (episodeId : Uuid) (level : ℤ) (actionType : String) : Bool :=
  match c.current with
  | none => false
  | some e =>
    decide (e.episodeId = episodeId) && decide (level = e.currentLevel) &&
      e.allowedActions.contains actionType

/-! ## Runs -/

inductive CoordinatorCall
  | diagnose (r : DiagnosisCall)
  /-- The action is stripped. -/
  | authorize (episodeId : Uuid) (level : ℤ) (actionType : String)
  | beginAction (now : Now) (level : ℤ) (actionType : String)
  | finishAction (now : Now) (actionId : Option Uuid) (success : Bool)
  | advance
  | complete (now : Now) (success : Bool)

def Coordinator.call (c : Coordinator) : CoordinatorCall → Coordinator
  | .diagnose r => c.diagnose r
  | .authorize _ _ _ => c
  | .beginAction now level actionType => c.beginAction now level actionType
  | .finishAction now actionId success => c.finishAction now actionId success
  | .advance => c.advance
  | .complete now success => c.complete now success

/-! ## What a call does to the episode -/

variable {c : Coordinator}

theorem current_eq_some {e : Episode} : c.current = some e ↔ c.episode = some e ∧ e.finished = false := by
  unfold Coordinator.current
  rw [Option.filter_eq_some_iff]
  simp

theorem current_eq_none : c.current = none ↔ ∀ e, c.episode = some e → e.finished = true := by
  unfold Coordinator.current
  rw [Option.filter_eq_none_iff]
  simp

/-- What is left of the action under way when an action is finished. -/
def Episode.release (id : Uuid) (e : Episode) : Episode :=
  { e with activeActionId := if e.activeActionId = some id then none else e.activeActionId }

theorem finishAction_of_id (now : Now) {actionId : Option Uuid} (success : Bool) {id : Uuid}
    (h : (actionId <|> c.episode.bind Episode.activeActionId) = some id) :
    (c.finishAction now actionId success).episode = c.episode.map (Episode.release id) ∧
      (c.finishAction now actionId success).lastDiagnosis = c.lastDiagnosis ∧
      (c.finishAction now actionId success).nextId = c.nextId ∧
      ∃ duration, (c.finishAction now actionId success).store =
        c.store.finishAction now.wall id success duration := by
  unfold Coordinator.finishAction
  rw [h]
  exact ⟨rfl, rfl, rfl, _, rfl⟩

theorem finishAction_of_none {now : Now} {actionId : Option Uuid} {success : Bool}
    (h : (actionId <|> c.episode.bind Episode.activeActionId) = none) :
    c.finishAction now actionId success = c := by
  unfold Coordinator.finishAction
  rw [h]

theorem current_finishAction {now : Now} {actionId : Option Uuid} {success : Bool} {e' : Episode}
    (h : (c.finishAction now actionId success).current = some e') :
    ∃ e, c.current = some e ∧ e'.currentLevel = e.currentLevel ∧ e'.allowedActions = e.allowedActions := by
  cases hid : (actionId <|> c.episode.bind Episode.activeActionId) with
  | none =>
    rw [finishAction_of_none hid] at h
    exact ⟨e', h, rfl, rfl⟩
  | some id =>
    rw [current_eq_some, (finishAction_of_id now success hid).1, Option.map_eq_some_iff] at h
    obtain ⟨⟨e, hepisode, rfl⟩, hopen⟩ := h
    exact ⟨e, current_eq_some.mpr ⟨hepisode, hopen⟩, rfl, rfl⟩

theorem current_complete (c : Coordinator) (now : Now) (success : Bool) :
    (c.complete now success).current = none := by
  unfold Coordinator.complete
  cases hcurrent : c.current with
  | none => exact hcurrent
  | some e =>
    rw [current_eq_none]
    intro e' he'
    have hepisode : ∃ x : Option Episode, x.map (fun e : Episode => { e with finished := true }) = some e' :=
      ⟨_, he'⟩
    obtain ⟨x, hx⟩ := hepisode
    obtain ⟨e₀, _, rfl⟩ := Option.map_eq_some_iff.mp hx
    rfl

theorem diagnose_cases (c : Coordinator) (r : DiagnosisCall) :
    c.diagnose r = c ∨
      ((c.current = none ∧ r.requestedLevel = 0 ∧ c.diagnose r = (c.openEpisode r).assess r) ∨
        ∃ e, c.current = some e ∧ r.requestedLevel ≤ e.currentLevel + 1 ∧ r.requestedLevel ≤ 3 ∧
          c.diagnose r = c.assess r) := by
  unfold Coordinator.diagnose
  cases hrefusal : c.refusal r with
  | some error => exact Or.inl rfl
  | none =>
    unfold Coordinator.refusal at hrefusal
    by_cases hrange : r.requestedLevel < 0 ∨ 3 < r.requestedLevel
    · rw [if_pos hrange] at hrefusal
      exact nomatch hrefusal
    rw [if_neg hrange] at hrefusal
    by_cases hnamed : c.namesFinished r = true
    · exact Or.inl (if_pos hnamed)
    · rw [if_neg hnamed] at hrefusal
      right
      cases hcurrent : c.current with
      | none =>
        rw [hcurrent] at hrefusal
        dsimp only at hrefusal ⊢
        rw [if_neg hnamed, if_pos Option.isNone_none]
        split_ifs at hrefusal with hlevel
        exact Or.inl ⟨rfl, not_not.mp hlevel, rfl⟩
      | some e =>
        rw [hcurrent] at hrefusal
        dsimp only at hrefusal ⊢
        rw [if_neg hnamed, if_neg (by simp)]
        split_ifs at hrefusal with hother hjump
        refine Or.inr ⟨e, rfl, not_lt.mp hjump, ?_, rfl⟩
        rw [not_or] at hrange
        exact not_lt.mp hrange.2

theorem assess_of_current {e : Episode} (h : c.current = some e) (r : DiagnosisCall) :
    c.assess r =
      if (c.request r e).diagnose.recovered then
        ({ c with
            episode := some (e.takeUp (c.request r e))
            lastDiagnosis := some (c.request r e).diagnose } : Coordinator).complete r.now true
      else
        { c with
          episode := some (e.takeUp (c.request r e))
          lastDiagnosis := some (c.request r e).diagnose } := by
  unfold Coordinator.assess
  rw [h]

end SelfHealing

end RoamerX
