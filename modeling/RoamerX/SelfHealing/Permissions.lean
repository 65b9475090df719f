import RoamerX.SelfHealing.Coordinator

set_option autoImplicit false

/-! # What the coordinator permits

The set of permitted actions is stored with the diagnosis that computed it, and the level is changed by
other calls too. The set is always that of the latest diagnosis; it is that of the level where the level
has not been changed since. -/

namespace RoamerX

namespace SelfHealing

/-- The open episode permits what the latest diagnosis does. -/
def Diagnosed (c : Coordinator) : Prop :=
  ∀ e, c.current = some e →
    ∃ q : DiagnosisRequest, c.lastDiagnosis = some q.diagnose ∧ e.allowedActions = allowedActions q.diagnose

theorem diagnosed_start (t : Tables) (now : ℕ) : Diagnosed (Coordinator.start t now) := by
  intro e h
  exact nomatch h

def Coordinator.level (c : Coordinator) : ℕ := (c.current.map Episode.currentLevel).getD 0

theorem level_of_current {c : Coordinator} {e : Episode} (h : c.current = some e) :
    c.level = e.currentLevel := by
  rw [Coordinator.level, h]
  rfl

variable {c : Coordinator}

theorem current_assess {e e' : Episode} {r : DiagnosisCall} (h : c.current = some e)
    (h' : (c.assess r).current = some e') :
    (c.assess r).lastDiagnosis = some (c.request r e).diagnose ∧ e' = e.takeUp (c.request r e) := by
  rw [assess_of_current h] at h' ⊢
  by_cases hrecovered : (c.request r e).diagnose.recovered = true
  · rw [if_pos hrecovered, current_complete] at h'
    exact nomatch h'
  · rw [if_neg hrecovered] at h' ⊢
    exact ⟨rfl, (Option.some.inj (current_eq_some.mp h').1).symm⟩

theorem current_openEpisode (c : Coordinator) (r : DiagnosisCall) :
    ∃ e, (c.openEpisode r).current = some e ∧ e.currentLevel = 0 :=
  ⟨_, rfl, rfl⟩

theorem current_diagnose {e' : Episode} {r : DiagnosisCall} (h : (c.diagnose r).current = some e') :
    c.diagnose r = c ∨
      ∃ q : DiagnosisRequest, (c.diagnose r).lastDiagnosis = some q.diagnose ∧
        e'.allowedActions = allowedActions q.diagnose ∧ e'.currentLevel ≤ c.level + 1 := by
  rcases diagnose_cases c r with hsame | ⟨hnone, hzero, hnew⟩ | ⟨e, hcurrent, hjump, _, hassessed⟩
  · exact Or.inl hsame
  · rw [hnew] at h ⊢
    obtain ⟨e, hopen, hlevel⟩ := current_openEpisode c r
    obtain ⟨hdiagnosis, rfl⟩ := current_assess hopen h
    refine Or.inr ⟨_, hdiagnosis, rfl, ?_⟩
    change (if r.level.isSome then max e.currentLevel r.requestedLevel.toNat else e.currentLevel) ≤ _
    rw [hlevel, hzero]
    split_ifs <;> omega
  · rw [hassessed] at h ⊢
    obtain ⟨hdiagnosis, rfl⟩ := current_assess hcurrent h
    refine Or.inr ⟨_, hdiagnosis, rfl, ?_⟩
    change (if r.level.isSome then max e.currentLevel r.requestedLevel.toNat else e.currentLevel) ≤ _
    rw [level_of_current hcurrent]
    split_ifs <;> omega

theorem Diagnosed.call (h : Diagnosed c) (call : CoordinatorCall) : Diagnosed (c.call call) := by
  intro e' he'
  cases call with
  | diagnose r =>
    rcases current_diagnose he' with hsame | ⟨q, hdiagnosis, hallowed, _⟩
    · change (c.diagnose r).current = some e' at he'
      change ∃ q : DiagnosisRequest, (c.diagnose r).lastDiagnosis = some q.diagnose ∧ _
      rw [hsame] at he' ⊢
      exact h e' he'
    · exact ⟨q, hdiagnosis, hallowed⟩
  | authorize episodeId level actionType => exact h e' he'
  | beginAction now level actionType =>
    change (c.beginAction now level actionType).current = some e' at he'
    change ∃ q : DiagnosisRequest, (c.beginAction now level actionType).lastDiagnosis = some q.diagnose ∧ _
    unfold Coordinator.beginAction at he' ⊢
    cases hcurrent : c.current with
    | none =>
      rw [hcurrent] at he'
      exact h e' he'
    | some e =>
      rw [hcurrent] at he'
      obtain ⟨rfl, _⟩ := current_eq_some.mp he' |>.imp_left Option.some.inj
      exact h e hcurrent
  | finishAction now actionId success =>
    obtain ⟨e, hcurrent, _, hallowed⟩ := current_finishAction he'
    obtain ⟨q, hdiagnosis, hpermitted⟩ := h e hcurrent
    refine ⟨q, ?_, hallowed.trans hpermitted⟩
    rw [← hdiagnosis]
    change (c.finishAction now actionId success).lastDiagnosis = c.lastDiagnosis
    cases hid : (actionId <|> c.episode.bind Episode.activeActionId) with
    | none => rw [finishAction_of_none hid]
    | some id => exact (finishAction_of_id _ _ hid).2.1
  | advance =>
    change c.advance.current = some e' at he'
    change ∃ q : DiagnosisRequest, c.advance.lastDiagnosis = some q.diagnose ∧ _
    unfold Coordinator.advance at he' ⊢
    cases hcurrent : c.current with
    | none =>
      rw [hcurrent] at he'
      exact h e' he'
    | some e =>
      rw [hcurrent] at he'
      obtain ⟨rfl, _⟩ := current_eq_some.mp he' |>.imp_left Option.some.inj
      exact h e hcurrent
  | complete now success =>
    exact nomatch (current_complete c now success).symm.trans he'

/-! ## Levels and authorizations -/

structure Permitted (c : Coordinator) (call : CoordinatorCall) : Prop where
  /-- What is authorized is permitted by the latest diagnosis, for the level there is. -/
  authorized : ∀ episodeId level actionType, call = .authorize episodeId level actionType →
    c.authorizes episodeId level actionType = true →
    ∃ d, c.lastDiagnosis = some d ∧ actionType ∈ allowedActions d ∧ d.level = c.level
  /-- No level is skipped. -/
  level : (c.call call).level ≤ c.level + 1
  /-- No spin is authorized that the latest diagnosis forbids. -/
  spin : ∀ episodeId level d, call = .authorize episodeId level "adaptive_spin" →
    c.lastDiagnosis = some d → d.forbidSpin = true → c.authorizes episodeId level "adaptive_spin" = false

/-- An action that the latest diagnosis permits is asked for at the level of that diagnosis, and an action
    begins at most one level up. -/
def InOrder (c : Coordinator) : CoordinatorCall → Prop
  | .authorize episodeId level actionType =>
    ∀ e d, c.current = some e → e.episodeId = episodeId → level = e.currentLevel →
      c.lastDiagnosis = some d → actionType ∈ allowedActions d → d.level = e.currentLevel
  | .beginAction _ level _ => ∀ e, c.current = some e → min 3 level.toNat ≤ e.currentLevel + 1
  | _ => True

theorem authorizes_iff {episodeId : Uuid} {level : ℤ} {actionType : String} :
    c.authorizes episodeId level actionType = true ↔
      ∃ e, c.current = some e ∧ e.episodeId = episodeId ∧ level = e.currentLevel ∧
        actionType ∈ e.allowedActions := by
  unfold Coordinator.authorizes
  cases c.current with
  | none => simp
  | some e => simp [and_assoc]

theorem not_authorizes_spin (h : Diagnosed c) {episodeId : Uuid} {level : ℤ} {d : FaultDiagnosis}
    (hlast : c.lastDiagnosis = some d) (hforbid : d.forbidSpin = true) :
    c.authorizes episodeId level "adaptive_spin" = false := by
  rw [← Bool.not_eq_true, authorizes_iff]
  rintro ⟨e, hcurrent, _, _, hallowed⟩
  obtain ⟨q, hdiagnosis, hpermitted⟩ := h e hcurrent
  obtain rfl := Option.some.inj (hlast.symm.trans hdiagnosis)
  rw [hpermitted] at hallowed
  rw [forbidSpin_of_allowed q hallowed] at hforbid
  exact absurd hforbid (by decide)

theorem level_call (call : CoordinatorCall) (hbegin : ∀ now level actionType,
    call ≠ .beginAction now level actionType) : (c.call call).level ≤ c.level + 1 := by
  cases hafter : (c.call call).current with
  | none =>
    rw [Coordinator.level, hafter]
    exact Nat.zero_le _
  | some e' =>
    rw [level_of_current hafter]
    cases call with
    | diagnose r =>
      rcases current_diagnose hafter with hsame | ⟨_, _, _, hlevel⟩
      · change (c.diagnose r).current = some e' at hafter
        rw [hsame] at hafter
        rw [level_of_current hafter]
        exact Nat.le_succ _
      · exact hlevel
    | authorize episodeId level actionType =>
      change c.current = some e' at hafter
      rw [level_of_current hafter]
      exact Nat.le_succ _
    | beginAction now level actionType => exact absurd rfl (hbegin now level actionType)
    | finishAction now actionId success =>
      obtain ⟨e, hcurrent, hlevel, _⟩ := current_finishAction hafter
      rw [hlevel, level_of_current hcurrent]
      exact Nat.le_succ _
    | advance =>
      change c.advance.current = some e' at hafter
      unfold Coordinator.advance at hafter
      cases hcurrent : c.current with
      | none =>
        rw [hcurrent] at hafter
        exact nomatch hcurrent.symm.trans hafter
      | some e =>
        rw [hcurrent] at hafter
        obtain ⟨rfl, _⟩ := current_eq_some.mp hafter |>.imp_left Option.some.inj
        rw [level_of_current hcurrent]
        exact min_le_right _ _
    | complete now success => exact nomatch (current_complete c now success).symm.trans hafter

theorem level_beginAction {e : Episode} (h : c.current = some e) (now : Now) (level : ℤ)
    (actionType : String) :
    (c.beginAction now level actionType).level = min 3 (max e.currentLevel level.toNat) := by
  have hopen := (current_eq_some.mp h).2
  unfold Coordinator.beginAction
  rw [h]
  refine level_of_current (e := { e with
    currentLevel := min 3 (max e.currentLevel level.toNat)
    actionType := actionType
    activeActionId := some c.nextId }) ?_
  exact current_eq_some.mpr ⟨rfl, hopen⟩

theorem permitted_iff_inOrder (h : Diagnosed c) (call : CoordinatorCall) :
    Permitted c call ↔ InOrder c call := by
  have hspin : ∀ episodeId level d, call = .authorize episodeId level "adaptive_spin" →
      c.lastDiagnosis = some d → d.forbidSpin = true →
      c.authorizes episodeId level "adaptive_spin" = false :=
    fun _ _ _ _ hlast hforbid => not_authorizes_spin h hlast hforbid
  cases call with
  | authorize episodeId level actionType =>
    constructor
    · intro hpermitted e d hcurrent hepisode hlevel hlast hallowed
      obtain ⟨q, hdiagnosis, hallowedActions⟩ := h e hcurrent
      obtain rfl := Option.some.inj (hlast.symm.trans hdiagnosis)
      have hgranted := authorizes_iff.mpr ⟨e, hcurrent, hepisode, hlevel, hallowedActions ▸ hallowed⟩
      obtain ⟨d, hd, _, hsame⟩ := hpermitted.authorized episodeId level actionType rfl hgranted
      obtain rfl := Option.some.inj (hlast.symm.trans hd)
      rw [hsame, level_of_current hcurrent]
    · intro horder
      refine ⟨?_, level_call _ (by simp), hspin⟩
      rintro _ _ _ ⟨⟩ hgranted
      obtain ⟨e, hcurrent, hepisode, hlevel, hallowed⟩ := authorizes_iff.mp hgranted
      obtain ⟨q, hdiagnosis, hallowedActions⟩ := h e hcurrent
      rw [hallowedActions] at hallowed
      refine ⟨_, hdiagnosis, hallowed, ?_⟩
      rw [level_of_current hcurrent]
      exact horder e _ hcurrent hepisode hlevel hdiagnosis hallowed
  | beginAction now level actionType =>
    have hnone : ∀ episodeId l a, CoordinatorCall.beginAction now level actionType =
        .authorize episodeId l a → c.authorizes episodeId l a = true →
        ∃ d, c.lastDiagnosis = some d ∧ a ∈ allowedActions d ∧ d.level = c.level :=
      fun _ _ _ hcall => nomatch hcall
    constructor
    · intro hpermitted e hcurrent
      have hlevel := hpermitted.level
      change (c.beginAction now level actionType).level ≤ c.level + 1 at hlevel
      rw [level_beginAction hcurrent, level_of_current hcurrent] at hlevel
      omega
    · intro horder
      refine ⟨hnone, ?_, hspin⟩
      change (c.beginAction now level actionType).level ≤ c.level + 1
      cases hcurrent : c.current with
      | none =>
        unfold Coordinator.beginAction
        rw [hcurrent]
        exact Nat.le_succ _
      | some e =>
        have hstep := horder e hcurrent
        rw [level_beginAction hcurrent, level_of_current hcurrent]
        omega
  | diagnose r => exact iff_of_true ⟨(fun _ _ _ hcall => nomatch hcall), level_call _ (by simp), hspin⟩ trivial
  | finishAction now actionId success =>
    exact iff_of_true ⟨(fun _ _ _ hcall => nomatch hcall), level_call _ (by simp), hspin⟩ trivial
  | advance => exact iff_of_true ⟨(fun _ _ _ hcall => nomatch hcall), level_call _ (by simp), hspin⟩ trivial
  | complete now success =>
    exact iff_of_true ⟨(fun _ _ _ hcall => nomatch hcall), level_call _ (by simp), hspin⟩ trivial

/-- **A run keeps within the diagnoses exactly where its calls are in order**: what is authorized is
    permitted for the level there is, no level is skipped, and no spin is authorized that is forbidden. -/
theorem run_permitted_iff_inOrder (t : Tables) (now : ℕ) (calls : List CoordinatorCall) :
    Run.Always Coordinator.call Permitted (Coordinator.start t now) calls ↔
      Run.Always Coordinator.call InOrder (Coordinator.start t now) calls :=
  Run.always_iff_of_invariant Diagnosed (fun _ call h => h.call call)
    (fun _ call h => permitted_iff_inOrder h call) (diagnosed_start t now) calls

/-- An action of the first level is authorized at the second, which an advance has reached since. -/
theorem advanced_unassessed :
    ¬∀ (t : Tables) (now : ℕ) (calls : List CoordinatorCall),
      Run.Always Coordinator.call Permitted (Coordinator.start t now) calls := by
  intro hall
  have hrun := hall Tables.empty 0
    [.diagnose { now := ⟨0, 0⟩, requestedFault := "nav_stuck", scene := .indoor, evidence := {} },
      .advance, .authorize 1 1 "observe_and_clear"]
  obtain ⟨d, hlast, _, hlevel⟩ := hrun.2.2.1.authorized 1 1 "observe_and_clear" rfl (by decide +kernel)
  have hlevels := (congrArg (Option.map FaultDiagnosis.level) hlast).trans (congrArg some hlevel)
  revert hlevels
  decide +kernel

end SelfHealing

end RoamerX
