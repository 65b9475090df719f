import RoamerX.PatrolLoop.Effects

set_option autoImplicit false

/-! # Every call has one of the listed outcomes

The inversion lemmas of the patrol-loop service: each call that succeeds has an outcome of
`CallEffect`, and a poll or a battery stop of valid tables never fails where the state machine
relies on it. -/

namespace RoamerX

open CenterDb (Extends noCommand onlyCommand onlyExecution Valid)

namespace LoopDb

/-! ## The battery policy -/

/-- What `terminate_low_battery` and `observe_battery` do to a session: nothing, or end it. -/
def BatteryOutcome (s s' : LoopDb) : Prop :=
  (s'.view = s.view ∧ Extends (quiet s.view) s.center s'.center) ∨
    (s.view.state.isTerminal = false ∧
      s'.view = { s.view with
        state := .lowBatteryStopped
        stateVersion := s.view.stateVersion + 1
        manualPaused := false } ∧
      Extends ending s.center s'.center)

theorem withEpisode_view (s : LoopDb) (key : String) (p : ℤ) (source : String) :
    (s.withEpisode key p source).view = s.view := by
  unfold withEpisode
  split <;> rfl

theorem withEpisode_center (s : LoopDb) (key : String) (p : ℤ) (source : String)
    (hv : s.center.Valid) :
    (s.withEpisode key p source).center.Valid ∧
      Extends noCommand s.center (s.withEpisode key p source).center := by
  unfold withEpisode
  split
  · exact ⟨hv, Extends.refl _ _⟩
  · exact ⟨⟨hv.1, hv.2, hv.3, hv.4, hv.5, hv.6, hv.7, hv.8⟩,
      Extends.of_eq rfl rfl rfl (le_refl _) rfl rfl⟩

theorem activeExecutions_found {T : Uuid → CommandType → Prop} {db db' : CenterDb}
    (hv : db.Valid) (hext : Extends T db db') :
    ∀ e ∈ db.activeExecutions, ∃ e', db'.execution? e.id = some e' := by
  intro e he
  obtain ⟨x, hx, -⟩ := CenterDb.execution?_of_active hv (List.mem_map_of_mem he)
  obtain ⟨x', hx', -⟩ := hext.execution_grows _ x hx
  exact ⟨x', hx'⟩

theorem terminateLowBattery_ok {s s' : LoopDb} {key : String} {p : ℤ} {source : String}
    (hw : s.Wf) (h : s.terminateLowBattery key p source = .ok s') :
    s'.center.Valid ∧ BatteryOutcome s s' := by
  unfold terminateLowBattery at h
  dsimp only at h
  split at h
  · obtain rfl := Except.ok.inj h
    exact ⟨hw.valid, .inl ⟨rfl, Extends.refl _ _⟩⟩
  · obtain ⟨hv₁, hext₁⟩ := withEpisode_center s key p source hw.valid
    have hview₁ := withEpisode_view s key p source
    generalize hs₁ : s.withEpisode key p source = s₁ at h hv₁ hext₁ hview₁
    have hsession : s₁.session = s.session := by
      rw [← hs₁]
      unfold withEpisode
      split <;> rfl
    split at h
    · exact absurd h (by simp)
    · next center hforce =>
      obtain rfl := Except.ok.inj h
      split at hforce
      · -- the session is over already
        next hactive =>
        obtain ⟨hv', hext'⟩ := forceExitExecutions_ok hv₁ hforce
        have hterm : s.view.state.isTerminal = true := by
          have : s.session.state.isActive = false := hsession ▸ hactive
          simpa [LoopState.isActive, view] using this
        rw [if_pos hactive]
        refine ⟨hv', .inl ⟨hview₁, (hext₁.mono (fun _ _ hf => hf.elim)).trans (hext'.mono ?_)⟩⟩
        rintro k t ⟨rfl, -⟩
        exact .inr ⟨rfl, .inl hterm⟩
      · next hactive =>
        have hnonterm : s.view.state.isTerminal = false := by
          have : ¬ s.session.state.isActive = false := hsession ▸ hactive
          simpa [LoopState.isActive, view] using this
        rw [if_neg hactive]
        split at hforce
        · -- a docking round goes on, and its execution is spared
          next hdock =>
          obtain ⟨hv', hext'⟩ := forceExitExecutions_ok hv₁ hforce
          rw [if_pos hdock]
          refine ⟨hv', .inl ⟨hview₁, (hext₁.mono (fun _ _ hf => hf.elim)).trans (hext'.mono ?_)⟩⟩
          rintro k t ⟨rfl, hnot⟩
          refine .inr ⟨rfl, .inr fun hcur => hnot fun x hx => ?_⟩
          have hcur₁ : s₁.session.currentExecution = some k := hsession ▸ hcur
          cases he : s₁.currentExecution with
          | none => simp [he, isDockingExecution] at hdock
          | some e =>
            obtain ⟨hid, -⟩ := currentExecution_id he
            rw [hcur₁] at hid
            have hxe : x.id = e.id := hx.trans (Option.some.inj hid)
            rw [he] at hdock
            unfold isDockingExecution at hdock ⊢
            dsimp only at hdock ⊢
            rw [hxe]
            exact hdock
        · next hdock =>
          rw [if_neg hdock]
          obtain ⟨hv₂, hext₂⟩ := setState_center (s₁.withSession { s₁.session with
            manualPaused := false
            lastError := "电量 " ++ toString p ++ "% 低于巡逻阈值" })
            .lowBatteryStopped none true "LOW_BATTERY" hv₁
          obtain ⟨hv', hext'⟩ := forceExitExecutions_ok hv₂ hforce
          refine ⟨hv', .inr ⟨hnonterm, ?_, ?_⟩⟩
          · rw [view_withCenter, batteryStopped, view_setState, ← hview₁]
            rfl
          · exact (hext₁.mono (fun _ _ hf => hf.elim)).trans
              ((hext₂.mono (fun _ _ hf => hf.elim)).trans (hext'.mono (fun _ _ hk => .inr hk.1)))

theorem terminateLowBattery_succeeds {s : LoopDb} (hv : s.center.Valid) (key : String) (p : ℤ)
    (source : String) : ∃ s', s.terminateLowBattery key p source = .ok s' := by
  unfold terminateLowBattery
  dsimp only
  split
  · exact ⟨s, rfl⟩
  · obtain ⟨hv₁, -⟩ := withEpisode_center s key p source hv
    generalize s.withEpisode key p source = s₁ at hv₁ ⊢
    have hforce : ∀ s₂ : LoopDb, s₂.center.Valid → Extends noCommand s₁.center s₂.center →
        ∃ center, forceExitExecutions s₂.center s₁.center.activeExecutions = .ok center :=
      fun s₂ hv₂ hext => forceExitExecutions_succeeds hv₂ (activeExecutions_found hv₁ hext)
    split
    · next err herr =>
      split at herr
      · obtain ⟨c, hc⟩ := hforce s₁ hv₁ (Extends.refl _ _)
        simp [hc] at herr
      · split at herr
        · obtain ⟨c, hc⟩ := hforce s₁ hv₁ (Extends.refl _ _)
          simp [hc] at herr
        · obtain ⟨hv₂, hext₂⟩ := setState_center (s₁.withSession { s₁.session with
            manualPaused := false
            lastError := "电量 " ++ toString p ++ "% 低于巡逻阈值" })
            .lowBatteryStopped none true "LOW_BATTERY" hv₁
          obtain ⟨c, hc⟩ := hforce (s₁.batteryStopped p) hv₂ hext₂
          simp [hc] at herr
    · exact ⟨_, rfl⟩

theorem sampleBattery_keeps (s : LoopDb) (latest : RobotStatusLatest) (hv : s.center.Valid) :
    (s.sampleBattery latest).1.session = s.session ∧
      (s.sampleBattery latest).1.center.Valid ∧
      (s.sampleBattery latest).1.center.executions = s.center.executions ∧
      Extends noCommand s.center (s.sampleBattery latest).1.center := by
  unfold sampleBattery
  split
  · exact ⟨rfl, hv, rfl, Extends.refl _ _⟩
  · split
    · exact ⟨rfl, hv, rfl, Extends.refl _ _⟩
    · dsimp only
      split
      · exact ⟨rfl, ⟨hv.1, hv.2, hv.3, hv.4, hv.5, hv.6, hv.7, hv.8⟩, rfl,
          Extends.of_eq rfl rfl rfl (le_refl _) rfl rfl⟩
      · split
        · exact ⟨rfl, hv, rfl, Extends.refl _ _⟩
        · split
          · exact ⟨rfl, hv, rfl, Extends.refl _ _⟩
          · exact ⟨rfl, ⟨hv.1, hv.2, hv.3, hv.4, hv.5, hv.6, hv.7, hv.8⟩, rfl,
              Extends.of_eq rfl rfl rfl (le_refl _) rfl rfl⟩

theorem sampleBattery_wf {s : LoopDb} {latest : RobotStatusLatest} (hw : s.Wf) :
    (s.sampleBattery latest).1.Wf := by
  obtain ⟨hsession, hv, hexec, -⟩ := sampleBattery_keeps s latest hw.valid
  refine ⟨hv, fun x hx => ?_, fun e he n hn => ?_⟩
  · rw [hsession] at hx
    obtain ⟨e, he⟩ := hw.current x hx
    refine ⟨e, ?_⟩
    rw [CenterDb.execution?, hexec]
    exact he
  · rw [hsession] at hn ⊢
    exact hw.rounds e (hexec ▸ he) n hn

theorem observeBattery_ok {s s' : LoopDb} {latest : RobotStatusLatest} (hw : s.Wf)
    (h : s.observeBattery latest = .ok s') : s'.center.Valid ∧ BatteryOutcome s s' := by
  obtain ⟨hsession, hv, -, hext⟩ := sampleBattery_keeps s latest hw.valid
  have hview : (s.sampleBattery latest).1.view = s.view := by
    unfold view
    rw [hsession]
  unfold observeBattery at h
  split at h
  next s₁ reached hs₁ =>
  have hfst : (s.sampleBattery latest).1 = s₁ := congrArg Prod.fst hs₁
  rw [hfst] at hv hext hview
  split at h
  · split at h
    · exact absurd h (by simp)
    · next s₂ hterm =>
      obtain rfl := Except.ok.inj h
      have hw₁ : s₁.Wf := hfst ▸ sampleBattery_wf hw
      obtain ⟨hv₂, hout⟩ := terminateLowBattery_ok hw₁ hterm
      refine ⟨hv₂, ?_⟩
      rcases hout with ⟨hview₂, hext₂⟩ | ⟨hst, hview₂, hext₂⟩
      · refine .inl ⟨hview₂.trans hview, ?_⟩
        rw [hview] at hext₂
        exact (hext.mono (fun _ _ hf => hf.elim)).trans hext₂
      · rw [hview] at hst hview₂
        exact .inr ⟨hst, hview₂, (hext.mono (fun _ _ hf => hf.elim)).trans hext₂⟩
  · obtain rfl := Except.ok.inj h
    exact ⟨hv, .inl ⟨hview, hext.mono (fun _ _ hf => hf.elim)⟩⟩

theorem observeBattery_succeeds {s : LoopDb} (hw : s.Wf) (latest : RobotStatusLatest) :
    ∃ s', s.observeBattery latest = .ok s' := by
  obtain ⟨-, hv, -, -⟩ := sampleBattery_keeps s latest hw.valid
  unfold observeBattery
  split
  next s₁ reached hs₁ =>
  have hfst : (s.sampleBattery latest).1 = s₁ := congrArg Prod.fst hs₁
  rw [hfst] at hv
  split
  · obtain ⟨s₂, hs₂⟩ := terminateLowBattery_succeeds hv
      ("center-" ++ toString s.center.robot.id ++ "-" ++ toString latest.stateVersion)
      (latest.batteryPercent.getD 0) "center_telemetry"
    rw [hs₂]
    exact ⟨_, rfl⟩
  · exact ⟨_, rfl⟩

/-! ## Operator calls -/

theorem quiet_of_pause {v : LoopView} {db db' : CenterDb} {x : Uuid}
    (h : Extends (onlyCommand x .taskPause) db db') : Extends (quiet v) db db' :=
  h.mono (fun _ _ hk => .inl hk.2.1)

theorem pause_result {s s' : LoopDb} (hw : s.Wf) (h : s.pause = .ok s') :
    CallResult .pause s s' := by
  unfold pause at h
  split at h
  · exact absurd h (by simp)
  · next hactive =>
    have hstate : s.view.state.isTerminal = false := by
      simpa [LoopState.isActive, view] using hactive
    have hold : ∀ center : CenterDb, center.Valid → Extends (quiet s.view) s.center center →
        CallResult .pause s (s.withCenter center).setManuallyPaused := fun center hv hext =>
      ⟨hv, .hold hstate (fun _ => rfl) (view_setState ..) hext⟩
    split at h
    · next e he =>
      split at h
      · split at h
        · exact absurd h (by simp)
        · next center c hcreate =>
          obtain rfl := Except.ok.inj h
          obtain ⟨hv, hext⟩ := CenterDb.createCommand_valid hw.valid hcreate
          exact hold center hv (quiet_of_pause hext)
      · obtain rfl := Except.ok.inj h
        exact hold s.center hw.valid (Extends.refl _ _)
    · obtain rfl := Except.ok.inj h
      exact hold s.center hw.valid (Extends.refl _ _)

theorem valid_drawUuid {db : CenterDb} (hv : db.Valid) :
    { db with nextUuid := db.nextUuid + 1 : CenterDb }.Valid where
  execution_nodup := hv.execution_nodup
  execution_fresh := fun e he => Nat.lt_succ_of_lt (hv.execution_fresh e he)
  command_nodup := hv.command_nodup
  command_fresh := fun c hc => Nat.lt_succ_of_lt (hv.command_fresh c hc)
  command_execution := fun c hc x hx => Nat.lt_succ_of_lt (hv.command_execution c hc x hx)
  event_execution := fun ev hev => Nat.lt_succ_of_lt (hv.event_execution ev hev)
  event_version := hv.event_version
  event_message := hv.event_message

theorem extends_drawUuid (T : Uuid → CommandType → Prop) (db : CenterDb) :
    Extends T db { db with nextUuid := db.nextUuid + 1 } :=
  Extends.of_eq rfl rfl rfl (Nat.le_succ _) rfl rfl

theorem continueRecovery_result {a : LoopLabel} {s s' : LoopDb} (hw : s.Wf)
    (h : s.continueRecovery = .ok s') : CallResult a s s' := by
  unfold continueRecovery at h
  split at h
  · exact absurd h (by simp)
  · next hterm =>
    split at h
    · exact absurd h (by simp)
    · split at h
      · exact absurd h (by simp)
      · next hstopping =>
        split at h
        · exact absurd h (by simp)
        · dsimp only at h
          split at h
          · exact absurd h (by simp)
          · split at h
            · exact absurd h (by simp)
            · next e he =>
              split at h
              · exact absurd h (by simp)
              · obtain rfl := Except.ok.inj h
                refine ⟨valid_drawUuid hw.valid, .observe (some s.center.nextUuid) 0
                  (by simpa [view] using hterm) hstopping
                  (.inr ⟨rfl, s.center.nextUuid, rfl, Nat.le_refl _, Nat.lt_succ_self _⟩) ?_
                  (extends_drawUuid _ _)⟩
                rw [view_setState]
                rfl

theorem stop_result {a : LoopLabel} (ha : a ≠ .process) {s s' : LoopDb} (hw : s.Wf)
    (h : s.stop = .ok s') : CallResult a s s' := by
  unfold stop at h
  split at h
  · obtain rfl := Except.ok.inj h
    exact ⟨hw.valid, .poll (fun hp => absurd hp ha) rfl (Extends.refl _ _)⟩
  · next hterm =>
    split at h
    · exact absurd h (by simp)
    · next center hforce =>
      obtain rfl := Except.ok.inj h
      obtain ⟨hv, hext, -⟩ := forceExitExecution_ok hw.valid hforce
      obtain ⟨hv', hext'⟩ := setState_center
        ((s.withCenter center).withSession { s.session with manualPaused := false })
        .cancelled none true "OPERATOR_STOP" hv
      refine ⟨hv', .finish .cancelled false rfl (by simpa [view] using hterm)
        (fun h => absurd h (by simp)) ?_
        ((hext.mono (fun _ _ hk => .inr hk.1)).trans (hext'.mono (fun _ _ hf => hf.elim)))⟩
      exact view_setState ..

theorem terminateLowBattery_result {a : LoopLabel} {s s' : LoopDb}
    (ha : a = .process → s.view.state ≠ .observing) {key : String} {p : ℤ} {source : String}
    (hw : s.Wf) (h : s.terminateLowBattery key p source = .ok s') : CallResult a s s' := by
  obtain ⟨hv, hout⟩ := terminateLowBattery_ok hw h
  rcases hout with ⟨hview, hext⟩ | ⟨hstate, hview, hext⟩
  · exact ⟨hv, .poll ha hview hext⟩
  · exact ⟨hv, .finish .lowBatteryStopped false rfl hstate (fun h => absurd h (by simp)) hview
      hext⟩

/-! ## Branches of `process` -/

theorem ensureManualPause_result {a : LoopLabel} {s s' : LoopDb} (hw : s.Wf)
    (hstate : s.view.state ≠ .observing) (h : s.ensureManualPause = .ok s') :
    CallResult a s s' := by
  unfold ensureManualPause at h
  split at h
  · split at h
    · split at h
      · exact absurd h (by simp)
      · next center c hcreate =>
        obtain rfl := Except.ok.inj h
        obtain ⟨hv, hext⟩ := CenterDb.createCommand_valid hw.valid hcreate
        exact ⟨hv, .poll (fun _ => hstate) rfl (quiet_of_pause hext)⟩
    · obtain rfl := Except.ok.inj h
      exact ⟨hw.valid, .poll (fun _ => hstate) rfl (Extends.refl _ _)⟩
  · obtain rfl := Except.ok.inj h
    exact ⟨hw.valid, .poll (fun _ => hstate) rfl (Extends.refl _ _)⟩

theorem forceCommand_eq {s : LoopDb} (hw : s.Wf) :
    (s.currentExecution.bind fun e => latestForceExit s.center e.id) = s.currentForceExit := by
  unfold currentForceExit currentExecution
  cases hc : s.session.currentExecution with
  | none => rfl
  | some x =>
    obtain ⟨e, he⟩ := hw.current x hc
    simp [he, CenterDb.execution?_id he]

theorem processStopping_result {a : LoopLabel} {s : LoopDb} (hw : s.Wf)
    (hstate : s.view.state = .stopping) : CallResult a s s.processStopping := by
  have hpoll : CallResult a s s.reschedule :=
    ⟨hw.valid, .poll (fun _ h => absurd (hstate.symm.trans h) (by simp)) rfl (Extends.refl _ _)⟩
  have hnonterm : s.view.state.isTerminal = false := by rw [hstate]; rfl
  unfold processStopping
  dsimp only
  rw [forceCommand_eq hw]
  split
  · exact hpoll
  · split
    · split
      · split
        · obtain ⟨hv, hext⟩ := setState_center s .failed none true "ROBOT_STOP_UNCONFIRMED"
            hw.valid
          exact ⟨hv, .finish .failed s.view.manualPaused rfl hnonterm
            (fun h => absurd h (by simp)) (view_setState ..) (hext.mono (fun _ _ hf => hf.elim))⟩
        · next hstopped =>
          refine ⟨hw.valid, .rest none none 0 (.inr (.inr ⟨hstate, ?_, rfl, rfl⟩)) ?_
            (Extends.refl _ _)⟩
          · simpa [stopIsConfirmed] using hstopped
          · rw [view_setState]
            rfl
      · obtain ⟨hv, hext⟩ := setState_center s
          (if s.currentForceExit.all stopConfirmed then .completed else .failed) none true
          (if s.currentForceExit.all stopConfirmed then "LOOP_DEADLINE"
            else "ROBOT_STOP_UNCONFIRMED") hw.valid
        refine ⟨hv, .finish _ s.view.manualPaused ?_ hnonterm (fun hc => ⟨?_, fun _ => ?_⟩)
          (view_setState ..) (hext.mono (fun _ _ hf => hf.elim))⟩
        · split <;> rfl
        · exact hext.mono (fun _ _ hf => hf.elim)
        · by_contra hno
          simp only [stopIsConfirmed, Bool.not_eq_true] at hno
          simp [hno] at hc
    · exact hpoll

theorem processDeadline_result {a : LoopLabel} {s s' : LoopDb} (hw : s.Wf)
    (hnonterm : s.view.state.isTerminal = false) (hstopping : s.view.state ≠ .stopping)
    (h : s.processDeadline = .ok s') : CallResult a s s' := by
  unfold processDeadline at h
  dsimp only at h
  split at h
  · exact absurd h (by simp)
  · next center hforce =>
    obtain ⟨hv, hext, hsame⟩ := forceExitExecution_ok hw.valid hforce
    split at h
    · obtain rfl := Except.ok.inj h
      exact ⟨hv, .stopping hnonterm hstopping (view_setState ..)
        (hext.mono (fun _ _ hk => .inr hk.1))⟩
    · next hinactive =>
      obtain rfl := Except.ok.inj h
      have hcenter : center = s.center := by
        cases hcur : s.currentExecution with
        | none =>
          rw [hcur] at hforce
          exact (Except.ok.inj hforce).symm
        | some e =>
          refine hsame e hcur ?_
          simpa [hcur] using hinactive
      subst hcenter
      obtain ⟨hv', hext'⟩ := setState_center s .completed none true "LOOP_DEADLINE" hv
      exact ⟨hv', .finish .completed s.view.manualPaused rfl hnonterm
        (fun _ => ⟨hext'.mono (fun _ _ hf => hf.elim), fun hs => absurd hs hstopping⟩)
        (view_setState ..) (hext'.mono (fun _ _ hf => hf.elim))⟩

theorem processDeadline_succeeds {s : LoopDb} (hw : s.Wf) : ∃ s', s.processDeadline = .ok s' := by
  unfold processDeadline
  dsimp only
  obtain ⟨center, hcenter⟩ := forceExitExecution_succeeds hw.valid s.currentExecution
    "loop_deadline" (fun e he => ⟨e, (currentExecution_id he).2⟩)
  rw [hcenter]
  dsimp only
  split
  · exact ⟨_, rfl⟩
  · exact ⟨_, rfl⟩

theorem beginObservation_result {a : LoopLabel} {s : LoopDb} (hw : s.Wf)
    (hnonterm : s.view.state.isTerminal = false) (hstopping : s.view.state ≠ .stopping)
    (hmanual : s.view.manualPaused = false) (code message : String) :
    CallResult a s (s.beginObservation code message) := by
  unfold beginObservation
  dsimp only
  split
  · refine ⟨valid_drawUuid hw.valid, .observe (some s.center.nextUuid) 0 hnonterm hstopping
      (.inr ⟨rfl, s.center.nextUuid, rfl, Nat.le_refl _, Nat.lt_succ_self _⟩) ?_
      (extends_drawUuid _ _)⟩
    rw [view_setState]
    simp only [view, session_withSession, LoopView.mk.injEq, true_and]
    exact hmanual
  · next hkeep =>
    refine ⟨hw.valid, .observe s.view.recoveryEpisodeId s.view.recoveryAttempt hnonterm hstopping
      (.inl ⟨rfl, rfl, .inl ?_⟩) ?_ (Extends.refl _ _)⟩
    · have hsome : ¬ s.session.recoveryEpisodeId.isNone = true := fun hn => hkeep (.inl hn)
      simpa [view, Option.isSome_iff_ne_none] using hsome
    · rw [view_setState]
      simp only [view, session_withSession, LoopView.mk.injEq, true_and]
      exact hmanual

theorem findLoopExecution_none {s : LoopDb} (hw : s.Wf) :
    s.center.findLoopExecution (some s.session.id) (s.session.currentRound + 1) = none := by
  unfold CenterDb.findLoopExecution loopDispatchKey
  simp only [Option.map_some]
  rw [List.find?_eq_none]
  intro e he hkey
  have hle := hw.rounds e he (max 1 (s.session.currentRound + 1)) (by simpa using hkey)
  omega

theorem dispatchRound_result {a : LoopLabel} {s s' : LoopDb} (hw : s.Wf)
    (hstate : s.view.state = .starting ∨ s.view.state = .resting)
    (h : s.dispatchRound = .ok s') : CallResult a s s' := by
  unfold dispatchRound at h
  dsimp only at h
  split at h
  · exact absurd h (by simp)
  · next center e hround =>
    obtain rfl := Except.ok.inj h
    unfold roundExecution at hround
    rw [findLoopExecution_none hw] at hround
    dsimp only at hround
    split at hround
    · exact absurd hround (by simp)
    · next mid e' hcreate =>
      split at hround
      · exact absurd hround (by simp)
      · next center' c hstart =>
        obtain ⟨rfl, rfl⟩ := Prod.mk.inj (Except.ok.inj hround)
        obtain ⟨hvmid, hextmid, hfound⟩ := CenterDb.createExecution_valid hw.valid hcreate
        obtain ⟨hv, hext⟩ := CenterDb.createCommand_valid hvmid hstart
        obtain ⟨hid, -, -, -, hnumber, hkey, ⟨route, snapshot, -, hsnapshot, hstored⟩, -, ev, -, -, -,
          hmid⟩ := CenterDb.createExecution_ok hcreate
        refine ⟨hv, .dispatch e'.id hstate (le_of_eq hid.symm) ?_ ?_ ?_ ?_ (view_setState ..) ?_⟩
        · obtain ⟨x, hx, -⟩ := hext.execution_grows _ _ hfound
          exact ⟨x, hx⟩
        · intro x hx hxid
          rcases hext.executions_new x hx with ⟨-, -, hne⟩ | ⟨y, hy, hyid, hykey⟩
          · exact absurd rfl hne
          · rw [← hykey]
            rw [hmid] at hy
            rcases List.mem_append.mp hy with hold | hnew
            · have := hw.valid.execution_fresh y hold
              rw [hyid, hxid, hid] at this
              exact absurd this (Nat.lt_irrefl _)
            · obtain rfl := List.mem_singleton.mp hnew
              rw [hkey]
              simp [loopDispatchKey, view]
        · show center'.commandsOf e'.id .taskForceExit = []
          rw [hext.commands_eq _ _ (by simp) (by simp), hextmid.commands_eq _ _ (by simp) (by simp),
            hid]
          exact hw.valid.commandsOf_fresh (Nat.le_refl _) _
        · refine ⟨_, CenterDb.createCommand_start_payloads hstart hfound ?_, ⟨?_, rfl, ?_, rfl⟩⟩
          · rw [hmid, hid]
            exact hw.valid.commandsOf_fresh (Nat.le_refl _) _
          · show e'.routeSnapshot.waypoints = s.session.routeSnapshot.waypoints
            obtain rfl := Except.ok.inj hsnapshot
            rw [hstored]
            rfl
          · show e'.roundNumber = s.session.currentRound + 1
            rw [hnumber, Nat.max_eq_right (Nat.succ_le_succ (Nat.zero_le _))]
        · refine (hextmid.mono (fun _ _ hk => .inr hk)).trans (hext.mono ?_)
          rintro k t ⟨-, ht, hne⟩
          exact absurd ht hne

theorem processWaiting_result {a : LoopLabel} {s s' : LoopDb} (hw : s.Wf)
    (hstate : s.view.state = .starting ∨ s.view.state = .resting)
    (hmanual : s.view.manualPaused = false) (h : s.processWaiting = .ok s') :
    CallResult a s s' := by
  have hnonterm : s.view.state.isTerminal = false := by
    rcases hstate with hs | hs <;> rw [hs] <;> rfl
  have hne : s.view.state ≠ .observing := by
    rcases hstate with hs | hs <;> rw [hs] <;> simp
  have hstopping : s.view.state ≠ .stopping := by
    rcases hstate with hs | hs <;> rw [hs] <;> simp
  unfold processWaiting at h
  split at h
  · obtain rfl := Except.ok.inj h
    exact ⟨hw.valid, .poll (fun _ => hne) rfl (Extends.refl _ _)⟩
  · dsimp only at h
    split at h
    · obtain rfl := Except.ok.inj h
      exact beginObservation_result hw hnonterm hstopping hmanual _ _
    · exact dispatchRound_result hw hstate h

theorem processRunning_result {a : LoopLabel} {s s' : LoopDb} (hw : s.Wf)
    (hstate : s.view.state = .running) (hmanual : s.view.manualPaused = false)
    (h : s.processRunning = .ok s') : CallResult a s s' := by
  have hobs : ∀ code message, CallResult a s (s.beginObservation code message) :=
    beginObservation_result hw (by rw [hstate]; rfl) (by rw [hstate]; simp) hmanual
  have hne : a = .process → s.view.state ≠ .observing := fun _ => by rw [hstate]; simp
  unfold processRunning at h
  split at h
  · obtain rfl := Except.ok.inj h
    exact hobs _ _
  · split at h
    · obtain rfl := Except.ok.inj h
      refine ⟨hw.valid, .rest s.view.observationStartedAt s.view.recoveryEpisodeId 0
        (.inl ⟨hstate, rfl, rfl⟩) ?_ (Extends.refl _ _)⟩
      rw [view_setState]
      rfl
    · obtain rfl := Except.ok.inj h
      exact hobs _ _
    · obtain rfl := Except.ok.inj h
      exact hobs _ _
    all_goals first
      | (obtain rfl := Except.ok.inj h
         exact ⟨hw.valid, .poll hne rfl (Extends.refl _ _)⟩)
      | (split at h
         · exact terminateLowBattery_result hne hw h
         · obtain rfl := Except.ok.inj h
           exact hobs _ _)

theorem beginRecoveryStop_result {a : LoopLabel} {s s' : LoopDb} (hw : s.Wf)
    (hnonterm : s.view.state.isTerminal = false) (hstopping : s.view.state ≠ .stopping)
    {code : String} (h : s.beginRecoveryStop code = .ok s') : CallResult a s s' := by
  have hhold : CallResult a s (s.holdForOperator code) :=
    ⟨hw.valid, .hold hnonterm (fun hs => absurd hs hstopping) (view_setState ..)
      (Extends.refl _ _)⟩
  unfold beginRecoveryStop at h
  split at h
  · obtain rfl := Except.ok.inj h
    exact hhold
  · split at h
    · split at h
      · exact absurd h (by simp)
      · next center hforce =>
        obtain rfl := Except.ok.inj h
        obtain ⟨hv, hext, -⟩ := forceExitExecution_ok hw.valid hforce
        exact ⟨hv, .stopping hnonterm hstopping (view_setState ..)
          (hext.mono (fun _ _ hk => .inr hk.1))⟩
    · obtain rfl := Except.ok.inj h
      exact hhold

theorem beginRecoveryStop_succeeds {s : LoopDb} (hw : s.Wf) (code : String) :
    ∃ s', s.beginRecoveryStop code = .ok s' := by
  unfold beginRecoveryStop
  split
  · exact ⟨_, rfl⟩
  · next e he =>
    split
    · obtain ⟨center, hcenter⟩ := forceExitExecution_succeeds hw.valid (some e)
        "recovery_attempts_exhausted" (fun x hx => by
          obtain rfl := Option.some.inj hx
          exact ⟨e, (currentExecution_id he).2⟩)
      rw [hcenter]
      exact ⟨_, rfl⟩
    · exact ⟨_, rfl⟩

/-! ## Recovery commands -/

theorem isRecovery_type {c : RemoteCommand} {x episode : Uuid} {n : ℕ}
    (h : c.isRecovery x episode n = true) :
    c.taskExecution = some x ∧ c.commandType = .taskRecover := by
  simp only [RemoteCommand.isRecovery, Bool.and_eq_true, decide_eq_true_eq] at h
  exact h.1

theorem mem_commandsOf_of_isRecovery {db : CenterDb} {c : RemoteCommand} {x episode : Uuid}
    {n : ℕ} (hc : c ∈ db.commands) (h : c.isRecovery x episode n = true) :
    c ∈ db.commandsOf x .taskRecover := by
  obtain ⟨hx, ht⟩ := isRecovery_type h
  simp [CenterDb.commandsOf, CenterDb.commandsOfType, hc, hx, ht]

theorem mem_of_mem_commandsOf {db : CenterDb} {c : RemoteCommand} {x : Uuid} {t : CommandType}
    (h : c ∈ db.commandsOf x t) :
    c ∈ db.commands ∧ c.taskExecution = some x ∧ c.commandType = t := by
  simp only [CenterDb.commandsOf, CenterDb.commandsOfType, List.mem_filter,
    decide_eq_true_eq] at h
  exact ⟨h.1.1, h.2, h.1.2⟩

theorem createTaskRecovery_issued {db : CenterDb} (hv : db.Valid) {e : TaskExecution}
    (he : db.execution? e.id = some e) (episode : Uuid) (n : ℕ) (code message : String) :
    (db.createTaskRecovery e episode n code message).1.Valid ∧
      Extends (onlyCommand e.id .taskRecover) db
        (db.createTaskRecovery e episode n code message).1 ∧
      RecoveryIssued db (db.createTaskRecovery e episode n code message).1 e.id episode n := by
  unfold CenterDb.createTaskRecovery
  split
  · next c hc =>
    refine ⟨hv, Extends.refl _ _, c, by simpa using List.find?_some hc, .inl ⟨?_, rfl⟩⟩
    exact mem_commandsOf_of_isRecovery (List.mem_of_find?_eq_some hc)
      (by simpa using List.find?_some hc)
  · next hnone =>
    refine ⟨hv.insertCommand ?_, ?_, (db.insertCommand (some e.id) .taskRecover
      (recoveryPayload e episode n code message) taskRecoveryExpirySeconds).2, ?_,
      .inr ⟨?_, ?_⟩⟩
    · intro y hy
      obtain rfl := Option.some.inj hy
      exact hv.execution_fresh e (CenterDb.execution?_mem he)
    · exact (Extends.insertCommand ..).mono
        (fun _ _ hk => ⟨(Option.some.inj hk.1).symm, hk.2⟩)
    · simp [RemoteCommand.isRecovery, CenterDb.insertCommand, recoveryPayload]
    · intro c hc
      have := List.find?_eq_none.mp hnone c (mem_of_mem_commandsOf hc).1
      simpa using this
    · rw [CenterDb.commandsOf_insertCommand, if_pos ⟨rfl, rfl⟩]

theorem recoveryEpisode_keeps (s : LoopDb) (hv : s.center.Valid) :
    s.recoveryEpisode.2.Valid ∧ s.recoveryEpisode.2.executions = s.center.executions ∧
      Extends noCommand s.center s.recoveryEpisode.2 ∧
      ∀ episode, s.view.recoveryEpisodeId = some episode → s.recoveryEpisode = (episode, s.center) := by
  unfold recoveryEpisode
  split
  · next episode hepisode =>
    refine ⟨hv, rfl, Extends.refl _ _, fun episode' h' => ?_⟩
    rw [Option.some.inj (hepisode.symm.trans h')]
  · next hnone =>
    exact ⟨valid_drawUuid hv, rfl, extends_drawUuid _ _,
      fun episode h => absurd (hnone.symm.trans h) (by simp)⟩

theorem dispatchRecovery_result {s : LoopDb} (hw : s.Wf) {e : TaskExecution} {started : ℕ}
    (hstate : s.view.state = .observing) (hexec : s.currentExecution = some e)
    (hsafe : (observationSafety s.center).safe = true)
    (hstarted : s.view.observationStartedAt = some started)
    (hlong : started + seconds observationSeconds ≤ s.center.now)
    (hmax : s.view.recoveryAttempt < s.view.recoveryMaxAttempts) :
    CallResult .process s (s.dispatchRecovery e) := by
  obtain ⟨hcur, hfound⟩ := currentExecution_id hexec
  obtain ⟨hv₁, hexec₁, hext₁, hepisode⟩ := recoveryEpisode_keeps s hw.valid
  have hfound₁ : s.recoveryEpisode.2.execution? e.id = some e := by
    rw [CenterDb.execution?, hexec₁]
    exact hfound
  obtain ⟨hv, hext, hissued⟩ := createTaskRecovery_issued hv₁ hfound₁ s.recoveryEpisode.1
    (s.session.recoveryAttempt + 1) s.session.recoveryReasonCode s.session.recoveryReasonMessage
  refine ⟨hv, .recover e.id started rfl hstate hsafe hstarted hlong hcur hmax
    (view_setState ..) (fun episode h => ?_)
    ((hext₁.mono (fun _ _ hf => hf.elim)).trans (hext.mono (fun _ _ hk => .inr hk)))⟩
  rw [hepisode episode h] at hissued
  unfold dispatchRecovery
  rw [hepisode episode h]
  exact hissued

theorem processObserving_result {s s' : LoopDb} (hw : s.Wf)
    (hstate : s.view.state = .observing) (h : s.processObserving = .ok s') :
    CallResult .process s s' := by
  have hrest : ∀ delay : ℕ, CallResult .process s
      (s.setState .resting (some (s.center.now + seconds delay)) false "") := by
    intro delay
    refine ⟨hw.valid, .rest s.view.observationStartedAt s.view.recoveryEpisodeId
      s.view.recoveryAttempt (.inr (.inl ⟨hstate, rfl, rfl⟩)) ?_ (Extends.refl _ _)⟩
    rw [view_setState]
  have hreset : ∀ r : PatrolLoopSession,
      (s.withSession r).view = { s.view with observationStartedAt := none } →
        CallResult .process s (s.withSession r).reschedule := fun r hr =>
    ⟨hw.valid, .window none rfl hstate hr (.inl rfl) (Extends.refl _ _)⟩
  unfold processObserving at h
  dsimp only at h
  split at h
  · obtain rfl := Except.ok.inj h
    refine ⟨hw.valid, .settle (.inl hstate) ?_ (Extends.refl _ _)⟩
    rw [view_setState]
    rfl
  · split at h
    · obtain rfl := Except.ok.inj h
      unfold resetObservation
      dsimp only
      split
      · exact hreset _ rfl
      · -- an unchanged blocker: the window is closed already
        next hkeep =>
        have hnone : s.view.observationStartedAt = none := by
          cases ho : s.session.observationStartedAt with
          | none => exact ho
          | some t => exact absurd (.inl (by simp [ho])) hkeep
        refine ⟨hw.valid, .window none rfl hstate ?_ (.inl rfl) (Extends.refl _ _)⟩
        rw [← hnone]
        rfl
    · next hunsafe =>
      have hsafe : (observationSafety s.center).safe = true := by simpa using hunsafe
      split at h
      · obtain rfl := Except.ok.inj h
        exact hreset _ rfl
      · split at h
        · obtain rfl := Except.ok.inj h
          exact ⟨hw.valid, .window (some s.center.now) rfl hstate rfl (.inr ⟨hsafe, .inr rfl⟩)
            (Extends.refl _ _)⟩
        · next started hstarted =>
          split at h
          · obtain rfl := Except.ok.inj h
            exact ⟨hw.valid, .window s.view.observationStartedAt rfl hstate rfl
              (.inr ⟨hsafe, .inl rfl⟩) (Extends.refl _ _)⟩
          · next hlong =>
            split at h
            · obtain rfl := Except.ok.inj h
              exact hrest _
            · next e hexec =>
              split at h
              · obtain rfl := Except.ok.inj h
                exact hrest _
              · split at h
                · exact beginRecoveryStop_result hw (by rw [hstate]; rfl) (by rw [hstate]; simp) h
                · next hmax =>
                  obtain rfl := Except.ok.inj h
                  exact dispatchRecovery_result hw hstate hexec hsafe hstarted
                    (Nat.le_of_not_lt hlong) (Nat.lt_of_not_le hmax)

theorem processObserving_succeeds {s : LoopDb} (hw : s.Wf) :
    ∃ s', s.processObserving = .ok s' := by
  unfold processObserving
  dsimp only
  split
  · exact ⟨_, rfl⟩
  · split
    · exact ⟨_, rfl⟩
    · split
      · exact ⟨_, rfl⟩
      · split
        · exact ⟨_, rfl⟩
        · split
          · exact ⟨_, rfl⟩
          · split
            · exact ⟨_, rfl⟩
            · split
              · exact ⟨_, rfl⟩
              · split
                · exact beginRecoveryStop_succeeds hw _
                · exact ⟨_, rfl⟩

theorem processRecovering_result {a : LoopLabel} {s s' : LoopDb} (hw : s.Wf)
    (hstate : s.view.state = .recovering) (hmanual : s.view.manualPaused = false)
    (h : s.processRecovering = .ok s') : CallResult a s s' := by
  have hagain : ∀ (r : PatrolLoopSession) (code : String),
      (s.withSession r).view = s.view →
        CallResult a s ((s.withSession r).observeAgain code) := by
    intro r code hr
    refine ⟨hw.valid, .observe s.view.recoveryEpisodeId s.view.recoveryAttempt
      (by rw [hstate]; rfl) (by rw [hstate]; simp) (.inl ⟨rfl, rfl, .inr hstate⟩) ?_
      (Extends.refl _ _)⟩
    unfold observeAgain
    rw [view_setState, ← hr]
    rw [← hr] at hmanual
    simp only [view, session_withSession, LoopView.mk.injEq, true_and]
    exact hmanual
  have hpoll : ∀ r : PatrolLoopSession, (s.withSession r).view = s.view →
      CallResult a s (s.withSession r).reschedule := fun r hr =>
    ⟨hw.valid, .poll (fun _ => by rw [hstate]; simp) hr (Extends.refl _ _)⟩
  unfold processRecovering at h
  split at h
  · obtain rfl := Except.ok.inj h
    exact hagain s.session _ rfl
  · next command _ =>
    split at h
    case h_10 =>
      split at h
      · obtain rfl := Except.ok.inj h
        refine ⟨hw.valid, .settle (.inr hstate) ?_ (Extends.refl _ _)⟩
        rw [view_setState]
        rfl
      · split at h
        · obtain rfl := Except.ok.inj h
          unfold processInProgress
          dsimp only
          split
          · exact hpoll _ rfl
          · split
            · exact hpoll s.session rfl
            · exact hagain _ _ rfl
        · exact beginRecoveryStop_result hw (by rw [hstate]; rfl) (by rw [hstate]; simp) h
        · obtain rfl := Except.ok.inj h
          exact hagain s.session _ rfl
    all_goals first
      | (obtain rfl := Except.ok.inj h; exact hagain s.session _ rfl)
      | (obtain rfl := Except.ok.inj h; exact hpoll s.session rfl)

/-! ## A whole poll -/

theorem observationSafety_congr {T : Uuid → CommandType → Prop} {db db' : CenterDb}
    (hext : Extends T db db') : observationSafety db' = observationSafety db := by
  unfold observationSafety
  rw [hext.latest_eq, hext.robot_eq, hext.now_eq]

/-- A battery sample that leaves the session alone before a branch of `process` does not change
    what the branch has done. -/
theorem effect_of_battery {s s₁ s' : LoopDb} (hview₁ : s₁.view = s.view)
    (hext₁ : Extends (quiet s.view) s.center s₁.center) (hstopping : s.view.state ≠ .stopping)
    (h : CallEffect .process s₁ s') : CallEffect .process s s' := by
  have hnow := hext₁.now_eq
  have hsafety := observationSafety_congr hext₁
  have hquiet : ∀ {db : CenterDb}, Extends (quiet s.view) s₁.center db →
      Extends (quiet s.view) s.center db := fun h => hext₁.trans h
  have hending : ∀ {db : CenterDb}, Extends ending s₁.center db → Extends ending s.center db :=
    fun h => (hext₁.mono quiet_ending).trans h
  cases h with
  | poll hstate hview hext =>
    rw [hview₁] at hstate hview hext
    exact .poll hstate hview (hquiet hext)
  | window opened ha hstate hview hsafe hext =>
    rw [hview₁] at hstate hview hsafe hext
    rw [hsafety, hnow] at hsafe
    exact .window opened ha hstate hview hsafe (hquiet hext)
  | recover x started ha hstate hsafe hstarted hlong hexec hmax hview hissued hext =>
    rw [hview₁] at hstate hstarted hexec hmax hview hissued hext
    rw [hsafety] at hsafe
    rw [hnow] at hlong
    refine .recover x started ha hstate hsafe hstarted hlong hexec hmax hview
      (fun episode hep => ?_) ((hext₁.mono (fun _ _ hk => .inl hk)).trans hext)
    have hsame : s₁.center.commandsOf x .taskRecover = s.center.commandsOf x .taskRecover :=
      hext₁.commands_eq x .taskRecover (by simp) (by simp [quiet])
    obtain ⟨c, hc, hcase⟩ := hissued episode hep
    rw [hsame] at hcase
    exact ⟨c, hc, hcase⟩
  | observe episode attempt hstate hstop hepisode hview hext =>
    rw [hview₁] at hstate hstop hepisode hview hext
    refine .observe episode attempt hstate hstop ?_ hview (hquiet hext)
    rcases hepisode with hold | ⟨h0, x, hx, hle, hlt⟩
    · exact .inl hold
    · exact .inr ⟨h0, x, hx, le_trans hext₁.uuid_le hle, hlt⟩
  | settle hstate hview hext =>
    rw [hview₁] at hstate hview hext
    exact .settle hstate hview (hquiet hext)
  | dispatch x hstate hnew hfound hkey hunstopped hstart hview hext =>
    rw [hview₁] at hstate hkey hstart hview hext
    exact .dispatch x hstate (le_trans hext₁.uuid_le hnew) hfound hkey hunstopped hstart hview
      ((hext₁.mono (fun _ _ hk => .inl hk)).trans hext)
  | rest opened episode attempt hwhere hview hext =>
    rw [hview₁] at hwhere hview hext
    refine .rest opened episode attempt ?_ hview (hquiet hext)
    rcases hwhere with hrun | hobs | ⟨hstop, -⟩
    · exact .inl hrun
    · exact .inr (.inl hobs)
    · exact absurd hstop hstopping
  | hold hstate hstop hview hext =>
    rw [hview₁] at hstate hstop hview hext
    exact .hold hstate hstop hview (hquiet hext)
  | stopping hstate hstop hview hext =>
    rw [hview₁] at hstate hstop hview
    exact .stopping hstate hstop hview (hending hext)
  | finish st paused hterminal hstate hcompleted hview hext =>
    rw [hview₁] at hstate hcompleted hview
    exact .finish st paused hterminal hstate
      (fun hc => ⟨hquiet (hcompleted hc).1, fun hs => absurd hs hstopping⟩) hview (hending hext)

theorem Wf.of_battery {s s₁ : LoopDb} (hw : s.Wf) (hv : s₁.center.Valid)
    (hview : s₁.view = s.view) (hext : Extends (quiet s.view) s.center s₁.center) : s₁.Wf := by
  have hcur : s₁.session.currentExecution = s.session.currentExecution :=
    congrArg LoopView.currentExecution hview
  have hid : s₁.session.id = s.session.id := congrArg LoopView.id hview
  have hround : s₁.session.currentRound = s.session.currentRound :=
    congrArg LoopView.currentRound hview
  refine ⟨hv, fun x hx => ?_, fun e' he' n hn => ?_⟩
  · rw [hcur] at hx
    obtain ⟨e, he⟩ := hw.current x hx
    obtain ⟨e', he', -⟩ := hext.execution_grows x e he
    exact ⟨e', he'⟩
  · rw [hid] at hn
    rw [hround]
    rcases hext.executions_new e' he' with hq | ⟨e, he, -, hkey⟩
    · exact absurd hq (by simp [quiet])
    · exact hw.rounds e he n (hkey.trans hn)

theorem processState_result {s s' : LoopDb} (hw : s.Wf)
    (hmanual : s.view.manualPaused = false) (h : s.processState = .ok s') :
    CallResult .process s s' := by
  unfold processState at h
  split at h
  · next hs => exact processWaiting_result hw (.inl hs) hmanual h
  · next hs => exact processWaiting_result hw (.inr hs) hmanual h
  · next hs => exact processRunning_result hw hs hmanual h
  · next hs => exact processObserving_result hw hs h
  · next hs => exact processRecovering_result hw hs hmanual h
  · next hobs _ =>
    obtain rfl := Except.ok.inj h
    exact ⟨hw.valid, .poll (fun _ => hobs) rfl (Extends.refl _ _)⟩

/-- **A poll.** Every `process` that succeeds has one of the outcomes, provided a session under
    observation is not held. -/
theorem process_result {s s' : LoopDb} (hw : s.Wf)
    (hheld : s.view.state = .observing → s.view.manualPaused = false)
    (h : s.process = .ok s') : CallResult .process s s' := by
  unfold process at h
  split at h
  · next hterm =>
    obtain rfl := Except.ok.inj h
    refine ⟨hw.valid, .poll (fun _ hs => ?_) rfl (Extends.refl _ _)⟩
    have hs' : s.session.state = .observing := hs
    rw [hs'] at hterm
    exact absurd hterm (by simp [LoopState.isTerminal])
  · next hterm =>
    have hnonterm : s.view.state.isTerminal = false := by simpa [view] using hterm
    split at h
    · next hstop =>
      obtain rfl := Except.ok.inj h
      exact processStopping_result hw hstop
    · next hstop =>
      split at h
      · exact processDeadline_result hw hnonterm hstop h
      · split at h
        · next hmp =>
          refine ensureManualPause_result hw (fun hs => ?_) h
          rcases hmp with hmp | hpaused
          · exact absurd (hheld hs) (by simp [view, hmp])
          · exact absurd (hs.symm.trans hpaused) (by simp)
        · next hmp =>
          have hmanual : s.view.manualPaused = false := by
            have := fun hm => hmp (.inl hm)
            simpa [view] using this
          split at h
          · exact processState_result hw hmanual h
          · split at h
            · exact absurd h (by simp)
            · next s₁ hbattery =>
              obtain ⟨hv₁, hout⟩ := observeBattery_ok hw hbattery
              rcases hout with ⟨hview₁, hext₁⟩ | ⟨hst, hview₁, hext₁⟩
              · have hnot : ¬ s₁.session.state.isTerminal = true := by
                  have hst : s₁.session.state = s.session.state := congrArg LoopView.state hview₁
                  rw [hst]
                  exact hterm
                rw [if_neg hnot] at h
                obtain ⟨hv', heff⟩ := processState_result (hw.of_battery hv₁ hview₁ hext₁)
                  (by rw [hview₁]; exact hmanual) h
                exact ⟨hv', effect_of_battery hview₁ hext₁ hstop heff⟩
              · have hyes : s₁.session.state.isTerminal = true := by
                  have hst : s₁.session.state = .lowBatteryStopped :=
                    congrArg LoopView.state hview₁
                  rw [hst]
                  rfl
                rw [if_pos hyes] at h
                obtain rfl := Except.ok.inj h
                exact ⟨hv₁, .finish .lowBatteryStopped false rfl hst
                  (fun hc => absurd hc (by simp)) hview₁ hext₁⟩

theorem process_observing_succeeds {s : LoopDb} (hw : s.Wf)
    (hstate : s.view.state = .observing) (hmanual : s.view.manualPaused = false) :
    ∃ s', s.process = .ok s' := by
  have hstate' : s.session.state = .observing := hstate
  unfold process
  rw [if_neg (by rw [hstate']; simp [LoopState.isTerminal]), if_neg (by rw [hstate']; simp)]
  split
  · exact processDeadline_succeeds hw
  · split
    · next hmp =>
      rcases hmp with hmp | hpaused
      · exact absurd hmanual (by simp [view, hmp])
      · exact absurd (hstate'.symm.trans hpaused) (by simp)
    · split
      · unfold processState
        rw [hstate']
        exact processObserving_succeeds hw
      · next latest _ =>
        obtain ⟨s₁, hs₁⟩ := observeBattery_succeeds hw latest
        rw [hs₁]
        dsimp only
        split
        · exact ⟨_, rfl⟩
        · obtain ⟨hv₁, hout⟩ := observeBattery_ok hw hs₁
          rcases hout with ⟨hview₁, hext₁⟩ | ⟨-, hview₁, -⟩
          · unfold processState
            have hst : s₁.session.state = .observing :=
              (congrArg LoopView.state hview₁).trans hstate
            rw [hst]
            exact processObserving_succeeds (hw.of_battery hv₁ hview₁ hext₁)
          · next hnot =>
            have hst : s₁.session.state = .lowBatteryStopped := congrArg LoopView.state hview₁
            rw [hst] at hnot
            exact absurd rfl hnot

end LoopDb

end RoamerX
