import RoamerX.PatrolLoop.Runs

set_option autoImplicit false

/-! # The life of a patrol-loop session

Whatever is called and whatever happens meanwhile, a session only goes on. -/

namespace RoamerX

/-- A view of a session, and a later one: one version is one state, each round takes a version, and what has ended does
not change. -/
structure LoopView.Later (v v' : LoopView) : Prop where
  absorbs : v.state.isTerminal = true → v' = v
  version : v.stateVersion ≤ v'.stateVersion
  unchanged : v'.stateVersion = v.stateVersion → v' = { v with observationStartedAt := v'.observationStartedAt }
  round : v.currentRound ≤ v'.currentRound
  counted : (v'.currentRound : ℤ) - v.currentRound ≤ v'.stateVersion - v.stateVersion

namespace LoopView

variable {v v' v'' : LoopView}

theorem Later.refl (v : LoopView) : Later v v := ⟨fun _ => rfl, le_refl _, fun _ => rfl, le_refl _, by simp⟩

theorem Later.trans (h : Later v v') (h' : Later v' v'') : Later v v'' where
  absorbs hended := by
    have hsame := h.absorbs hended
    rw [h'.absorbs (hsame ▸ hended), hsame]
  version := h.version.trans h'.version
  unchanged hsame := by
    have hfirst : v'.stateVersion = v.stateVersion := le_antisymm (hsame ▸ h'.version) h.version
    rw [h'.unchanged (hsame.trans hfirst.symm), h.unchanged hfirst]
  round := h.round.trans h'.round
  counted := by
    have hfirst := h.counted
    have hsecond := h'.counted
    omega

/-- A new version of a session that has not ended. -/
theorem later_of_version (hopen : v.state.isTerminal = false) (hversion : v'.stateVersion = v.stateVersion + 1)
    (hround : v'.currentRound = v.currentRound ∨ v'.currentRound = v.currentRound + 1) : Later v v' where
  absorbs hended := absurd (hopen.symm.trans hended) Bool.false_ne_true
  version := by omega
  unchanged hsame := by omega
  round := by omega
  counted := by omega

end LoopView

namespace LoopDb

open LoopView

theorem later_of_effect {a : LoopLabel} {s s' : LoopDb} (h : CallEffect a s s') : Later s.view s'.view := by
  cases h with
  | poll _ hview _ =>
    rw [hview]
    exact .refl _
  | window opened _ hstate hview _ _ =>
    rw [hview]
    exact ⟨fun hended => absurd hended (by simp [hstate, LoopState.isTerminal]), le_refl _, fun _ => rfl, le_refl _,
      by simp⟩
  | recover _ _ _ hstate _ _ _ _ _ hview _ _ =>
    rw [hview]
    exact later_of_version (by rw [hstate]; rfl) rfl (.inl rfl)
  | observe _ _ hstate _ _ hview _ =>
    rw [hview]
    exact later_of_version hstate rfl (.inl rfl)
  | settle hstate hview _ =>
    rw [hview]
    exact later_of_version (by rcases hstate with h | h <;> rw [h] <;> rfl) rfl (.inl rfl)
  | dispatch _ hstate _ _ _ _ _ hview _ =>
    rw [hview]
    exact later_of_version (by rcases hstate with h | h <;> rw [h] <;> rfl) rfl (.inr rfl)
  | rest _ _ _ hwhere hview _ =>
    rw [hview]
    exact later_of_version (by rcases hwhere with ⟨h, -⟩ | ⟨h, -⟩ | ⟨h, -⟩ <;> rw [h] <;> rfl) rfl (.inl rfl)
  | hold hstate _ hview _ =>
    rw [hview]
    exact later_of_version hstate rfl (.inl rfl)
  | stopping hstate _ hview _ =>
    rw [hview]
    exact later_of_version hstate rfl (.inl rfl)
  | finish _ _ _ hstate _ hview _ =>
    rw [hview]
    exact later_of_version hstate rfl (.inl rfl)

theorem later_step {s : LoopDb} (hi : s.Inv) (a : LoopLabel) : Later s.view (s.step a).view := by
  cases ha : a.isCall with
  | true => exact later_of_effect (step_result hi ha).effect
  | false =>
    have hview : (s.step a).view = s.view := by
      unfold view
      rw [(step_outside s ha).1]
    rw [hview]
    exact .refl _

end LoopDb

end RoamerX
