import RoamerX.Lib.Run
import RoamerX.Localization.CorrectionPolicy

set_option autoImplicit false

/-! # RTK as the primary source

`updateRtkAutoPrimary` latches RTK as the continuous source on a run of good frames, and only where the robot does not
move. The permission of a leg's policy holds only while the leg moves, so at the stop that the latch waits for it is
gone and the frames are forgotten. -/

namespace RoamerX

namespace RtkAutoPrimary

open Localization Run

/-- The parameters. The constructor clears `prefer_fixed_rtk_`, whatever its parameter says. -/
structure Config where
  preferFixedRtk : Bool
  sourceArbiterEnable : Bool
  promoteSamples : ℤ
  demoteSamples : ℤ
  handoffSuppressNs : ℤ
  deriving DecidableEq

structure RtkPrimaryLatchState where
  latched : Bool := false
  goodFrames : ℤ := 0
  badFrames : ℤ := 0
  deriving DecidableEq

def updateRtkPrimaryLatch (state : RtkPrimaryLatchState) (promoteSamples demoteSamples : ℤ) (good moving : Bool) :
    RtkPrimaryLatchState :=
  let promoteSamples := max 1 promoteSamples
  let demoteSamples := max 1 demoteSamples
  if good then
    let goodFrames := min (state.goodFrames + 1) promoteSamples
    { latched := state.latched || (decide (promoteSamples ≤ goodFrames) && !moving)
      goodFrames := goodFrames
      badFrames := 0 }
  else
    let badFrames := min (state.badFrames + 1) demoteSamples
    { latched := state.latched && !decide (demoteSamples ≤ badFrames)
      goodFrames := 0
      badFrames := badFrames }

/-- What `RtkObservation` says of the quality. -/
structure RtkObservation where
  usable : Bool
  headingUsable : Bool
  quality : String
  deriving DecidableEq

def rtkGoodForNavigation (observation : RtkObservation) : Bool :=
  observation.usable && decide (observation.quality = "fixed") && observation.headingUsable

variable {P F : Type}

/-- The latch, and what is reset when it falls. -/
structure State (P F : Type) where
  latch : RtkPrimaryLatchState := {}
  handoffSuppressUntilNs : ℤ := 0
  anomalyActive : Bool := false
  anchor : LioAnchor P F := {}

/-- An update: the frame's observation, the policy, the clock, and what the rest of the node has made of the anchor. -/
structure Call (P F : Type) where
  observation : RtkObservation
  policy : Policy
  steadyNowNs : ℤ
  anomalyActive : Bool
  anchor : LioAnchor P F

/-- `suppressLioMotionAnomalyForRtkHandoff`: the anchor is reset either way, and an anomaly is over. -/
def suppressLioMotionAnomaly (config : Config) (steadyNowNs : ℤ) (s : State P F) : State P F :=
  { s with
    handoffSuppressUntilNs := steadyNowNs + max 0 config.handoffSuppressNs
    anomalyActive := false
    anchor := s.anchor.reset }

def permitted (config : Config) (policy : Policy) : Bool :=
  (config.preferFixedRtk || policy.rtkPrimaryAllowed) && config.sourceArbiterEnable

/-- The latch after an update; without the permission it is off and nothing is counted. -/
def next (config : Config) (latch : RtkPrimaryLatchState) (call : Call P F) : RtkPrimaryLatchState :=
  if permitted config call.policy then
    updateRtkPrimaryLatch latch config.promoteSamples config.demoteSamples
      (rtkGoodForNavigation call.observation) call.policy.moving
  else {}

/-- `updateRtkAutoPrimary`. -/
def update (config : Config) (s : State P F) (call : Call P F) : State P F :=
  let s := { s with anomalyActive := call.anomalyActive, anchor := call.anchor }
  let latch := next config s.latch call
  if s.latch.latched && !latch.latched then
    suppressLioMotionAnomaly config call.steadyNowNs { s with latch := latch }
  else { s with latch := latch }

def run (config : Config) (calls : List (Call P F)) : State P F := exec (update config) {} calls

/-! ## What the latch rests on -/

/-- A good frame while RTK may be primary. -/
def Good (config : Config) (call : Call P F) : Prop :=
  permitted config call.policy = true ∧ rtkGoodForNavigation call.observation = true

def Bad (config : Config) (call : Call P F) : Prop :=
  permitted config call.policy = true ∧ rtkGoodForNavigation call.observation = false

/-- The calls end with `samples` calls of a kind. -/
def EndsWith (kind : Call P F → Prop) (samples : ℤ) (calls : List (Call P F)) : Prop :=
  ∃ before block, calls = before ++ block ∧ samples ≤ block.length ∧ ∀ call ∈ block, kind call

/-- The latch turns on with the last call. -/
def TurnsOn (config : Config) (before : List (Call P F)) (call : Call P F) : Prop :=
  (run config before).latch.latched = false ∧ (run config (before ++ [call])).latch.latched = true

def TurnsOff (config : Config) (before : List (Call P F)) (call : Call P F) : Prop :=
  (run config before).latch.latched = true ∧ (run config (before ++ [call])).latch.latched = false

/-- **RTK becomes and stays primary only on sustained evidence**, and does become it after a leg whose policy permits it:
the next message asks for the same at a stop. -/
structure Sustained (P F : Type) (config : Config) : Prop where
  turnsOn : ∀ (before : List (Call P F)) (call : Call P F), TurnsOn config before call →
    Good config call ∧ call.policy.moving = false ∧ EndsWith (Good config) config.promoteSamples (before ++ [call])
  turnsOff : ∀ (before : List (Call P F)) (call : Call P F), TurnsOff config before call →
    permitted config call.policy = false ∨ EndsWith (Bad config) config.demoteSamples (before ++ [call])
  handsOver : ∀ (before : List (Call P F)) (call : Call P F), TurnsOff config before call →
    (run config (before ++ [call])).anchor = call.anchor.reset ∧
      (run config (before ++ [call])).handoffSuppressUntilNs = call.steadyNowNs + max 0 config.handoffSuppressNs
  promotes : ∀ (before leg : List (Call P F)) (last : Call P F) (command command' : String),
    (readPolicy command).policy.rtkPrimaryAllowed = true →
    readPolicy command' = { readPolicy command with moving := false } →
    config.promoteSamples ≤ leg.length →
    (∀ call ∈ leg, call.policy = (readPolicy command).policy ∧ rtkGoodForNavigation call.observation = true) →
    last.policy = (readPolicy command').policy → rtkGoodForNavigation last.observation = true →
    (run config (before ++ leg ++ [last])).latch.latched = true

/-- The counters count no more than the calls show, and `goodFrames` is not negative. -/
structure Inv (config : Config) (calls : List (Call P F)) (s : State P F) : Prop where
  good : EndsWith (Good config) s.latch.goodFrames calls
  bad : EndsWith (Bad config) s.latch.badFrames calls
  nonneg : 0 ≤ s.latch.goodFrames

variable {config : Config} {calls : List (Call P F)} {call : Call P F} {s : State P F}

theorem EndsWith.zero (kind : Call P F → Prop) (calls : List (Call P F)) : EndsWith kind 0 calls :=
  ⟨calls, [], (List.append_nil calls).symm, le_rfl, by simp⟩

theorem EndsWith.succ {kind : Call P F → Prop} {samples : ℤ} (h : EndsWith kind samples calls) (hcall : kind call) :
    EndsWith kind (samples + 1) (calls ++ [call]) := by
  obtain ⟨before, block, rfl, hlength, hblock⟩ := h
  refine ⟨before, block ++ [call], by rw [List.append_assoc], ?_, ?_⟩
  · rw [List.length_append, List.length_singleton]
    push_cast
    omega
  · intro other hother
    rcases List.mem_append.mp hother with hold | hnew
    · exact hblock other hold
    · rw [List.mem_singleton.mp hnew]
      exact hcall

theorem EndsWith.mono {kind : Call P F → Prop} {samples samples' : ℤ} (h : EndsWith kind samples calls)
    (hle : samples' ≤ samples) : EndsWith kind samples' calls := by
  obtain ⟨before, block, hcalls, hlength, hblock⟩ := h
  exact ⟨before, block, hcalls, hle.trans hlength, hblock⟩

@[simp] theorem latch_update : (update config s call).latch = next config s.latch call := by
  unfold update
  dsimp only
  split <;> rfl

theorem next_cases (config : Config) (latch : RtkPrimaryLatchState) (call : Call P F) :
    (permitted config call.policy = false ∧ next config latch call = {}) ∨
    (Good config call ∧ next config latch call =
      { latched := latch.latched ||
          (decide (max 1 config.promoteSamples ≤ min (latch.goodFrames + 1) (max 1 config.promoteSamples)) &&
            !call.policy.moving)
        goodFrames := min (latch.goodFrames + 1) (max 1 config.promoteSamples)
        badFrames := 0 }) ∨
    (Bad config call ∧ next config latch call =
      { latched := latch.latched &&
          !decide (max 1 config.demoteSamples ≤ min (latch.badFrames + 1) (max 1 config.demoteSamples))
        goodFrames := 0
        badFrames := min (latch.badFrames + 1) (max 1 config.demoteSamples) }) := by
  unfold next updateRtkPrimaryLatch
  cases hpermitted : permitted config call.policy with
  | false => exact Or.inl ⟨rfl, rfl⟩
  | true =>
    cases hgood : rtkGoodForNavigation call.observation with
    | true => exact Or.inr (Or.inl ⟨⟨hpermitted, hgood⟩, rfl⟩)
    | false => exact Or.inr (Or.inr ⟨⟨hpermitted, hgood⟩, rfl⟩)

theorem Inv.update (h : Inv config calls s) (call : Call P F) :
    Inv config (calls ++ [call]) (RtkAutoPrimary.update config s call) := by
  have hlatch : (RtkAutoPrimary.update config s call).latch = next config s.latch call := latch_update
  rcases next_cases config s.latch call with ⟨-, heq⟩ | ⟨hgood, heq⟩ | ⟨hbad, heq⟩ <;>
    rw [heq] at hlatch <;> constructor <;> simp only [hlatch]
  · exact .zero _ _
  · exact .zero _ _
  · exact le_rfl
  · exact (h.good.succ hgood).mono (min_le_left _ _)
  · exact .zero _ _
  · exact le_min (by have := h.nonneg; omega) (by omega)
  · exact .zero _ _
  · exact (h.bad.succ hbad).mono (min_le_left _ _)
  · exact le_rfl

theorem run_concat (calls : List (Call P F)) (call : Call P F) :
    run config (calls ++ [call]) = update config (run config calls) call := exec_concat _ _ _ _

theorem inv_run (config : Config) (calls : List (Call P F)) : Inv config calls (run config calls) := by
  induction calls using List.reverseRecOn with
  | nil => exact ⟨.zero _ _, .zero _ _, le_rfl⟩
  | append_singleton calls call ih =>
    rw [run_concat]
    exact ih.update call

/-! ## The parts -/

theorem turnsOn_good (h : TurnsOn config calls call) : Good config call ∧ call.policy.moving = false ∧
    EndsWith (Good config) config.promoteSamples (calls ++ [call]) := by
  obtain ⟨hoff, hon⟩ := h
  have hinv := (inv_run config calls).good
  rw [run_concat, latch_update] at hon
  rcases next_cases config (run config calls).latch call with ⟨-, heq⟩ | ⟨hgood, heq⟩ | ⟨-, heq⟩
  · rw [heq] at hon
    exact absurd hon Bool.false_ne_true
  · rw [heq] at hon
    simp only [hoff, Bool.false_or, Bool.and_eq_true, decide_eq_true_eq, Bool.not_eq_true'] at hon
    exact ⟨hgood, hon.2, (hinv.succ hgood).mono (by have := hon.1; omega)⟩
  · rw [heq] at hon
    simp [hoff] at hon

theorem turnsOff_bad (h : TurnsOff config calls call) :
    permitted config call.policy = false ∨ EndsWith (Bad config) config.demoteSamples (calls ++ [call]) := by
  obtain ⟨hon, hoff⟩ := h
  have hinv := (inv_run config calls).bad
  rw [run_concat, latch_update] at hoff
  rcases next_cases config (run config calls).latch call with ⟨hpermitted, -⟩ | ⟨-, heq⟩ | ⟨hbad, heq⟩
  · exact Or.inl hpermitted
  · rw [heq] at hoff
    simp [hon] at hoff
  · rw [heq] at hoff
    simp only [hon, Bool.true_and, Bool.not_eq_false', decide_eq_true_eq] at hoff
    exact Or.inr ((hinv.succ hbad).mono (by omega))

theorem turnsOff_handsOver (h : TurnsOff config calls call) :
    (run config (calls ++ [call])).anchor = call.anchor.reset ∧
      (run config (calls ++ [call])).handoffSuppressUntilNs = call.steadyNowNs + max 0 config.handoffSuppressNs := by
  obtain ⟨hon, hoff⟩ := h
  rw [run_concat, latch_update] at hoff
  rw [run_concat]
  have hfalls : ((run config calls).latch.latched && !(next config (run config calls).latch call).latched) = true := by
    rw [hon, hoff]
    rfl
  unfold update
  dsimp only
  rw [if_pos hfalls]
  exact ⟨rfl, rfl⟩

/-- Good frames are counted up to the limit. -/
theorem le_goodFrames (leg : List (Call P F)) (hleg : ∀ call ∈ leg, Good config call) (s : State P F)
    (hs : 0 ≤ s.latch.goodFrames) :
    min (leg.length : ℤ) (max 1 config.promoteSamples) ≤ (exec (update config) s leg).latch.goodFrames := by
  induction leg using List.reverseRecOn with
  | nil =>
    show min ((0 : ℕ) : ℤ) _ ≤ s.latch.goodFrames
    exact (min_le_left _ _).trans hs
  | append_singleton leg call ih =>
    have ih := ih fun other hother => hleg other (List.mem_append_left _ hother)
    have hcall := hleg call (List.mem_append_right _ (List.mem_singleton_self call))
    rw [exec_concat, latch_update, List.length_append, List.length_singleton]
    rcases next_cases config (exec (update config) s leg).latch call with ⟨hnot, -⟩ | ⟨-, heq⟩ | ⟨hbad, -⟩
    · exact absurd (hcall.1.symm.trans hnot) Bool.noConfusion
    · rw [heq]
      push_cast
      omega
    · exact absurd (hcall.2.symm.trans hbad.2) Bool.noConfusion

/-- A message for a stop permits nothing. -/
theorem not_allowed_of_stationary {request : PolicyRequest} (h : request.moving = false) :
    request.policy.rtkPrimaryAllowed = false := by
  simp [PolicyRequest.policy, h]

theorem promotes_of_preferred (hpermitted : ∀ policy, permitted config policy = true) (before leg : List (Call P F))
    (last : Call P F) (hlength : config.promoteSamples ≤ leg.length)
    (hleg : ∀ call ∈ leg, rtkGoodForNavigation call.observation = true) (hstop : last.policy.moving = false)
    (hlast : rtkGoodForNavigation last.observation = true) :
    (run config (before ++ leg ++ [last])).latch.latched = true := by
  have hcount := le_goodFrames leg (fun call hcall => ⟨hpermitted call.policy, hleg call hcall⟩) (run config before)
    (inv_run config before).nonneg
  rw [run_concat, latch_update]
  have hrun : run config (before ++ leg) = exec (update config) (run config before) leg := exec_append _ _ _ _
  rcases next_cases config (run config (before ++ leg)).latch last with ⟨hnot, -⟩ | ⟨-, heq⟩ | ⟨hbad, -⟩
  · exact absurd ((hpermitted last.policy).symm.trans hnot) Bool.noConfusion
  · rw [heq, hrun, hstop]
    simp only [Bool.not_false, Bool.and_true, Bool.or_eq_true, decide_eq_true_eq]
    right
    omega
  · exact absurd (hlast.symm.trans hbad.2) Bool.noConfusion

/-- **When RTK becomes primary on sustained evidence**: only where the preference for fixed RTK, which the constructor
clears, stands in for the permission that ends with the leg. -/
theorem sustained_iff : Sustained P F config ↔ config.preferFixedRtk = true ∧ config.sourceArbiterEnable = true := by
  constructor
  · intro h
    -- a leg as long as the limit asks for, and the stop after it
    let command := "moving:rtk:balanced:1"
    let command' := "stationary:rtk:balanced:1"
    let observation : RtkObservation := ⟨true, true, "fixed"⟩
    let call : Call P F := ⟨observation, (readPolicy command).policy, 1, false, {}⟩
    let last : Call P F := ⟨observation, (readPolicy command').policy, 1, false, {}⟩
    have hlatched := h.promotes [] (List.replicate config.promoteSamples.toNat call) last command command'
      (by decide) (by decide) (by rw [List.length_replicate]; exact Int.self_le_toNat _)
      (fun other hother => by rw [List.eq_of_mem_replicate hother]; exact ⟨rfl, rfl⟩) rfl rfl
    rw [run_concat, latch_update] at hlatched
    have hforbidden : (readPolicy command').policy.rtkPrimaryAllowed = false := not_allowed_of_stationary (by decide)
    by_contra hnot
    have hpermitted : permitted config last.policy = false := by
      show ((config.preferFixedRtk || (readPolicy command').policy.rtkPrimaryAllowed) && _) = false
      rw [hforbidden, Bool.or_false, ← Bool.not_eq_true, Bool.and_eq_true]
      exact hnot
    unfold next at hlatched
    rw [hpermitted] at hlatched
    exact absurd hlatched Bool.false_ne_true
  · rintro ⟨hprefer, harbiter⟩
    have hpermitted : ∀ policy, permitted config policy = true := by
      intro policy
      simp [permitted, hprefer, harbiter]
    refine ⟨fun _ _ => turnsOn_good, fun _ _ => turnsOff_bad, fun _ _ => turnsOff_handsOver, ?_⟩
    intro before leg last command command' _ hrequest hlength hleg hpolicy hlast
    refine promotes_of_preferred hpermitted before leg last hlength (fun call hcall => (hleg call hcall).2) ?_ hlast
    rw [hpolicy, hrequest]
    rfl

def defaults : Config where
  preferFixedRtk := false
  sourceArbiterEnable := true
  promoteSamples := 20
  demoteSamples := 8
  handoffSuppressNs := 2500000000

theorem not_sustained_defaults : ¬ Sustained Unit Unit defaults := by
  intro h
  let observation : RtkObservation := ⟨true, true, "fixed"⟩
  let call (command : String) : Call Unit Unit := ⟨observation, (readPolicy command).policy, 1, false, {}⟩
  have hlatched := h.promotes [] (List.replicate 20 (call "moving:rtk:balanced:1")) (call "stationary:rtk:balanced:1")
    "moving:rtk:balanced:1" "stationary:rtk:balanced:1" (by decide) (by decide) (by decide)
    (fun other hother => by rw [List.eq_of_mem_replicate hother]; exact ⟨rfl, rfl⟩) rfl rfl
  exact absurd hlatched (by decide)

end RtkAutoPrimary

end RoamerX
