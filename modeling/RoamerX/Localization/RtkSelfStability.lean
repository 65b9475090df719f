import Mathlib.Algebra.Order.Ring.Rat
import Mathlib.Data.List.Chain
import Mathlib.Data.Rat.Floor
import Mathlib.Tactic.Linarith
import RoamerX.Lib.Run

set_option autoImplicit false

/-! # Self-stability of fixed RTK

`updateRtkSelfStability` trusts fixed RTK once its positions have kept within a span for a window of time. Samples older
than the window are dropped before those left are asked to cover it, so they cover it only where one of them lies within
a millisecond of its border. -/

namespace RoamerX

namespace RtkSelfStability

/-- `rtk_trust_stable_window_s_` is at least half a second; the norm of a vector is a parameter. -/
structure Config where
  stableWindowS : ℚ
  stableSpanM : ℚ
  maxCorrectionJumpM : ℚ
  norm : ℚ → ℚ → ℚ
  half_le : 1 / 2 ≤ stableWindowS

structure Sample where
  stampNs : ℤ
  xy : ℚ × ℚ
  deriving DecidableEq

structure State where
  window : List Sample := []
  selfStable : Bool := false

/-- What a call of the function is given; a position that is not finite is `none`. -/
structure Observation where
  sourceXy : Option (ℚ × ℚ)
  stampNs : ℤ
  sourceStepM : ℚ

variable (config : Config)

/-- `static_cast<int64_t>(rtk_trust_stable_window_s_ * 1.0e9)`. -/
def windowNs : ℤ := ⌊config.stableWindowS * 10 ^ 9⌋

def old (stampNs : ℤ) (sample : Sample) : Bool := decide (windowNs config < stampNs - sample.stampNs)

/-- The time from the front of the window to its back. -/
def spanS (window : List Sample) : ℚ :=
  match window with
  | [] => 0
  | front :: rest => (((front :: rest).getLast (List.cons_ne_nil front rest)).stampNs - front.stampNs : ℤ) / 10 ^ 9

def spanM (window : List Sample) : ℚ :=
  match window with
  | [] => 0
  | front :: rest =>
    let box := rest.foldl
      (fun box item => ((min box.1.1 item.xy.1, min box.1.2 item.xy.2), (max box.2.1 item.xy.1, max box.2.2 item.xy.2)))
      (front.xy, front.xy)
    config.norm (box.2.1 - box.1.1) (box.2.2 - box.1.2)

/-- The verdict on the samples that are left. -/
def verdict (window : List Sample) : Bool :=
  if window.length < 2 then false
  else if spanS window + 1 / 1000 < config.stableWindowS then false
  else decide (spanM config window ≤ config.stableSpanM)

def updateRtkSelfStability (state : State) (observation : Observation) : State × Bool :=
  match observation.sourceXy with
  | none => ({}, false)
  | some xy =>
    if observation.stampNs ≤ 0 then ({}, false)
    else if config.maxCorrectionJumpM < observation.sourceStepM then
      -- a jump of the source starts a new window
      ({ window := [Sample.mk observation.stampNs xy] }, false)
    else if state.window.getLast?.map Sample.stampNs = some observation.stampNs then
      (state, state.selfStable)
    else
      let window := (state.window ++ [Sample.mk observation.stampNs xy]).dropWhile (old config observation.stampNs)
      ({ window := window, selfStable := verdict config window }, verdict config window)

/-- A sample, or the loss of fixed quality. -/
inductive Call
  | sample (observation : Observation)
  | clear

def step (state : State) : Call → State
  | .sample observation => (updateRtkSelfStability config state observation).1
  | .clear => {}

/-! ## What an answer rests on -/

/-- The window is covered, up to the slack, within the span. -/
structure Covered (window : List Sample) : Prop where
  time : config.stableWindowS ≤ spanS window + 1 / 1000
  space : spanM config window ≤ config.stableSpanM

def Steady (observation : Observation) : Prop :=
  observation.sourceXy ≠ none ∧ 0 < observation.stampNs ∧ observation.sourceStepM ≤ config.maxCorrectionJumpM

instance (observation : Observation) : Decidable (Steady config observation) := by
  unfold Steady
  infer_instance

/-- No call after the one that brought the sample was a jump, invalid or a loss of quality. -/
def Undisturbed (calls : List Call) (sample : Sample) : Prop :=
  ∃ before observation after, calls = before ++ .sample observation :: after ∧
    observation.sourceXy = some sample.xy ∧ observation.stampNs = sample.stampNs ∧
    ∀ call ∈ after, ∃ later, call = .sample later ∧ Steady config later

/-- What is stored after a list of calls. -/
structure Inv (calls : List Call) (state : State) : Prop where
  covered : state.selfStable = true → Covered config state.window
  undisturbed : ∀ sample ∈ state.window, Undisturbed config calls sample

variable {config}

theorem covered_of_verdict {window : List Sample} (h : verdict config window = true) : Covered config window := by
  unfold verdict at h
  split_ifs at h with hlength htime
  exact ⟨not_lt.mp htime, of_decide_eq_true h⟩

theorem update_cases (state : State) (observation : Observation) :
    updateRtkSelfStability config state observation = ({}, false) ∨
    (∃ xy, observation.sourceXy = some xy ∧
      updateRtkSelfStability config state observation = ({ window := [Sample.mk observation.stampNs xy] }, false)) ∨
    (Steady config observation ∧
      updateRtkSelfStability config state observation = (state, state.selfStable)) ∨
    (Steady config observation ∧ ∃ xy window, observation.sourceXy = some xy ∧
      window = (state.window ++ [Sample.mk observation.stampNs xy]).dropWhile (old config observation.stampNs) ∧
      updateRtkSelfStability config state observation =
        ({ window := window, selfStable := verdict config window }, verdict config window)) := by
  unfold updateRtkSelfStability
  cases hxy : observation.sourceXy with
  | none => exact .inl rfl
  | some xy =>
    dsimp only
    have hne : observation.sourceXy ≠ none := by simp [hxy]
    split_ifs with hstamp hjump hsame
    · exact .inl rfl
    · exact .inr (.inl ⟨xy, rfl, rfl⟩)
    · exact .inr (.inr (.inl ⟨⟨hne, by omega, not_lt.mp hjump⟩, rfl⟩))
    · exact .inr (.inr (.inr ⟨⟨hne, by omega, not_lt.mp hjump⟩, xy, _, rfl, rfl, rfl⟩))

theorem answer_eq (state : State) (observation : Observation) :
    (updateRtkSelfStability config state observation).2 =
      (updateRtkSelfStability config state observation).1.selfStable := by
  obtain h | ⟨xy, -, h⟩ | ⟨-, h⟩ | ⟨-, xy, window, -, -, h⟩ := update_cases state observation <;> rw [h]

theorem Undisturbed.concat {calls : List Call} {sample : Sample} (h : Undisturbed config calls sample)
    {observation : Observation} (hsteady : Steady config observation) :
    Undisturbed config (calls ++ [.sample observation]) sample := by
  obtain ⟨before, first, after, rfl, hxy, hstamp, hafter⟩ := h
  refine ⟨before, first, after ++ [.sample observation], by simp, hxy, hstamp, ?_⟩
  intro call hcall
  rw [List.mem_append, List.mem_singleton] at hcall
  obtain hcall | rfl := hcall
  · exact hafter call hcall
  · exact ⟨observation, rfl, hsteady⟩

theorem undisturbed_last (calls : List Call) {observation : Observation} {xy : ℚ × ℚ}
    (hxy : observation.sourceXy = some xy) :
    Undisturbed config (calls ++ [.sample observation]) ⟨observation.stampNs, xy⟩ :=
  ⟨calls, observation, [], rfl, hxy, rfl, fun _ h => nomatch h⟩

theorem inv_concat {calls : List Call} {state : State} (h : Inv config calls state) (call : Call) :
    Inv config (calls ++ [call]) (step config state call) := by
  cases call with
  | clear => exact ⟨fun hstable => (nomatch hstable), fun _ hmem => nomatch hmem⟩
  | sample observation =>
    show Inv config _ (updateRtkSelfStability config state observation).1
    obtain hupdate | ⟨xy, hxy, hupdate⟩ | ⟨hsteady, hupdate⟩ | ⟨hsteady, xy, window, hxy, hwindow, hupdate⟩ :=
      update_cases state observation <;> rw [hupdate]
    · exact ⟨fun hstable => (nomatch hstable), fun _ hmem => nomatch hmem⟩
    · refine ⟨fun hstable => (nomatch hstable), fun sample hmem => ?_⟩
      rw [List.mem_singleton.mp hmem]
      exact undisturbed_last calls hxy
    · exact ⟨h.covered, fun sample hmem => (h.undisturbed sample hmem).concat hsteady⟩
    · refine ⟨covered_of_verdict, fun sample hmem => ?_⟩
      rw [hwindow] at hmem
      have hmem := (List.dropWhile_sublist _).subset hmem
      rw [List.mem_append, List.mem_singleton] at hmem
      obtain hmem | rfl := hmem
      · exact (h.undisturbed sample hmem).concat hsteady
      · exact undisturbed_last calls hxy

theorem inv_exec (calls : List Call) : Inv config calls (Run.exec (step config) {} calls) := by
  induction calls using List.reverseRecOn with
  | nil => exact ⟨fun hstable => (nomatch hstable), fun _ hmem => nomatch hmem⟩
  | append_singleton calls call ih =>
    rw [Run.exec_concat]
    exact inv_concat ih call

/-- **Stability is answered only for a covered window**, after any calls whatever. -/
theorem covered_of_answer (calls : List Call) (observation : Observation)
    (h : (updateRtkSelfStability config (Run.exec (step config) {} calls) observation).2 = true) :
    Covered config (updateRtkSelfStability config (Run.exec (step config) {} calls) observation).1.window ∧
      ∀ sample ∈ (updateRtkSelfStability config (Run.exec (step config) {} calls) observation).1.window,
        Undisturbed config (calls ++ [.sample observation]) sample := by
  have hinv : Inv config (calls ++ [.sample observation])
      (updateRtkSelfStability config (Run.exec (step config) {} calls) observation).1 :=
    inv_concat (inv_exec calls) (.sample observation)
  rw [answer_eq] at h
  exact ⟨hinv.covered h, hinv.undisturbed⟩

/-! ## Regular samples -/

theorem dropWhile_dropWhile_append {α : Type*} {p q : α → Bool} (h : ∀ a, p a = true → q a = true) (l r : List α) :
    (l.dropWhile p ++ r).dropWhile q = (l ++ r).dropWhile q := by
  induction l with
  | nil => rfl
  | cons a l ih =>
    by_cases hp : p a = true
    · rw [List.dropWhile_cons_of_pos hp, ih, List.cons_append, List.dropWhile_cons_of_pos (h a hp)]
    · rw [List.dropWhile_cons_of_neg hp]

theorem dropWhile_old {stampNs : ℤ} {samples : List Sample}
    (hsorted : samples.Pairwise fun a b => a.stampNs < b.stampNs) :
    samples.dropWhile (old config stampNs) = samples.filter fun sample => !old config stampNs sample := by
  induction samples with
  | nil => rfl
  | cons sample samples ih =>
    rw [List.pairwise_cons] at hsorted
    by_cases hold : old config stampNs sample = true
    · rw [List.dropWhile_cons_of_pos hold, List.filter_cons_of_neg (by simp [hold]), ih hsorted.2]
    · rw [List.dropWhile_cons_of_neg hold]
      symm
      rw [List.filter_eq_self]
      intro later hlater
      have hstamp : sample.stampNs ≤ later.stampNs := by
        obtain rfl | hlater := List.mem_cons.mp hlater
        · exact le_refl _
        · exact (hsorted.1 later hlater).le
      simp only [old, decide_eq_true_eq, not_lt, Bool.not_eq_true', decide_eq_false_iff_not] at hold ⊢
      omega

variable (config)

/-- Valid samples without a jump, with increasing stamps at most a tenth of the window apart. -/
def Regular (observations : List Observation) : Prop :=
  (∀ observation ∈ observations, Steady config observation) ∧
  observations.IsChain fun a b =>
    a.stampNs < b.stampNs ∧ ((b.stampNs - a.stampNs : ℤ) : ℚ) ≤ config.stableWindowS * 10 ^ 9 / 10

def samplesOf (observations : List Observation) : List Sample :=
  observations.filterMap fun observation => observation.sourceXy.map (Sample.mk observation.stampNs)

def inWindow (observations : List Observation) (stampNs : ℤ) : List Sample :=
  (samplesOf observations).filter fun sample => !old config stampNs sample

/-- Samples have arrived for one window and one gap. -/
def Seasoned (observations : List Observation) (stampNs : ℤ) : Prop :=
  ∃ observation ∈ observations,
    config.stableWindowS * 10 ^ 9 * (11 / 10) ≤ ((stampNs - observation.stampNs : ℤ) : ℚ)

/-- A sample lies within a millisecond of the border of the window. -/
def AtBorder (observations : List Observation) (stampNs : ℤ) : Prop :=
  ∃ observation ∈ observations,
    config.stableWindowS * 10 ^ 9 - 10 ^ 6 ≤ ((stampNs - observation.stampNs : ℤ) : ℚ) ∧
    ((stampNs - observation.stampNs : ℤ) : ℚ) ≤ config.stableWindowS * 10 ^ 9

def after (observations : List Observation) : State := Run.exec (step config) {} (observations.map .sample)

/-- What is promised of the answer to the last of some samples. -/
structure Promised (observations : List Observation) (last : Observation) : Prop where
  stable : Seasoned config (observations ++ [last]) last.stampNs →
    spanM config (inWindow config (observations ++ [last]) last.stampNs) ≤ config.stableSpanM →
    (updateRtkSelfStability config (after config observations) last).2 = true
  covered : (updateRtkSelfStability config (after config observations) last).2 = true →
    Covered config (updateRtkSelfStability config (after config observations) last).1.window ∧
    ∀ sample ∈ (updateRtkSelfStability config (after config observations) last).1.window,
      Undisturbed config ((observations ++ [last]).map .sample) sample

variable {config} {observations : List Observation} {last : Observation}

theorem samplesOf_append (observations others : List Observation) :
    samplesOf (observations ++ others) = samplesOf observations ++ samplesOf others := List.filterMap_append ..

theorem samplesOf_singleton {xy : ℚ × ℚ} (hxy : last.sourceXy = some xy) :
    samplesOf [last] = [⟨last.stampNs, xy⟩] := by simp [samplesOf, hxy]

theorem mem_samplesOf {sample : Sample} (h : sample ∈ samplesOf observations) :
    ∃ observation ∈ observations, observation.stampNs = sample.stampNs := by
  obtain ⟨observation, hmem, hsample⟩ := List.mem_filterMap.mp h
  obtain ⟨xy, -, rfl⟩ := Option.map_eq_some_iff.mp hsample
  exact ⟨observation, hmem, rfl⟩

theorem Regular.pairwise (h : Regular config observations) :
    observations.Pairwise fun a b => a.stampNs < b.stampNs := by
  have : IsTrans Observation fun a b => a.stampNs < b.stampNs := ⟨fun _ _ _ => lt_trans⟩
  exact List.isChain_iff_pairwise.mp (h.2.imp fun _ _ hgap => hgap.1)

theorem Regular.sorted (h : Regular config observations) :
    (samplesOf observations).Pairwise fun a b => a.stampNs < b.stampNs := by
  unfold samplesOf
  rw [List.pairwise_filterMap]
  apply h.pairwise.imp
  rintro a b hlt sample hsample later hlater
  obtain ⟨xy, -, rfl⟩ := Option.map_eq_some_iff.mp hsample
  obtain ⟨xy', -, rfl⟩ := Option.map_eq_some_iff.mp hlater
  exact hlt

theorem Regular.init {others : List Observation} (h : Regular config (observations ++ others)) :
    Regular config observations :=
  ⟨fun observation hmem => h.1 observation (List.mem_append_left _ hmem), h.2.left_of_append⟩

theorem after_concat (observations : List Observation) (last : Observation) :
    after config (observations ++ [last]) = (updateRtkSelfStability config (after config observations) last).1 := by
  rw [after, List.map_append, List.map_singleton, Run.exec_concat]
  rfl

theorem old_mono {stampNs later : ℤ} (h : stampNs ≤ later) {sample : Sample}
    (hold : old config stampNs sample = true) : old config later sample = true := by
  simp only [old, decide_eq_true_eq] at hold ⊢
  omega

theorem update_of_window (h : Regular config (observations ++ [last]))
    (hwindow : ∀ sample, ((after config observations).window ++ [sample]).dropWhile (old config last.stampNs) =
      (samplesOf observations ++ [sample]).dropWhile (old config last.stampNs))
    (hsubset : ∀ sample ∈ (after config observations).window, sample ∈ samplesOf observations) :
    updateRtkSelfStability config (after config observations) last =
      ({ window := inWindow config (observations ++ [last]) last.stampNs
         selfStable := verdict config (inWindow config (observations ++ [last]) last.stampNs) },
        verdict config (inWindow config (observations ++ [last]) last.stampNs)) := by
  have hsteady : Steady config last := h.1 last (by simp)
  obtain ⟨xy, hxy⟩ := Option.ne_none_iff_exists'.mp hsteady.1
  have hnew : (after config observations).window.getLast?.map Sample.stampNs ≠ some last.stampNs := by
    intro hsame
    obtain ⟨sample, hlast, hstamp⟩ := Option.map_eq_some_iff.mp hsame
    obtain ⟨observation, hmem, hobserved⟩ := mem_samplesOf (hsubset sample (List.mem_of_getLast? hlast))
    have hlt := (List.pairwise_append.mp h.pairwise).2.2 observation hmem last List.mem_cons_self
    omega
  rw [updateRtkSelfStability, hxy]
  dsimp only
  rw [if_neg (not_le.mpr hsteady.2.1), if_neg (not_lt.mpr hsteady.2.2), if_neg hnew, hwindow, inWindow,
    ← dropWhile_old h.sorted, samplesOf_append, samplesOf_singleton hxy]

theorem update_regular (h : Regular config (observations ++ [last])) :
    updateRtkSelfStability config (after config observations) last =
      ({ window := inWindow config (observations ++ [last]) last.stampNs
         selfStable := verdict config (inWindow config (observations ++ [last]) last.stampNs) },
        verdict config (inWindow config (observations ++ [last]) last.stampNs)) := by
  induction observations using List.reverseRecOn generalizing last with
  | nil => exact update_of_window h (fun _ => rfl) fun _ hmem => nomatch hmem
  | append_singleton observations previous ih =>
    have hwindow : (after config (observations ++ [previous])).window =
        (samplesOf (observations ++ [previous])).dropWhile (old config previous.stampNs) := by
      rw [after_concat, ih h.init, dropWhile_old h.init.sorted]
      rfl
    have hlt : previous.stampNs < last.stampNs :=
      (List.pairwise_append.mp h.pairwise).2.2 previous (by simp) last List.mem_cons_self
    apply update_of_window h
    · intro sample
      rw [hwindow]
      exact dropWhile_dropWhile_append (fun _ => old_mono hlt.le) _ _
    · intro sample hmem
      rw [hwindow] at hmem
      exact (List.dropWhile_sublist _).subset hmem

theorem windowNs_nonneg (config : Config) : 0 ≤ windowNs config := by
  apply Int.floor_nonneg.mpr
  have := config.half_le
  positivity

theorem verdict_eq_true_iff {window : List Sample} : verdict config window = true ↔ Covered config window := by
  constructor
  · exact covered_of_verdict
  · rintro ⟨htime, hspace⟩
    have hhalf := config.half_le
    unfold verdict
    rw [if_neg, if_neg (not_lt.mpr htime), decide_eq_true hspace]
    intro hshort
    have hzero : spanS window = 0 := by
      match window, hshort with
      | [], _ => rfl
      | [sample], _ => simp [spanS]
    rw [hzero] at htime
    linarith

theorem not_old_iff {stampNs : ℤ} {sample : Sample} :
    (!old config stampNs sample) = true ↔ ((stampNs - sample.stampNs : ℤ) : ℚ) ≤ config.stableWindowS * 10 ^ 9 := by
  rw [old, Bool.not_eq_true', decide_eq_false_iff_not, not_lt, windowNs, Int.le_floor]

theorem inWindow_last (h : Regular config (observations ++ [last])) :
    ∃ front rest, inWindow config (observations ++ [last]) last.stampNs = front :: rest ∧
      spanS (front :: rest) = ((last.stampNs - front.stampNs : ℤ) : ℚ) / 10 ^ 9 := by
  obtain ⟨xy, hxy⟩ := Option.ne_none_iff_exists'.mp (h.1 last (by simp)).1
  have hkept : (!old config last.stampNs ⟨last.stampNs, xy⟩) = true := by
    have := windowNs_nonneg config
    simpa [old] using this
  have hconcat : inWindow config (observations ++ [last]) last.stampNs =
      (samplesOf observations).filter (fun sample => !old config last.stampNs sample) ++ [⟨last.stampNs, xy⟩] := by
    rw [inWindow, samplesOf_append, samplesOf_singleton hxy, List.filter_append]
    congr 1
    exact List.filter_eq_self.mpr fun sample hsample => by rw [List.mem_singleton.mp hsample, hkept]
  rw [hconcat]
  cases (samplesOf observations).filter fun sample => !old config last.stampNs sample with
  | nil => exact ⟨_, _, rfl, rfl⟩
  | cons front rest =>
    refine ⟨front, rest ++ [⟨last.stampNs, xy⟩], rfl, ?_⟩
    simp [spanS]

theorem covers_iff_atBorder (h : Regular config (observations ++ [last])) :
    config.stableWindowS ≤ spanS (inWindow config (observations ++ [last]) last.stampNs) + 1 / 1000 ↔
      AtBorder config (observations ++ [last]) last.stampNs := by
  obtain ⟨front, rest, hwindow, hspan⟩ := inWindow_last h
  have hsorted : (front :: rest).Pairwise fun a b => a.stampNs < b.stampNs := by
    rw [← hwindow]
    exact h.sorted.filter _
  have hmem (sample : Sample) : sample ∈ front :: rest ↔ sample ∈ samplesOf (observations ++ [last]) ∧
      ((last.stampNs - sample.stampNs : ℤ) : ℚ) ≤ config.stableWindowS * 10 ^ 9 := by
    rw [← hwindow, inWindow, List.mem_filter, not_old_iff]
  rw [hwindow, hspan]
  constructor
  · intro hcovers
    obtain ⟨hfront, hage⟩ := (hmem front).mp List.mem_cons_self
    obtain ⟨observation, hobservation, hstamp⟩ := mem_samplesOf hfront
    refine ⟨observation, hobservation, ?_, by rwa [hstamp]⟩
    rw [hstamp]
    linarith
  · rintro ⟨observation, hobservation, hlow, hhigh⟩
    obtain ⟨xy, hxy⟩ := Option.ne_none_iff_exists'.mp (h.1 observation hobservation).1
    have hsample : Sample.mk observation.stampNs xy ∈ front :: rest := by
      rw [hmem]
      exact ⟨List.mem_filterMap.mpr ⟨observation, hobservation, by rw [hxy, Option.map_some]⟩, hhigh⟩
    have hfront : front.stampNs ≤ observation.stampNs := by
      obtain heq | hlater := List.mem_cons.mp hsample
      · rw [← heq]
      · exact ((List.pairwise_cons.mp hsorted).1 _ hlater).le
    have hage : ((last.stampNs - observation.stampNs : ℤ) : ℚ) ≤ ((last.stampNs - front.stampNs : ℤ) : ℚ) := by
      exact_mod_cast sub_le_sub_left hfront last.stampNs
    linarith

/-- Where the last window keeps within the span, the answer tells whether a sample lies at its border. -/
theorem answer_iff_atBorder (h : Regular config (observations ++ [last]))
    (hspace : spanM config (inWindow config (observations ++ [last]) last.stampNs) ≤ config.stableSpanM) :
    (updateRtkSelfStability config (after config observations) last).2 = true ↔
      AtBorder config (observations ++ [last]) last.stampNs := by
  rw [update_regular h, ← covers_iff_atBorder h]
  show verdict config _ = true ↔ _
  rw [verdict_eq_true_iff]
  exact ⟨fun hcovered => hcovered.time, fun htime => ⟨htime, hspace⟩⟩

/-- Resting at the origin, with a window of one second. -/
def resting : Config where
  stableWindowS := 1
  stableSpanM := 7 / 20
  maxCorrectionJumpM := 1
  norm dx dy := max |dx| |dy|
  half_le := by norm_num

/-- Samples at the origin, at the given distances. -/
def every (gapNs : ℤ) (count : ℕ) : List Observation :=
  (List.range count).map fun i : ℕ => { sourceXy := some (0, 0), stampNs := (i + 1) * gapNs, sourceStepM := 0 }

instance (observations : List Observation) : Decidable (Regular config observations) := by
  unfold Regular
  infer_instance

end RtkSelfStability

end RoamerX
