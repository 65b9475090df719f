import RoamerX.SelfHealing.Coordinator

set_option autoImplicit false

/-! # Actions are bracketed

The coordinator remembers the action under way by its id, and the store keeps its row. `Linked` ties the
two: the rows that are open are that of the action under way. It is kept by every call but the beginning
of an action while another is under way, which loses the id of that one. -/

namespace RoamerX

namespace SelfHealing

/-! ## The rows of the store -/

def ActionRow.isOpen (a : ActionRow) : Bool := a.finishedAt.isNone

def Tables.openActions (t : Tables) (episodeId : Uuid) : List ActionRow :=
  t.actions.filter fun a => decide (a.episodeId = episodeId) && a.isOpen

theorem mem_openActions {t : Tables} {episodeId : Uuid} {a : ActionRow} :
    a ∈ t.openActions episodeId ↔ a ∈ t.actions ∧ a.episodeId = episodeId ∧ a.isOpen = true := by
  simp [Tables.openActions]

theorem mem_finishAction {t : Tables} {now : ℕ} {id : Uuid} {success : Bool} {duration : Option ℚ}
    {a : ActionRow} (h : a ∈ (t.finishAction now id success duration).actions) :
    a ∈ t.actions ∧ a.actionId ≠ id ∨
      a.isOpen = false ∧ ∃ b ∈ t.actions, b.actionId = a.actionId ∧ b.episodeId = a.episodeId := by
  obtain ⟨b, hb, rfl⟩ := List.mem_map.mp h
  by_cases hid : b.actionId = id
  · rw [if_pos hid]
    exact Or.inr ⟨rfl, b, hb, rfl, rfl⟩
  · rw [if_neg hid]
    exact Or.inl ⟨hb, hid⟩

theorem mem_finishAction_of_ne {t : Tables} {now : ℕ} {id : Uuid} {success : Bool} {duration : Option ℚ}
    {a : ActionRow} (h : a ∈ t.actions) (hid : a.actionId ≠ id) :
    a ∈ (t.finishAction now id success duration).actions :=
  List.mem_map.mpr ⟨a, h, if_neg hid⟩

theorem episodeIds_finishEpisode (t : Tables) (now : ℕ) (id : Uuid) (success : Bool) (duration : ℚ) :
    (t.finishEpisode now id success duration).episodes.map EpisodeRow.episodeId =
      t.episodes.map EpisodeRow.episodeId := by
  change ((t.episodes.map _).map EpisodeRow.episodeId) = _
  rw [List.map_map]
  refine List.map_congr_left fun e _ => ?_
  simp only [Function.comp_apply]
  split_ifs <;> rfl

theorem startAction_actions {t : Tables} (now : ℕ) {actionId episodeId : Uuid} (level : ℤ)
    (actionType : String) (hnew : actionId ∉ t.actions.map ActionRow.actionId)
    (hepisode : episodeId ∈ t.episodes.map EpisodeRow.episodeId) :
    (t.startAction now actionId episodeId level actionType).actions =
      t.actions ++
        [{ actionId := actionId
           episodeId := episodeId
           level := level
           actionType := actionType
           startedAt := now }] := by
  unfold Tables.startAction
  rw [dif_neg (not_or.mpr ⟨hnew, not_not.mpr hepisode⟩)]

theorem startAction_episodes (t : Tables) (now : ℕ) (actionId episodeId : Uuid) (level : ℤ)
    (actionType : String) : (t.startAction now actionId episodeId level actionType).episodes = t.episodes := by
  unfold Tables.startAction
  split_ifs <;> rfl

theorem startEpisode_actions (t : Tables) (now : ℕ) (episodeId : Uuid) (label : String) :
    (t.startEpisode now episodeId label).actions = t.actions := by
  unfold Tables.startEpisode
  split_ifs <;> rfl

theorem mem_startEpisode_ids {t : Tables} {now : ℕ} {episodeId id : Uuid} {label : String} :
    id ∈ (t.startEpisode now episodeId label).episodes.map EpisodeRow.episodeId ↔
      id ∈ t.episodes.map EpisodeRow.episodeId ∨ id = episodeId := by
  unfold Tables.startEpisode
  split_ifs with hknown
  · exact ⟨Or.inl, fun h => h.elim (fun hold => hold) fun heq => heq ▸ hknown⟩
  · rw [List.map_append, List.mem_append, List.map_singleton, List.mem_singleton]

/-! ## The link -/

/-- The coordinator knows the open rows. -/
structure Linked (c : Coordinator) : Prop where
  actionIds : ∀ a ∈ c.store.actions, a.actionId < c.nextId
  episodeIds : ∀ id ∈ c.store.episodes.map EpisodeRow.episodeId, id < c.nextId
  stored : ∀ e, c.current = some e → e.episodeId ∈ c.store.episodes.map EpisodeRow.episodeId
  /-- An open row is that of the action under way. -/
  isUnderWay : ∀ a ∈ c.store.actions, a.isOpen = true →
    ∃ e, c.current = some e ∧ a.episodeId = e.episodeId ∧ e.activeActionId = some a.actionId
  /-- The action under way has an open row. -/
  isOpen : ∀ e id, c.current = some e → e.activeActionId = some id →
    ∃ a ∈ c.store.actions, a.actionId = id ∧ a.episodeId = e.episodeId ∧ a.isOpen = true

variable {c : Coordinator}

theorem Linked.not_isOpen (h : Linked c) (hnone : c.current = none) {a : ActionRow}
    (ha : a ∈ c.store.actions) : a.isOpen = false := by
  rw [← Bool.not_eq_true]
  intro hopen
  obtain ⟨e, hcurrent, _⟩ := h.isUnderWay a ha hopen
  exact nomatch hnone.symm.trans hcurrent

theorem freshId_lt {t : Tables} {id : Uuid} (h : id ∈ t.episodes.map EpisodeRow.episodeId ∨
    id ∈ t.actions.map ActionRow.actionId) : id < t.freshId := by
  have hmem := List.mem_append.mpr h
  unfold Tables.freshId
  revert hmem
  generalize t.episodes.map EpisodeRow.episodeId ++ t.actions.map ActionRow.actionId = ids
  intro hmem
  induction ids with
  | nil => exact absurd hmem List.not_mem_nil
  | cons x ids ih =>
    rw [List.foldr_cons]
    rcases List.mem_cons.mp hmem with rfl | hrest
    · exact Nat.lt_succ_of_le (le_max_left _ _)
    · exact Nat.lt_succ_of_le (le_max_of_le_right (Nat.le_of_lt_succ (ih hrest)))

theorem linked_start (t : Tables) (now : ℕ) : Linked (Coordinator.start t now) := by
  have hids : ∀ a ∈ (t.reconcile now).actions, a.isOpen = false ∧
      ∃ b ∈ t.actions, b.actionId = a.actionId := by
    intro a ha
    obtain ⟨b, hb, rfl⟩ := List.mem_map.mp ha
    by_cases hopen : b.finishedAt.isNone = true
    · rw [if_pos hopen]
      exact ⟨rfl, b, hb, rfl⟩
    · rw [if_neg hopen]
      exact ⟨Bool.eq_false_iff.mpr hopen, b, hb, rfl⟩
  have hepisodes : (t.reconcile now).episodes.map EpisodeRow.episodeId =
      t.episodes.map EpisodeRow.episodeId := by
    change (t.episodes.map _).map EpisodeRow.episodeId = _
    rw [List.map_map]
    refine List.map_congr_left fun e _ => ?_
    simp only [Function.comp_apply]
    split_ifs <;> rfl
  constructor
  case actionIds =>
    intro a ha
    obtain ⟨_, b, hb, hsame⟩ := hids a ha
    rw [← hsame]
    exact freshId_lt (Or.inr (List.mem_map_of_mem hb))
  case episodeIds =>
    intro id hid
    rw [Coordinator.start, hepisodes] at hid
    exact freshId_lt (Or.inl hid)
  case stored => exact fun e h => nomatch h
  case isUnderWay =>
    intro a ha hopen
    rw [(hids a ha).1] at hopen
    exact nomatch hopen
  case isOpen => exact fun e id h => nomatch h

/-! ## What the calls keep -/

theorem Linked.finishAction (h : Linked c) (now : Now) (actionId : Option Uuid) (success : Bool) :
    Linked (c.finishAction now actionId success) := by
  cases hid : (actionId <|> c.episode.bind Episode.activeActionId) with
  | none =>
    rw [finishAction_of_none hid]
    exact h
  | some id =>
    obtain ⟨hepisode, _, hnext, duration, hstore⟩ := finishAction_of_id now success hid
    -- the open episode is the one before, with the action released
    have hcurrent : (c.finishAction now actionId success).current = c.current.map (Episode.release id) := by
      unfold Coordinator.current
      rw [hepisode]
      cases c.episode with
      | none => rfl
      | some e =>
        by_cases hfinished : e.finished = true
        · simp [Option.filter, Episode.release, hfinished]
        · simp [Option.filter, Episode.release, hfinished]
    constructor
    case actionIds =>
      intro a ha
      rw [hstore] at ha
      rw [hnext]
      rcases mem_finishAction ha with ⟨hmem, _⟩ | ⟨_, b, hb, hsame, _⟩
      · exact h.actionIds a hmem
      · exact hsame ▸ h.actionIds b hb
    case episodeIds =>
      intro x hx
      rw [hstore] at hx
      rw [hnext]
      exact h.episodeIds x hx
    case stored =>
      intro e' he'
      rw [hcurrent, Option.map_eq_some_iff] at he'
      obtain ⟨e, he, rfl⟩ := he'
      rw [hstore]
      exact h.stored e he
    case isUnderWay =>
      intro a ha hopen
      rw [hstore] at ha
      rcases mem_finishAction ha with ⟨hmem, hother⟩ | ⟨hclosed, _⟩
      · obtain ⟨e, he, hepisodeId, hactive⟩ := h.isUnderWay a hmem hopen
        refine ⟨e.release id, ?_, hepisodeId, ?_⟩
        · rw [hcurrent, he, Option.map_some]
        · change (if e.activeActionId = some id then none else e.activeActionId) = _
          rw [if_neg, hactive]
          rw [hactive]
          exact fun heq => hother (Option.some.inj heq)
      · exact nomatch hclosed.symm.trans hopen
    case isOpen =>
      intro e' x he' hactive'
      rw [hcurrent, Option.map_eq_some_iff] at he'
      obtain ⟨e, he, rfl⟩ := he'
      change (if e.activeActionId = some id then none else e.activeActionId) = some x at hactive'
      by_cases hreleased : e.activeActionId = some id
      · rw [if_pos hreleased] at hactive'
        exact nomatch hactive'
      · rw [if_neg hreleased] at hactive'
        obtain ⟨a, ha, hactionId, hepisodeId, hopen⟩ := h.isOpen e x he hactive'
        refine ⟨a, ?_, hactionId, hepisodeId, hopen⟩
        rw [hstore]
        refine mem_finishAction_of_ne ha ?_
        rintro rfl
        exact hreleased (hactive'.trans (congrArg some hactionId.symm))

theorem Linked.beginAction (h : Linked c) (now : Now) (level : ℤ) (actionType : String)
    (halone : ∀ e, c.current = some e → e.activeActionId = none) :
    Linked (c.beginAction now level actionType) := by
  unfold Coordinator.beginAction
  cases hcurrent : c.current with
  | none => exact h
  | some e =>
    have hactive := halone e hcurrent
    have hclosed : ∀ a ∈ c.store.actions, a.isOpen = false := by
      intro a ha
      rw [← Bool.not_eq_true]
      intro hopen
      obtain ⟨e', he', _, hactive'⟩ := h.isUnderWay a ha hopen
      obtain rfl := Option.some.inj (hcurrent.symm.trans he')
      exact nomatch hactive.symm.trans hactive'
    have hnew : c.nextId ∉ c.store.actions.map ActionRow.actionId := by
      intro hmem
      obtain ⟨a, ha, hsame⟩ := List.mem_map.mp hmem
      exact lt_irrefl _ (hsame ▸ h.actionIds a ha)
    have hrows := startAction_actions now.wall (min 3 (max e.currentLevel level.toNat) : ℕ)
      actionType hnew (h.stored e hcurrent)
    have hunfinished := (current_eq_some.mp hcurrent).2
    have hafter {e' : Episode} (he' : ({ c with
          episode := some { e with
            currentLevel := min 3 (max e.currentLevel level.toNat)
            actionType := actionType
            activeActionId := some c.nextId } } : Coordinator).current = some e') :
        e'.episodeId = e.episodeId ∧ e'.activeActionId = some c.nextId := by
      obtain ⟨rfl, _⟩ := current_eq_some.mp he' |>.imp_left Option.some.inj
      exact ⟨rfl, rfl⟩
    constructor
    case actionIds =>
      intro a ha
      rw [hrows, List.mem_append, List.mem_singleton] at ha
      rcases ha with ha | rfl
      · exact Nat.lt_succ_of_lt (h.actionIds a ha)
      · exact Nat.lt_succ_self _
    case episodeIds =>
      intro id hid
      rw [startAction_episodes] at hid
      exact Nat.lt_succ_of_lt (h.episodeIds id hid)
    case stored =>
      intro e' he'
      rw [startAction_episodes, (hafter he').1]
      exact h.stored e hcurrent
    case isUnderWay =>
      intro a ha hopen
      rw [hrows, List.mem_append, List.mem_singleton] at ha
      rcases ha with ha | rfl
      · exact nomatch (hclosed a ha).symm.trans hopen
      · exact ⟨_, current_eq_some.mpr ⟨rfl, hunfinished⟩, rfl, rfl⟩
    case isOpen =>
      intro e' id he' hactive'
      obtain ⟨hid, hunderWay⟩ := hafter he'
      obtain rfl := Option.some.inj (hunderWay.symm.trans hactive')
      rw [hrows]
      exact ⟨_, List.mem_append_right _ (List.mem_singleton.mpr rfl), rfl, hid.symm, rfl⟩

theorem Linked.modifyCurrent (h : Linked c) {e : Episode} (hcurrent : c.current = some e) (e' : Episode)
    (hid : e'.episodeId = e.episodeId) (hactive : e'.activeActionId = e.activeActionId)
    (hopen : e'.finished = false) (last : Option FaultDiagnosis) :
    Linked { c with episode := some e', lastDiagnosis := last } := by
  have hafter {x : Episode} (hx : ({ c with episode := some e', lastDiagnosis := last } : Coordinator).current =
      some x) : x = e' := (Option.some.inj (current_eq_some.mp hx).1).symm
  constructor
  case actionIds => exact h.actionIds
  case episodeIds => exact h.episodeIds
  case stored =>
    intro x hx
    rw [hafter hx, hid]
    exact h.stored e hcurrent
  case isUnderWay =>
    intro a ha hrow
    obtain ⟨x, hx, hepisodeId, hunderWay⟩ := h.isUnderWay a ha hrow
    obtain rfl := Option.some.inj (hcurrent.symm.trans hx)
    exact ⟨e', current_eq_some.mpr ⟨rfl, hopen⟩, hepisodeId.trans hid.symm, hactive.trans hunderWay⟩
  case isOpen =>
    intro x id hx hunderWay
    obtain rfl := hafter hx
    obtain ⟨a, ha, hactionId, hepisodeId, hrow⟩ := h.isOpen e id hcurrent (hactive ▸ hunderWay)
    exact ⟨a, ha, hactionId, hepisodeId.trans hid.symm, hrow⟩

theorem Linked.advance (h : Linked c) : Linked c.advance := by
  unfold Coordinator.advance
  cases hcurrent : c.current with
  | none => exact h
  | some e =>
    exact h.modifyCurrent hcurrent { e with currentLevel := min 3 (e.currentLevel + 1) } rfl rfl
      (current_eq_some.mp hcurrent).2 c.lastDiagnosis

theorem Linked.close (h : Linked c) (hidle : ∀ e, c.current = some e → e.activeActionId = none)
    (now : ℕ) (id : Uuid) (success : Bool) (duration : ℚ) :
    Linked { c.modify (fun e => { e with finished := true }) with
      store := c.store.finishEpisode now id success duration } := by
  have hnone : ({ c.modify (fun e => { e with finished := true }) with
      store := c.store.finishEpisode now id success duration } : Coordinator).current = none := by
    rw [current_eq_none]
    intro e he
    obtain ⟨e₀, _, rfl⟩ := Option.map_eq_some_iff.mp he
    rfl
  constructor
  case actionIds => exact h.actionIds
  case episodeIds =>
    intro x hx
    rw [episodeIds_finishEpisode] at hx
    exact h.episodeIds x hx
  case stored => exact fun e he => nomatch hnone.symm.trans he
  case isUnderWay =>
    intro a ha hopen
    obtain ⟨e, he, _, hactive⟩ := h.isUnderWay a ha hopen
    exact nomatch (hidle e he).symm.trans hactive
  case isOpen => exact fun e x he => nomatch hnone.symm.trans he

theorem Linked.complete (h : Linked c) (now : Now) (success : Bool) : Linked (c.complete now success) := by
  unfold Coordinator.complete
  cases hcurrent : c.current with
  | none => exact h
  | some e =>
    dsimp only
    cases hactive : e.activeActionId with
    | none =>
      refine h.close ?_ now.wall e.episodeId success _
      intro x hx
      obtain rfl := Option.some.inj (hcurrent.symm.trans hx)
      exact hactive
    | some id =>
      -- the action under way is finished first
      refine (h.finishAction now (some id) success).close ?_ now.wall e.episodeId success _
      intro x hx
      have hreleased := (current_eq_some.mp hx).1
      rw [(finishAction_of_id now success
        (show (some id <|> c.episode.bind Episode.activeActionId) = some id from rfl)).1,
        (current_eq_some.mp hcurrent).1, Option.map_some] at hreleased
      obtain rfl := Option.some.inj hreleased
      exact if_pos hactive

theorem Linked.openEpisode (h : Linked c) (hnone : c.current = none) (r : DiagnosisCall) :
    Linked (c.openEpisode r) := by
  constructor
  case actionIds =>
    intro a ha
    change a ∈ (c.store.startEpisode _ _ _).actions at ha
    rw [startEpisode_actions] at ha
    exact Nat.lt_succ_of_lt (h.actionIds a ha)
  case episodeIds =>
    intro id hid
    rcases mem_startEpisode_ids.mp hid with hold | rfl
    · exact Nat.lt_succ_of_lt (h.episodeIds id hold)
    · exact Nat.lt_succ_self _
  case stored =>
    rintro e ⟨⟩
    exact mem_startEpisode_ids.mpr (Or.inr rfl)
  case isUnderWay =>
    intro a ha hopen
    change a ∈ (c.store.startEpisode _ _ _).actions at ha
    rw [startEpisode_actions] at ha
    exact nomatch (h.not_isOpen hnone ha).symm.trans hopen
  case isOpen =>
    rintro e id ⟨⟩ hactive
    exact nomatch hactive

theorem Linked.assess (h : Linked c) {e : Episode} (hcurrent : c.current = some e) (r : DiagnosisCall) :
    Linked (c.assess r) := by
  have htaken := h.modifyCurrent hcurrent (e.takeUp (c.request r e)) rfl rfl
    (current_eq_some.mp hcurrent).2 (some (c.request r e).diagnose)
  rw [assess_of_current hcurrent]
  split_ifs
  · exact htaken.complete r.now true
  · exact htaken

theorem Linked.diagnose (h : Linked c) (r : DiagnosisCall) : Linked (c.diagnose r) := by
  rcases diagnose_cases c r with hsame | ⟨hnone, _, hnew⟩ | ⟨e, hcurrent, _, _, hassessed⟩
  · rw [hsame]
    exact h
  · rw [hnew]
    exact (h.openEpisode hnone r).assess rfl r
  · rw [hassessed]
    exact h.assess hcurrent r

/-! ## Brackets -/

structure Bracketed (c : Coordinator) (call : CoordinatorCall) : Prop where
  /-- Every action of an episode that is closed is finished. -/
  closed : ∀ e, (c.call call).episode = some e → e.finished = true →
    (c.call call).store.openActions e.episodeId = []
  /-- At most one action of an episode is open. -/
  single : ∀ episodeId, ((c.call call).store.openActions episodeId).length ≤ 1

/-- An action begins while none is under way. -/
def Alone (c : Coordinator) : CoordinatorCall → Prop
  | .beginAction _ _ _ => ∀ e, c.current = some e → e.activeActionId = none
  | _ => True

theorem Linked.call (h : Linked c) {call : CoordinatorCall} (halone : Alone c call) :
    Linked (c.call call) := by
  cases call with
  | diagnose r => exact h.diagnose r
  | authorize episodeId level actionType => exact h
  | beginAction now level actionType => exact h.beginAction now level actionType halone
  | finishAction now actionId success => exact h.finishAction now actionId success
  | advance => exact h.advance
  | complete now success => exact h.complete now success

theorem Linked.openActions_length (h : Linked c) (episodeId : Uuid) :
    (c.store.openActions episodeId).length ≤ 1 := by
  have hnodup : (c.store.openActions episodeId).Nodup := (List.Nodup.of_map _ c.store.actionIds).filter _
  by_contra hmany
  obtain ⟨a, b, rest, hrows⟩ : ∃ a b rest, c.store.openActions episodeId = a :: b :: rest := by
    match hrows : c.store.openActions episodeId with
    | [] => rw [hrows] at hmany; exact absurd (Nat.zero_le 1) hmany
    | [a] => rw [hrows] at hmany; exact absurd (le_refl 1) hmany
    | a :: b :: rest => exact ⟨a, b, rest, rfl⟩
  have ha := mem_openActions.mp (hrows ▸ List.mem_cons_self)
  have hb := mem_openActions.mp (hrows ▸ List.mem_cons_of_mem a List.mem_cons_self)
  obtain ⟨e, he, _, hactive⟩ := h.isUnderWay a ha.1 ha.2.2
  obtain ⟨e', he', _, hactive'⟩ := h.isUnderWay b hb.1 hb.2.2
  obtain rfl := Option.some.inj (he.symm.trans he')
  have hsame : a = b := List.inj_on_of_nodup_map c.store.actionIds ha.1 hb.1
    (Option.some.inj (hactive.symm.trans hactive'))
  rw [hrows, hsame, List.nodup_cons] at hnodup
  exact hnodup.1 List.mem_cons_self

theorem Linked.openActions_closed (h : Linked c) {e : Episode} (hepisode : c.episode = some e)
    (hfinished : e.finished = true) (episodeId : Uuid) : c.store.openActions episodeId = [] := by
  have hnone : c.current = none := by
    rw [current_eq_none]
    intro x hx
    obtain rfl := Option.some.inj (hepisode.symm.trans hx)
    exact hfinished
  rw [List.eq_nil_iff_forall_not_mem]
  intro a ha
  obtain ⟨hmem, _, hopen⟩ := mem_openActions.mp ha
  exact nomatch (h.not_isOpen hnone hmem).symm.trans hopen

theorem Linked.two_open (h : Linked c) {e : Episode} (hcurrent : c.current = some e) {id : Uuid}
    (hactive : e.activeActionId = some id) (now : Now) (level : ℤ) (actionType : String) :
    2 ≤ ((c.beginAction now level actionType).store.openActions e.episodeId).length := by
  obtain ⟨a, ha, _, hepisodeId, hopen⟩ := h.isOpen e id hcurrent hactive
  have hnew : c.nextId ∉ c.store.actions.map ActionRow.actionId := by
    intro hmem
    obtain ⟨b, hb, hsame⟩ := List.mem_map.mp hmem
    exact lt_irrefl _ (hsame ▸ h.actionIds b hb)
  unfold Coordinator.beginAction Tables.openActions
  rw [hcurrent]
  dsimp only
  rw [startAction_actions _ _ _ hnew (h.stored e hcurrent), List.filter_append, List.length_append]
  have hold : 1 ≤ (c.store.openActions e.episodeId).length :=
    List.length_pos_of_mem (mem_openActions.mpr ⟨ha, hepisodeId, hopen⟩)
  have hadded : (List.filter (fun a => decide (a.episodeId = e.episodeId) && a.isOpen)
      [({ actionId := c.nextId
          episodeId := e.episodeId
          level := (min 3 (max e.currentLevel level.toNat) : ℕ)
          actionType := actionType
          startedAt := now.wall } : ActionRow)]).length = 1 := by
    simp [ActionRow.isOpen]
  unfold Tables.openActions at hold
  omega

theorem bracketed_iff_alone (h : Linked c) (call : CoordinatorCall) : Bracketed c call ↔ Alone c call := by
  constructor
  · intro hbracketed
    cases call with
    | beginAction now level actionType =>
      intro e hcurrent
      cases hactive : e.activeActionId with
      | none => rfl
      | some id =>
        have htwo := h.two_open hcurrent hactive now level actionType
        have hone := hbracketed.single e.episodeId
        change ((c.beginAction now level actionType).store.openActions e.episodeId).length ≤ 1 at hone
        omega
    | diagnose r => trivial
    | authorize episodeId level actionType => trivial
    | finishAction now actionId success => trivial
    | advance => trivial
    | complete now success => trivial
  · intro halone
    have hlinked := h.call halone
    exact ⟨fun e hepisode hfinished => hlinked.openActions_closed hepisode hfinished e.episodeId,
      hlinked.openActions_length⟩

/-- **A run brackets its actions exactly where no action begins while another is under way.** -/
theorem run_bracketed_iff_alone (t : Tables) (now : ℕ) (calls : List CoordinatorCall) :
    Run.Always Coordinator.call Bracketed (Coordinator.start t now) calls ↔
      Run.Always Coordinator.call Alone (Coordinator.start t now) calls := by
  refine Run.always_iff_of_guarded Linked ?_ ?_ (linked_start t now) calls
  · intro c call h hbracketed
    exact h.call ((bracketed_iff_alone h call).mp hbracketed)
  · intro c call h
    exact bracketed_iff_alone h call

/-- Two actions begin in one episode, and its completion leaves the first open. -/
theorem second_begin_leaves_open :
    ¬∀ (t : Tables) (now : ℕ) (calls : List CoordinatorCall),
      Run.Always Coordinator.call Bracketed (Coordinator.start t now) calls := by
  intro hall
  have hrun := hall Tables.empty 0
    [.diagnose { now := ⟨0, 0⟩, requestedFault := "nav_stuck", scene := .indoor, evidence := {} },
      .beginAction ⟨1, 1⟩ 0 "observe_and_clear", .beginAction ⟨2, 2⟩ 0 "observe_and_clear",
      .complete ⟨3, 3⟩ true]
  have hsingle := hrun.2.2.1.single 1
  revert hsingle
  decide +kernel

end SelfHealing

end RoamerX
