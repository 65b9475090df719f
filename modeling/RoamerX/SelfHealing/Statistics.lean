import RoamerX.Lib.Run
import RoamerX.SelfHealing.Store

set_option autoImplicit false

/-! # Statistics and pruning

A prune moves rows into the summary, and the statistics add the summary to the rows that are left. They
come out the same exactly where every action that is moved was finished: the summary takes up the others
too, the statistics of the rows do not. -/

namespace RoamerX

namespace SelfHealing

open GroupBy

/-! ## Reports -/

theorem precedes_trans (a b c : Statistic) (hab : precedes a b = true) (hbc : precedes b c = true) :
    precedes a c = true := by
  simp only [precedes, Bool.or_eq_true, Bool.and_eq_true, decide_eq_true_eq] at hab hbc ⊢
  rcases hab with hab | ⟨hab, hlabels⟩
  · rcases hbc with hbc | ⟨hbc, _⟩
    · exact Or.inl (hbc.trans hab)
    · exact Or.inl (hbc ▸ hab)
  · rcases hbc with hbc | ⟨hbc, hlabels'⟩
    · exact Or.inl (hab ▸ hbc)
    · exact Or.inr ⟨hab.trans hbc, hlabels.trans hlabels'⟩

theorem precedes_total (a b : Statistic) : (precedes a b || precedes b a) = true := by
  simp only [precedes, Bool.or_eq_true, Bool.and_eq_true, decide_eq_true_eq]
  rcases lt_trichotomy a.total b.total with hlt | heq | hgt
  · exact Or.inr (Or.inl hlt)
  · rcases le_total a.label b.label with hle | hle
    · exact Or.inl (Or.inr ⟨heq, hle⟩)
    · exact Or.inr (Or.inr ⟨heq.symm, hle⟩)
  · exact Or.inl (Or.inl hgt)

theorem label_eq_of_precedes {a b : Statistic} (hab : precedes a b = true) (hba : precedes b a = true) :
    a.label = b.label := by
  simp only [precedes, Bool.or_eq_true, Bool.and_eq_true, decide_eq_true_eq] at hab hba
  rcases hab with hab | ⟨htotal, hab⟩
  · rcases hba with hba | ⟨htotal, _⟩
    · exact absurd hab hba.not_gt
    · exact absurd htotal hab.ne
  · rcases hba with hba | ⟨_, hba⟩
    · exact absurd htotal hba.ne
    · exact le_antisymm hab hba

theorem mergeSort_eq_of_perm {xs ys : List Statistic} (hperm : xs.Perm ys)
    (hlabels : (xs.map Statistic.label).Nodup) : xs.mergeSort precedes = ys.mergeSort precedes := by
  have hsorted (zs : List Statistic) :
      (zs.mergeSort precedes).Pairwise fun a b => precedes a b = true :=
    List.pairwise_mergeSort precedes_trans precedes_total zs
  have hx := List.mergeSort_perm xs precedes
  have hy := List.mergeSort_perm ys precedes
  refine List.Perm.eq_of_pairwise ?_ (hsorted xs) (hsorted ys) (hx.trans (hperm.trans hy.symm))
  intro a b ha hb hab hba
  have hb' : b ∈ xs := hperm.symm.subset (hy.subset hb)
  exact List.inj_on_of_nodup_map hlabels (hx.subset ha) hb' (label_eq_of_precedes hab hba)

theorem report_eq {xs ys : List (String × Tally)} (hkeys : ∀ k, k ∈ keys xs ↔ k ∈ keys ys)
    (hsums : ∀ k, sumOf (· = k) xs = sumOf (· = k) ys) : report xs = report ys := by
  refine mergeSort_eq_of_perm ((groupBy_perm hkeys hsums).map statistic) ?_
  have hlabels : ((groupBy xs).map statistic).map Statistic.label = keys (groupBy xs) := by
    rw [List.map_map]
    rfl
  rw [hlabels, keys_groupBy]
  exact List.nodup_dedup _

theorem sum_total_report (xs : List (String × Tally)) :
    ((report xs).map Statistic.total).sum = (sumOf (fun _ => True) xs).1 := by
  rw [← sumOf_groupBy]
  have hperm := (List.mergeSort_perm ((groupBy xs).map statistic) precedes).map Statistic.total
  rw [report, hperm.sum_eq, List.map_map]
  generalize groupBy xs = entries
  induction entries with
  | nil => rfl
  | cons e entries ih =>
    rw [List.map_cons, List.sum_cons, ih, sumOf_cons, if_pos trivial]
    rfl

/-! ## The rows of one category -/

section Category

variable (category : Category)

theorem sumOf_ofCategory (P : String → Prop) [DecidablePred P] (summary : List (SummaryKey × Tally)) :
    sumOf P (ofCategory category summary) =
      sumOf (fun key => key.category = category ∧ P key.label) summary := by
  induction summary with
  | nil => rfl
  | cons e summary ih =>
    rw [sumOf_cons, ← ih]
    by_cases hcategory : e.1.category = category
    · have hcons : ofCategory category (e :: summary) =
          (e.1.label, e.2) :: ofCategory category summary := by
        unfold ofCategory
        rw [List.filter_cons_of_pos (by simpa using hcategory), List.map_cons]
      rw [hcons, sumOf_cons]
      simp only [hcategory, true_and]
    · have hcons : ofCategory category (e :: summary) = ofCategory category summary := by
        unfold ofCategory
        rw [List.filter_cons_of_neg (by simpa using hcategory)]
      rw [hcons, if_neg (fun h => hcategory h.1), zero_add]

theorem mem_keys_ofCategory {summary : List (SummaryKey × Tally)} {label : String} :
    label ∈ keys (ofCategory category summary) ↔
      ∃ key ∈ keys summary, key.category = category ∧ key.label = label := by
  simp only [keys, ofCategory, List.mem_map, List.mem_filter, decide_eq_true_eq]
  constructor
  · rintro ⟨_, ⟨e, ⟨he, hcategory⟩, rfl⟩, rfl⟩
    exact ⟨e.1, ⟨e, he, rfl⟩, hcategory, rfl⟩
  · rintro ⟨_, ⟨e, he, rfl⟩, hcategory, rfl⟩
    exact ⟨(e.1.label, e.2), ⟨e, ⟨he, hcategory⟩, rfl⟩, rfl⟩

theorem sumOf_combined (P : String → Prop) [DecidablePred P] (live : List (String × Tally))
    (summary : List (SummaryKey × Tally)) :
    sumOf P (combined live category summary) =
      sumOf P live + sumOf (fun key => key.category = category ∧ P key.label) summary := by
  rw [combined, sumOf_append, sumOf_groupBy, sumOf_ofCategory]

theorem mem_keys_combined {live : List (String × Tally)} {summary : List (SummaryKey × Tally)}
    {label : String} :
    label ∈ keys (combined live category summary) ↔
      label ∈ keys live ∨ ∃ key ∈ keys summary, key.category = category ∧ key.label = label := by
  have happend : keys (combined live category summary) =
      keys (groupBy live) ++ keys (ofCategory category summary) := List.map_append
  rw [happend, List.mem_append, mem_keys_groupBy, mem_keys_ofCategory]

end Category

/-! ## What a prune moves -/

variable (t : Tables) (now : ℕ) (retention : ℤ)

theorem episodes_of_action (a : ActionRow) (p : EpisodeRow → Bool) :
    (t.episodes.filter fun e => decide (e.episodeId = a.episodeId) && p e).map (fun _ => a) =
      if t.episodes.any fun e => decide (e.episodeId = a.episodeId) && p e then [a] else [] := by
  have hids := t.episodeIds
  generalize t.episodes = episodes at hids
  induction episodes with
  | nil => rfl
  | cons e episodes ih =>
    rw [List.map_cons, List.nodup_cons] at hids
    by_cases hmatch : (decide (e.episodeId = a.episodeId) && p e) = true
    · -- the ids of the others are different
      have hothers : (episodes.filter fun x => decide (x.episodeId = a.episodeId) && p x) = [] := by
        rw [List.filter_eq_nil_iff]
        intro x hx hx'
        simp only [Bool.and_eq_true, decide_eq_true_eq] at hmatch hx'
        exact hids.1 ((hmatch.1.trans hx'.1.symm) ▸ List.mem_map_of_mem hx)
      rw [List.filter_cons, if_pos hmatch, hothers, List.map_cons, List.map_nil, List.any_cons, hmatch,
        Bool.true_or, if_pos rfl]
    · rw [List.filter_cons, if_neg hmatch, ih hids.2, List.any_cons, Bool.eq_false_iff.mpr hmatch,
        Bool.false_or]

theorem prunedActions_eq : t.prunedActions now retention = t.actions.filter (t.prunes now retention) := by
  unfold Tables.prunedActions
  generalize t.actions = actions
  induction actions with
  | nil => rfl
  | cons a actions ih =>
    rw [List.flatMap_cons, ih, episodes_of_action]
    change (if t.prunes now retention a = true then [a] else []) ++ _ = _
    by_cases hprunes : t.prunes now retention a = true
    · rw [if_pos hprunes, List.filter_cons_of_pos hprunes]
      rfl
    · rw [if_neg hprunes, List.filter_cons_of_neg hprunes]
      rfl

theorem sumOf_prunedSummary (P : SummaryKey → Prop) [DecidablePred P] :
    sumOf P (t.prunedSummary now retention) =
      sumOf P t.summary +
        sumOf P ((t.episodes.filter (EpisodeRow.beyond now retention)).map EpisodeRow.entry) +
        sumOf P ((t.actions.filter (t.prunes now retention)).map ActionRow.entry) := by
  unfold Tables.prunedSummary
  rw [sumOf_merge P (nodup_keys_merge t.summaryKeys _), sumOf_merge P t.summaryKeys, sumOf_groupBy,
    sumOf_groupBy, prunedActions_eq]

theorem mem_keys_prunedSummary {key : SummaryKey} :
    key ∈ keys (t.prunedSummary now retention) ↔
      key ∈ keys t.summary ∨
        key ∈ keys ((t.episodes.filter (EpisodeRow.beyond now retention)).map EpisodeRow.entry) ∨
        key ∈ keys ((t.actions.filter (t.prunes now retention)).map ActionRow.entry) := by
  unfold Tables.prunedSummary
  rw [mem_keys_merge, mem_keys_merge, mem_keys_groupBy, mem_keys_groupBy, prunedActions_eq, or_assoc]

/-! ## A category before and after a prune -/

section Moved

variable {α : Type*} (rows : List α) (finished moved : α → Bool) (labelled : α → String × Tally)

/-- The rows that are left and those that are moved are the finished ones, and those that were moved
    unfinished. -/
theorem sumOf_moved (P : String → Prop) [DecidablePred P] :
    sumOf P (((rows.filter fun x => !moved x).filter finished).map labelled) +
        sumOf P ((rows.filter moved).map labelled) =
      sumOf P ((rows.filter finished).map labelled) +
        sumOf P ((rows.filter fun x => moved x && !finished x).map labelled) := by
  induction rows with
  | nil => rfl
  | cons x rows ih =>
    cases hmoved : moved x with
    | true =>
      cases hfinished : finished x with
      | true =>
        simp only [List.filter_cons, hmoved, hfinished, Bool.not_true, Bool.and_false, if_true,
          Bool.false_eq_true, if_false, List.map_cons, sumOf_cons]
        rw [add_left_comm, ih, add_assoc]
      | false =>
        simp only [List.filter_cons, hmoved, hfinished, Bool.not_true, Bool.not_false, Bool.and_true,
          if_true, Bool.false_eq_true, if_false, List.map_cons, sumOf_cons]
        rw [add_left_comm, ih, add_left_comm]
    | false =>
      cases hfinished : finished x with
      | true =>
        simp only [List.filter_cons, hmoved, hfinished, Bool.not_false, Bool.false_and, if_true,
          Bool.false_eq_true, if_false, List.map_cons, sumOf_cons]
        rw [add_assoc, ih, add_assoc]
      | false =>
        simp only [List.filter_cons, hmoved, hfinished, Bool.not_false, Bool.false_and, if_true,
          Bool.false_eq_true, if_false]
        exact ih

theorem total_rows (hone : ∀ x, (labelled x).2.1 = 1) :
    (sumOf (fun _ => True) (rows.map labelled)).1 = rows.length := by
  induction rows with
  | nil => rfl
  | cons x rows ih =>
    rw [List.map_cons, sumOf_cons, if_pos trivial, Prod.fst_add, hone, ih, List.length_cons]
    push_cast
    exact add_comm _ _

variable (category : Category) (before after : List (SummaryKey × Tally))

theorem report_moved_iff (hone : ∀ x, (labelled x).2.1 = 1)
    (hsums : ∀ (P : String → Prop) [DecidablePred P],
      sumOf (fun key => key.category = category ∧ P key.label) after =
        sumOf (fun key => key.category = category ∧ P key.label) before +
          sumOf P ((rows.filter moved).map labelled))
    (hkeys : ∀ label, (∃ key ∈ keys after, key.category = category ∧ key.label = label) ↔
      (∃ key ∈ keys before, key.category = category ∧ key.label = label) ∨
        label ∈ keys ((rows.filter moved).map labelled)) :
    report (combined (((rows.filter fun x => !moved x).filter finished).map labelled) category after) =
        report (combined ((rows.filter finished).map labelled) category before) ↔
      ∀ x ∈ rows, moved x = true → finished x = true := by
  -- what a prune adds to a sum is what was moved unfinished
  have hgain (P : String → Prop) [DecidablePred P] :
      sumOf P (combined (((rows.filter fun x => !moved x).filter finished).map labelled) category after) =
        sumOf P (combined ((rows.filter finished).map labelled) category before) +
          sumOf P ((rows.filter fun x => moved x && !finished x).map labelled) := by
    have hmoved := sumOf_moved rows finished moved labelled P
    rw [sumOf_combined, sumOf_combined, hsums, add_right_comm, ← hmoved, add_right_comm, add_assoc]
  constructor
  · intro hreport x hx hmoved
    have htotals := congrArg (fun rows => (rows.map Statistic.total).sum) hreport
    simp only [sum_total_report] at htotals
    rw [hgain, Prod.fst_add, total_rows _ _ hone] at htotals
    have hnone : (rows.filter fun x => moved x && !finished x).length = 0 := by omega
    rw [List.length_eq_zero_iff, List.filter_eq_nil_iff] at hnone
    simpa [hmoved] using hnone x hx
  · intro hfinished
    have hnone : (rows.filter fun x => moved x && !finished x) = [] := by
      rw [List.filter_eq_nil_iff]
      intro x hx
      cases hmoved : moved x with
      | false => simp
      | true => simp [hfinished x hx hmoved]
    refine report_eq ?_ fun k => ?_
    · intro label
      rw [mem_keys_combined, mem_keys_combined, hkeys]
      have hlive : label ∈ keys (((rows.filter fun x => !moved x).filter finished).map labelled) ∨
          label ∈ keys ((rows.filter moved).map labelled) ↔
          label ∈ keys ((rows.filter finished).map labelled) := by
        simp only [keys, List.map_map, List.mem_map, List.mem_filter, Bool.not_eq_true']
        constructor
        · rintro (⟨x, ⟨⟨hx, _⟩, hfin⟩, rfl⟩ | ⟨x, ⟨hx, hmoved⟩, rfl⟩)
          · exact ⟨x, ⟨hx, hfin⟩, rfl⟩
          · exact ⟨x, ⟨hx, hfinished x hx hmoved⟩, rfl⟩
        · rintro ⟨x, ⟨hx, hfin⟩, rfl⟩
          cases hmoved : moved x with
          | false => exact Or.inl ⟨x, ⟨⟨hx, hmoved⟩, hfin⟩, rfl⟩
          | true => exact Or.inr ⟨x, ⟨hx, hmoved⟩, rfl⟩
      rw [← hlive]
      exact (or_congr_right or_comm).trans or_assoc.symm
    · rw [hgain, hnone, List.map_nil, sumOf_nil, add_zero]

end Moved

/-! ## Pruning -/

theorem sumOf_episodeEntries (category : Category) (P : String → Prop) [DecidablePred P]
    (rows : List EpisodeRow) :
    sumOf (fun key => key.category = category ∧ P key.label) (rows.map EpisodeRow.entry) =
      if category = .fault then sumOf P (rows.map EpisodeRow.labelled) else 0 := by
  induction rows with
  | nil => exact (ite_self _).symm
  | cons e rows ih =>
    rw [List.map_cons, sumOf_cons, ih, List.map_cons, sumOf_cons]
    cases category with
    | fault => simp [EpisodeRow.entry]
    | action => simp [EpisodeRow.entry]

theorem sumOf_actionEntries (category : Category) (P : String → Prop) [DecidablePred P]
    (rows : List ActionRow) :
    sumOf (fun key => key.category = category ∧ P key.label) (rows.map ActionRow.entry) =
      if category = .action then sumOf P (rows.map ActionRow.labelled) else 0 := by
  induction rows with
  | nil => exact (ite_self _).symm
  | cons a rows ih =>
    rw [List.map_cons, sumOf_cons, ih, List.map_cons, sumOf_cons]
    cases category with
    | fault => simp [ActionRow.entry]
    | action => simp [ActionRow.entry]

theorem mem_keys_episodeEntries (category : Category) (rows : List EpisodeRow) (label : String) :
    (∃ key ∈ keys (rows.map EpisodeRow.entry), key.category = category ∧ key.label = label) ↔
      category = .fault ∧ label ∈ keys (rows.map EpisodeRow.labelled) := by
  simp only [keys, List.map_map, List.mem_map]
  constructor
  · rintro ⟨_, ⟨e, he, rfl⟩, hcategory, hlabel⟩
    exact ⟨hcategory.symm, e, he, hlabel⟩
  · rintro ⟨rfl, e, he, hlabel⟩
    exact ⟨e.entry.1, ⟨e, he, rfl⟩, rfl, hlabel⟩

theorem mem_keys_actionEntries (category : Category) (rows : List ActionRow) (label : String) :
    (∃ key ∈ keys (rows.map ActionRow.entry), key.category = category ∧ key.label = label) ↔
      category = .action ∧ label ∈ keys (rows.map ActionRow.labelled) := by
  simp only [keys, List.map_map, List.mem_map]
  constructor
  · rintro ⟨_, ⟨a, ha, rfl⟩, hcategory, hlabel⟩
    exact ⟨hcategory.symm, a, ha, hlabel⟩
  · rintro ⟨rfl, a, ha, hlabel⟩
    exact ⟨a.entry.1, ⟨a, ha, rfl⟩, rfl, hlabel⟩

theorem mem_labels_prunedSummary (category : Category) (label : String) :
    (∃ key ∈ keys (t.prunedSummary now retention), key.category = category ∧ key.label = label) ↔
      (∃ key ∈ keys t.summary, key.category = category ∧ key.label = label) ∨
        (category = .fault ∧ label ∈
          keys ((t.episodes.filter (EpisodeRow.beyond now retention)).map EpisodeRow.labelled)) ∨
        (category = .action ∧ label ∈
          keys ((t.actions.filter (t.prunes now retention)).map ActionRow.labelled)) := by
  rw [← mem_keys_episodeEntries, ← mem_keys_actionEntries]
  simp only [mem_keys_prunedSummary, or_and_right, exists_or]

theorem faults_pruned :
    (t.pruned now retention).selfHealStatistics.faults = t.selfHealStatistics.faults := by
  refine (report_moved_iff t.episodes (fun e => e.finishedAt.isSome) (EpisodeRow.beyond now retention)
    EpisodeRow.labelled .fault t.summary (t.prunedSummary now retention) (fun _ => rfl) ?_ ?_).mpr ?_
  · intro P _
    rw [sumOf_prunedSummary, sumOf_episodeEntries, sumOf_actionEntries, if_pos rfl, if_neg (by decide),
      add_zero]
  · intro label
    rw [mem_labels_prunedSummary]
    simp
  · intro e _ hbeyond
    exact (Bool.and_eq_true_iff.mp hbeyond).1

theorem actions_pruned_iff :
    (t.pruned now retention).selfHealStatistics.actions = t.selfHealStatistics.actions ↔
      ∀ a ∈ t.actions, t.prunes now retention a = true → a.finishedAt.isSome = true := by
  refine report_moved_iff t.actions (fun a => a.finishedAt.isSome) (t.prunes now retention)
    ActionRow.labelled .action t.summary (t.prunedSummary now retention) (fun _ => rfl) ?_ ?_
  · intro P _
    rw [sumOf_prunedSummary, sumOf_episodeEntries, sumOf_actionEntries, if_neg (by decide), if_pos rfl,
      add_zero]
  · intro label
    rw [mem_labels_prunedSummary]
    simp

/-- Every action of an episode that a prune removes is finished, or the prune raises. -/
def PrunesFinished (t : Tables) (now : ℕ) (retention : ℤ) : Prop :=
  (t.pruned now retention).foreignKeysHold = true →
    ∀ a ∈ t.actions, t.prunes now retention a = true → a.finishedAt.isSome = true

instance : Decidable (PrunesFinished t now retention) := inferInstanceAs (Decidable (_ → _))

theorem selfHealStatistics_prune_iff :
    (t.pruneSelfHealing now retention).selfHealStatistics = t.selfHealStatistics ↔
      PrunesFinished t now retention := by
  unfold Tables.pruneSelfHealing PrunesFinished
  by_cases hkeys : (t.pruned now retention).foreignKeysHold = true
  · rw [if_pos hkeys, forall_prop_of_true hkeys, ← actions_pruned_iff]
    constructor
    · exact fun h => congrArg Statistics.actions h
    · intro hactions
      exact Statistics.ext (faults_pruned t now retention) hactions
  · rw [if_neg hkeys]
    exact iff_of_true rfl fun h => absurd h hkeys

/-! ## Runs -/

inductive StoreCall
  | startEpisode (now : ℕ) (episodeId : Uuid) (faultLabel : String)
  | finishEpisode (now : ℕ) (episodeId : Uuid) (success : Bool) (duration : ℚ)
  | startAction (now : ℕ) (actionId episodeId : Uuid) (level : ℤ) (actionType : String)
  | finishAction (now : ℕ) (actionId : Uuid) (success : Bool) (duration : Option ℚ)
  | reconcile (now : ℕ)
  | prune (now : ℕ) (retention : ℤ)

def Tables.call (t : Tables) : StoreCall → Tables
  | .startEpisode now episodeId faultLabel => t.startEpisode now episodeId faultLabel
  | .finishEpisode now episodeId success duration => t.finishEpisode now episodeId success duration
  | .startAction now actionId episodeId level actionType =>
    t.startAction now actionId episodeId level actionType
  | .finishAction now actionId success duration => t.finishAction now actionId success duration
  | .reconcile now => t.reconcile now
  | .prune now retention => t.pruneSelfHealing now retention

/-- A prune leaves the statistics as they are. -/
def KeepsStatistics (t : Tables) : StoreCall → Prop
  | .prune now retention => (t.pruneSelfHealing now retention).selfHealStatistics = t.selfHealStatistics
  | _ => True

/-- A prune removes no episode with an unfinished action. -/
def RemovesFinished (t : Tables) : StoreCall → Prop
  | .prune now retention => PrunesFinished t now retention
  | _ => True

/-- The tables of an episode that was completed with an action left open, two days ago. -/
def leftOpen : Tables :=
  ((Tables.empty.startEpisode 0 1 "nav_stuck").startAction 0 2 1 0 "observe_and_clear").finishEpisode 60 1
    true 60

end SelfHealing

end RoamerX
