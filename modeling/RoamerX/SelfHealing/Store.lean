import Mathlib.Algebra.Group.Prod
import Mathlib.Algebra.Order.Ring.Rat
import Mathlib.Algebra.BigOperators.Group.List.Basic
import Mathlib.Data.String.Basic
import RoamerX.Lib.GroupBy
import RoamerX.Center.Models

set_option autoImplicit false

/-! # The records of self healing

The tables `self_heal_episodes`, `self_heal_actions` and `self_heal_daily_summary` of `LocalStore`, with
the calls that write them and the statistics that are read from them. Times are seconds of UTC. What no
statistic reads of an episode is left out. -/

namespace RoamerX

namespace SelfHealing

/-! ## Tables -/

/-- A row of `self_heal_episodes`. -/
structure EpisodeRow where
  episodeId : Uuid
  faultLabel : String
  success : Option Bool := none
  durationSeconds : Option ℚ := none
  startedAt : ℕ
  finishedAt : Option ℕ := none
  deriving DecidableEq

/-- A row of `self_heal_actions`. -/
structure ActionRow where
  actionId : Uuid
  episodeId : Uuid
  level : ℤ
  actionType : String
  success : Option Bool := none
  durationSeconds : Option ℚ := none
  startedAt : ℕ
  finishedAt : Option ℕ := none
  deriving DecidableEq

inductive Category
  | fault
  | action
  deriving DecidableEq

/-- The primary key of `self_heal_daily_summary`. -/
structure SummaryKey where
  summaryDate : ℕ
  category : Category
  label : String
  deriving DecidableEq

/-- `total`, `succeeded` and `total_duration_seconds`. -/
abbrev Tally : Type := ℤ × ℤ × ℚ

/-- The tables, with their primary keys. -/
structure Tables where
  episodes : List EpisodeRow
  actions : List ActionRow
  summary : List (SummaryKey × Tally)
  episodeIds : (episodes.map EpisodeRow.episodeId).Nodup
  actionIds : (actions.map ActionRow.actionId).Nodup
  summaryKeys : (GroupBy.keys summary).Nodup

def Tables.empty : Tables where
  episodes := []
  actions := []
  summary := []
  episodeIds := List.nodup_nil
  actionIds := List.nodup_nil
  summaryKeys := List.nodup_nil

def Tables.mapEpisodes (t : Tables) (f : EpisodeRow → EpisodeRow)
    (hf : ∀ e, (f e).episodeId = e.episodeId) : Tables :=
  { t with
    episodes := t.episodes.map f
    episodeIds := by
      have hsame : EpisodeRow.episodeId ∘ f = EpisodeRow.episodeId := funext hf
      rw [List.map_map, hsame]
      exact t.episodeIds }

def Tables.mapActions (t : Tables) (f : ActionRow → ActionRow) (hf : ∀ a, (f a).actionId = a.actionId) :
    Tables :=
  { t with
    actions := t.actions.map f
    actionIds := by
      have hsame : ActionRow.actionId ∘ f = ActionRow.actionId := funext hf
      rw [List.map_map, hsame]
      exact t.actionIds }

theorem nodup_concat {α β : Type*} (f : α → β) {xs : List α} {x : α} (h : (xs.map f).Nodup)
    (hnew : f x ∉ xs.map f) : ((xs ++ [x]).map f).Nodup := by
  rw [List.map_append, List.map_singleton, List.nodup_append]
  refine ⟨h, List.nodup_singleton _, ?_⟩
  rintro y hy z hz rfl
  rw [List.mem_singleton] at hz
  exact hnew (hz ▸ hy)

/-! ## Writing -/

/-- `start_self_heal_episode`: `INSERT OR IGNORE`. -/
def Tables.startEpisode (t : Tables) (now : ℕ) (episodeId : Uuid) (faultLabel : String) : Tables :=
  if hnew : episodeId ∈ t.episodes.map EpisodeRow.episodeId then t
  else
    { t with
      episodes := t.episodes ++ [{ episodeId := episodeId, faultLabel := faultLabel, startedAt := now }]
      episodeIds := nodup_concat _ t.episodeIds hnew }

/-- The row that `finish_self_heal_episode` writes. -/
def EpisodeRow.finish (now : ℕ) (success : Bool) (duration : ℚ) (e : EpisodeRow) : EpisodeRow :=
  { e with
    success := some success
    durationSeconds := some (max 0 duration)
    finishedAt := some now }

/-- `finish_self_heal_episode`. -/
def Tables.finishEpisode (t : Tables) (now : ℕ) (episodeId : Uuid) (success : Bool) (duration : ℚ) :
    Tables :=
  t.mapEpisodes (fun e => if e.episodeId = episodeId then e.finish now success duration else e)
    (fun e => by split_ifs <;> rfl)

/-- `start_self_heal_action`: `INSERT OR IGNORE`, where the episode is there; without it the foreign key
    raises. -/
def Tables.startAction (t : Tables) (now : ℕ) (actionId episodeId : Uuid) (level : ℤ)
    (actionType : String) : Tables :=
  if hnew : actionId ∈ t.actions.map ActionRow.actionId ∨
      episodeId ∉ t.episodes.map EpisodeRow.episodeId then t
  else
    { t with
      actions := t.actions ++
        [{ actionId := actionId
           episodeId := episodeId
           level := level
           actionType := actionType
           startedAt := now }]
      actionIds := nodup_concat _ t.actionIds (not_or.mp hnew).1 }

/-- The row that `finish_self_heal_action` writes. -/
def ActionRow.finish (now : ℕ) (success : Bool) (duration : Option ℚ) (a : ActionRow) : ActionRow :=
  { a with
    success := some success
    durationSeconds := (duration.map (max 0)) <|> a.durationSeconds
    finishedAt := some now }

/-- `finish_self_heal_action`. -/
def Tables.finishAction (t : Tables) (now : ℕ) (actionId : Uuid) (success : Bool) (duration : Option ℚ) :
    Tables :=
  t.mapActions (fun a => if a.actionId = actionId then a.finish now success duration else a)
    (fun a => by split_ifs <;> rfl)

/-- `reconcile_unfinished_self_healing`. -/
def Tables.reconcile (t : Tables) (now : ℕ) : Tables :=
  let t := t.mapActions
    (fun a => if a.finishedAt.isNone then
      a.finish now false (some ((now : ℚ) - a.startedAt)) else a)
    (fun a => by split_ifs <;> rfl)
  t.mapEpisodes
    (fun e => if e.finishedAt.isNone then e.finish now false ((now : ℚ) - e.startedAt) else e)
    (fun e => by split_ifs <;> rfl)

/-! ## Pruning -/

/-- The columns of a row that are summed. -/
def tally (success : Option Bool) (duration : Option ℚ) : Tally :=
  (1, if success = some true then 1 else 0, duration.getD 0)

/-- `date(started_at)`. -/
def day (startedAt : ℕ) : ℕ := startedAt / 86400

def retentionDays (retention : ℤ) : ℕ := (max 1 retention).toNat

/-- A completed episode beyond the retention. -/
def EpisodeRow.beyond (now : ℕ) (retention : ℤ) (e : EpisodeRow) : Bool :=
  e.finishedAt.isSome && decide (e.startedAt + 86400 * retentionDays retention < now)

/-- The action is of an episode beyond the retention. -/
def Tables.prunes (t : Tables) (now : ℕ) (retention : ℤ) (a : ActionRow) : Bool :=
  t.episodes.any fun e => decide (e.episodeId = a.episodeId) && e.beyond now retention

/-- The join of the actions with the episodes beyond the retention. -/
def Tables.prunedActions (t : Tables) (now : ℕ) (retention : ℤ) : List ActionRow :=
  t.actions.flatMap fun a =>
    (t.episodes.filter fun e => decide (e.episodeId = a.episodeId) && e.beyond now retention).map fun _ => a

def EpisodeRow.labelled (e : EpisodeRow) : String × Tally := (e.faultLabel, tally e.success e.durationSeconds)

def ActionRow.labelled (a : ActionRow) : String × Tally := (a.actionType, tally a.success a.durationSeconds)

/-- What the summary takes up of the episodes. -/
def EpisodeRow.entry (e : EpisodeRow) : SummaryKey × Tally :=
  (⟨day e.startedAt, .fault, e.labelled.1⟩, e.labelled.2)

/-- What the summary takes up of the actions. -/
def ActionRow.entry (a : ActionRow) : SummaryKey × Tally :=
  (⟨day a.startedAt, .action, a.labelled.1⟩, a.labelled.2)

def Tables.prunedSummary (t : Tables) (now : ℕ) (retention : ℤ) : List (SummaryKey × Tally) :=
  GroupBy.merge
    (GroupBy.merge t.summary
      (GroupBy.groupBy ((t.episodes.filter (EpisodeRow.beyond now retention)).map EpisodeRow.entry)))
    (GroupBy.groupBy ((t.prunedActions now retention).map ActionRow.entry))

theorem nodup_map_filter {α β : Type*} {f : α → β} {xs : List α} (h : (xs.map f).Nodup) (p : α → Bool) :
    ((xs.filter p).map f).Nodup :=
  List.Nodup.sublist (List.filter_sublist.map f) h

def Tables.pruned (t : Tables) (now : ℕ) (retention : ℤ) : Tables where
  episodes := t.episodes.filter fun e => !e.beyond now retention
  actions := t.actions.filter fun a => !t.prunes now retention a
  summary := t.prunedSummary now retention
  episodeIds := nodup_map_filter t.episodeIds _
  actionIds := nodup_map_filter t.actionIds _
  summaryKeys := GroupBy.nodup_keys_merge (GroupBy.nodup_keys_merge t.summaryKeys _) _

/-- `PRAGMA foreign_key_check`. -/
def Tables.foreignKeysHold (t : Tables) : Bool :=
  t.actions.all fun a => t.episodes.any fun e => decide (e.episodeId = a.episodeId)

/-- `prune_self_healing`; a violation raises, and the transaction is rolled back. -/
def Tables.pruneSelfHealing (t : Tables) (now : ℕ) (retention : ℤ) : Tables :=
  if (t.pruned now retention).foreignKeysHold then t.pruned now retention else t

/-! ## Statistics -/

structure Statistic where
  label : String
  total : ℤ
  succeeded : ℤ
  averageDurationSeconds : Option ℚ
  deriving DecidableEq

/-- `SUM(total), SUM(succeeded), SUM(total_duration) / NULLIF(SUM(total), 0)`. -/
def statistic (entry : String × Tally) : Statistic where
  label := entry.1
  total := entry.2.1
  succeeded := entry.2.2.1
  averageDurationSeconds := if entry.2.1 = 0 then none else some (entry.2.2.2 / entry.2.1)

/-- `ORDER BY total DESC, label`. -/
def precedes (a b : Statistic) : Bool :=
  decide (b.total < a.total) || (decide (a.total = b.total) && decide (a.label ≤ b.label))

/-- The entries of the summary in a category, by label. -/
def ofCategory (category : Category) (summary : List (SummaryKey × Tally)) : List (String × Tally) :=
  (summary.filter fun e => e.1.category = category).map fun e => (e.1.label, e.2)

/-- The rows that are grouped, `combined`. -/
def combined (live : List (String × Tally)) (category : Category)
    (summary : List (SummaryKey × Tally)) : List (String × Tally) :=
  GroupBy.groupBy live ++ ofCategory category summary

def report (entries : List (String × Tally)) : List Statistic :=
  ((GroupBy.groupBy entries).map statistic).mergeSort precedes

def Tables.liveFaults (t : Tables) : List (String × Tally) :=
  (t.episodes.filter fun e => e.finishedAt.isSome).map EpisodeRow.labelled

def Tables.liveActions (t : Tables) : List (String × Tally) :=
  (t.actions.filter fun a => a.finishedAt.isSome).map ActionRow.labelled

/-- What `self_heal_statistics` answers. -/
@[ext]
structure Statistics where
  faults : List Statistic
  actions : List Statistic
  deriving DecidableEq

def Tables.selfHealStatistics (t : Tables) : Statistics where
  faults := report (combined t.liveFaults .fault t.summary)
  actions := report (combined t.liveActions .action t.summary)

end SelfHealing

end RoamerX
