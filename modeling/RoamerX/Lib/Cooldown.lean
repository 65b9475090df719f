import Mathlib.Algebra.Order.Group.Unbundled.Abs
import Mathlib.Algebra.Order.Group.Int
import Mathlib.Data.List.Pairwise
import Mathlib.Tactic.Linarith

set_option autoImplicit false

/-! # Incidents with a cooldown

Reports come from sources. A report within the cooldown of an incident of its source counts for it, and another one is
a new incident, which keeps the incidents of a source apart. -/

namespace Cooldown

structure Incident (ρ : Type*) where
  source : ρ
  createdAt : ℤ
  reports : ℤ

variable {ρ : Type*} {cooldown now : ℤ} {source : ρ} {incidents incidents' : List (Incident ρ)}

/-- One report more of a source at a time. -/
inductive Reported (cooldown : ℤ) (source : ρ) (now : ℤ) : List (Incident ρ) → List (Incident ρ) → Prop
  /-- A new incident, where none of the source is cooling. -/
  | new (incidents : List (Incident ρ)) (createdAt : ℤ) (hnow : now ≤ createdAt)
      (hquiet : 0 < cooldown → ∀ incident ∈ incidents, incident.source = source → incident.createdAt < now - cooldown) :
      Reported cooldown source now incidents (incidents ++ [⟨source, createdAt, 1⟩])
  /-- One report more of an incident that is cooling. -/
  | counted (front back : List (Incident ρ)) (incident : Incident ρ) (hsource : incident.source = source)
      (hcooling : now - cooldown ≤ incident.createdAt) :
      Reported cooldown source now (front ++ incident :: back)
        (front ++ { incident with reports := incident.reports + 1 } :: back)

/-- No two incidents of a source are less than the cooldown apart. -/
def Apart (cooldown : ℤ) (incidents : List (Incident ρ)) : Prop :=
  incidents.Pairwise fun one other => one.source = other.source → cooldown ≤ |one.createdAt - other.createdAt|

theorem apart_iff_map : Apart cooldown incidents ↔
    (incidents.map fun incident => (incident.source, incident.createdAt)).Pairwise
      fun one other => one.1 = other.1 → cooldown ≤ |one.2 - other.2| := by
  rw [Apart, List.pairwise_map]

theorem Apart.reported (h : Apart cooldown incidents) (hreported : Reported cooldown source now incidents incidents') :
    Apart cooldown incidents' := by
  cases hreported with
  | new _ createdAt hnow hquiet =>
    refine List.pairwise_append.mpr ⟨h, List.pairwise_singleton _ _, fun one hone other hother hsource => ?_⟩
    rw [List.mem_singleton.mp hother] at hsource ⊢
    rcases le_or_gt cooldown 0 with hzero | hpos
    · exact hzero.trans (abs_nonneg _)
    · -- the earlier one had cooled down at the look-up, and the new one was created after it
      have hearlier := hquiet hpos one hone hsource
      rw [abs_sub_comm]
      refine le_trans ?_ (le_abs_self _)
      show cooldown ≤ createdAt - one.createdAt
      linarith
  | counted front back incident hsource hcooling =>
    rw [apart_iff_map, List.map_append, List.map_cons] at h ⊢
    exact h

end Cooldown
