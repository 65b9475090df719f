import Mathlib.Data.List.Induction
import Mathlib.Data.List.Perm.Subperm
import Mathlib.Logic.Function.Basic

set_option autoImplicit false

/-! # Numbered tickets

Tickets are issued with the numbers 0, 1, 2 and so on; each is with one holder until it is dropped or spent, and it is
spent once. So where every ticket has a label, a label is spent at most as often as it was issued. -/

namespace Tickets

variable {ι α : Type*}

def OneHolder (holds : ι → Option α) : Prop := ∀ i j, ∀ a ∈ holds i, a ∈ holds j → i = j

theorem OneHolder.update [DecidableEq ι] {holds : ι → Option α} (h : OneHolder holds) {i : ι} {held : Option α}
    (hheld : ∀ a ∈ held, a ∈ holds i ∨ ∀ j, a ∉ holds j) : OneHolder (Function.update holds i held) := by
  have hback : ∀ j, ∀ a ∈ Function.update holds i held j, a ∈ holds j ∨ j = i ∧ ∀ k, a ∉ holds k := by
    intro j a ha
    by_cases hj : j = i
    · subst hj
      rw [Function.update_self] at ha
      exact (hheld a ha).imp id fun hnobody => ⟨rfl, hnobody⟩
    · rw [Function.update_of_ne hj] at ha
      exact Or.inl ha
  intro j k a hj hk
  rcases hback j a hj with hheldj | ⟨rfl, hnobody⟩
  · rcases hback k a hk with hheldk | ⟨-, hnobody⟩
    · exact h j k a hheldj hheldk
    · exact absurd hheldj (hnobody j)
  · rcases hback k a hk with hheldk | ⟨rfl, -⟩
    · exact absurd hheldk (hnobody k)
    · rfl

theorem filterMap_range (labels : List α) :
    ((List.range labels.length).filterMap fun ticket => labels[ticket]?) = labels := by
  induction labels using List.reverseRecOn with
  | nil => rfl
  | append_singleton labels last ih =>
    have hbefore : ((List.range labels.length).filterMap fun ticket => (labels ++ [last])[ticket]?) =
        (List.range labels.length).filterMap fun ticket => labels[ticket]? :=
      List.filterMap_congr fun ticket hticket => List.getElem?_append_left (List.mem_range.mp hticket)
    rw [List.length_append, List.length_singleton, List.range_succ, List.filterMap_append, hbefore, ih]
    simp

/-- The tickets that are with a holder were issued and not spent, each with one holder, and none is spent twice. -/
structure Kept (issued : ℕ) (holds : ι → Option ℕ) (spent : List ℕ) : Prop where
  spentOnce : spent.Nodup
  spent_lt : ∀ ticket ∈ spent, ticket < issued
  held_lt : ∀ i, ∀ ticket ∈ holds i, ticket < issued
  unspent : ∀ i, ∀ ticket ∈ holds i, ticket ∉ spent
  oneHolder : OneHolder holds

namespace Kept

variable {issued : ℕ} {holds : ι → Option ℕ} {spent : List ℕ}

theorem initial : Kept 0 (fun _ : ι => none) [] where
  spentOnce := List.nodup_nil
  spent_lt _ hmem := nomatch hmem
  held_lt _ _ hheld := nomatch hheld
  unspent _ _ hheld := nomatch hheld
  oneHolder _ _ _ hheld := nomatch hheld

variable [DecidableEq ι] (h : Kept issued holds spent)

include h

theorem keep (i : ι) (held : Option ℕ) (hheld : ∀ ticket ∈ held, ticket ∈ holds i) :
    Kept issued (Function.update holds i held) spent := by
  have hback : ∀ j, ∀ ticket ∈ Function.update holds i held j, ticket ∈ holds j := by
    intro j ticket hticket
    by_cases hj : j = i
    · subst hj
      rw [Function.update_self] at hticket
      exact hheld ticket hticket
    · rwa [Function.update_of_ne hj] at hticket
  exact ⟨h.spentOnce, h.spent_lt, fun j ticket hticket => h.held_lt j ticket (hback j ticket hticket),
    fun j ticket hticket => h.unspent j ticket (hback j ticket hticket),
    h.oneHolder.update fun ticket hticket => Or.inl (hheld ticket hticket)⟩

theorem issue (i : ι) : Kept (issued + 1) (Function.update holds i (some issued)) spent := by
  have hback : ∀ j, ∀ ticket ∈ Function.update holds i (some issued) j, ticket ∈ holds j ∨ ticket = issued := by
    intro j ticket hticket
    by_cases hj : j = i
    · subst hj
      rw [Function.update_self] at hticket
      exact Or.inr (Option.some.inj hticket).symm
    · rw [Function.update_of_ne hj] at hticket
      exact Or.inl hticket
  refine ⟨h.spentOnce, fun ticket hticket => Nat.lt_succ_of_lt (h.spent_lt ticket hticket), ?_, ?_, ?_⟩
  · intro j ticket hticket
    rcases hback j ticket hticket with hheld | rfl
    · exact Nat.lt_succ_of_lt (h.held_lt j ticket hheld)
    · exact Nat.lt_succ_self _
  · intro j ticket hticket
    rcases hback j ticket hticket with hheld | rfl
    · exact h.unspent j ticket hheld
    · exact fun hspent => Nat.lt_irrefl _ (h.spent_lt _ hspent)
  · refine h.oneHolder.update fun ticket hticket => Or.inr fun j hj => ?_
    obtain rfl : issued = ticket := Option.some.inj hticket
    exact Nat.lt_irrefl _ (h.held_lt j _ hj)

theorem spend (i : ι) {ticket : ℕ} (hticket : ticket ∈ holds i) :
    Kept issued (Function.update holds i none) (spent ++ [ticket]) := by
  have hdropped := h.keep i none nofun
  refine ⟨?_, ?_, hdropped.held_lt, ?_, hdropped.oneHolder⟩
  · refine List.nodup_append.mpr ⟨h.spentOnce, List.pairwise_singleton _ ticket, fun other hother last hlast => ?_⟩
    rintro rfl
    exact h.unspent i ticket hticket (List.mem_singleton.mp hlast ▸ hother)
  · intro other hother
    rcases List.mem_append.mp hother with hbefore | hlast
    · exact h.spent_lt other hbefore
    · exact h.held_lt i other (List.mem_singleton.mp hlast ▸ hticket)
  · intro j other hother hspent
    rcases List.mem_append.mp hspent with hbefore | hlast
    · exact hdropped.unspent j other hother hbefore
    · obtain rfl := List.mem_singleton.mp hlast
      by_cases hj : j = i
      · subst hj
        rw [Function.update_self] at hother
        exact nomatch hother
      · rw [Function.update_of_ne hj] at hother
        exact hj (h.oneHolder j i other hother hticket)

omit [DecidableEq ι] in
theorem count_spent_le [DecidableEq α] {labels : List α} (hlabels : labels.length = issued) (a : α) :
    (spent.filterMap fun ticket => labels[ticket]?).count a ≤ labels.count a := by
  have hrange : spent.Subperm (List.range labels.length) :=
    List.subperm_of_subset h.spentOnce fun ticket hticket =>
      List.mem_range.mpr (hlabels ▸ h.spent_lt ticket hticket)
  obtain ⟨some, hperm, hsub⟩ := hrange
  calc (spent.filterMap fun ticket => labels[ticket]?).count a
      = (some.filterMap fun ticket => labels[ticket]?).count a := ((hperm.filterMap _).count_eq a).symm
    _ ≤ ((List.range labels.length).filterMap fun ticket => labels[ticket]?).count a := (hsub.filterMap _).count_le a
    _ = labels.count a := by rw [filterMap_range]

end Kept

end Tickets
