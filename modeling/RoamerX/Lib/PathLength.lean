import Mathlib.Algebra.Group.Basic
import Mathlib.Data.List.Basic
import Mathlib.Tactic.Abel

set_option autoImplicit false

/-! # The length of a path, and what a splice does to it

`pathLength w` adds up the weights of the steps from each element of a list to the next. Replacing a
stretch of the list changes the length by the difference of the two stretches alone, provided the
steps into and out of the stretch weigh the same before and after. For a list in strict order, the
stretch between two bounds is found by filtering. -/

namespace Path

variable {α M : Type*}

/-! ## Length -/

section Length

variable [AddCommGroup M] (w : α → α → M)

/-- The weights of the steps from each element to the next, added up. -/
def pathLength : List α → M
  | [] => 0
  | [_] => 0
  | a :: b :: rest => w a b + pathLength (b :: rest)

/-- The weight of the step from the end of one list to the start of the next. -/
def link (l r : List α) : M :=
  match l.getLast?, r.head? with
  | some a, some b => w a b
  | _, _ => 0

@[simp] theorem pathLength_nil : pathLength w [] = 0 := rfl

@[simp] theorem link_nil_left (r : List α) : link w [] r = 0 := rfl

@[simp] theorem link_nil_right (l : List α) : link w l [] = 0 := by
  cases h : l.getLast? <;> simp [link, h]

theorem link_cons_cons (a b : α) (l r : List α) : link w (a :: b :: l) r = link w (b :: l) r := by
  simp only [link, List.getLast?_cons_cons]

theorem pathLength_cons (a : α) (l : List α) : pathLength w (a :: l) = link w [a] l + pathLength w l := by
  cases l with
  | nil => simp [pathLength]
  | cons b l => rfl

theorem pathLength_append (l r : List α) :
    pathLength w (l ++ r) = pathLength w l + link w l r + pathLength w r := by
  induction l with
  | nil => simp
  | cons a l ih =>
    cases l with
    | nil => rw [List.singleton_append, pathLength_cons, pathLength, zero_add]
    | cons b l =>
      have hstep : ∀ rest, pathLength w (a :: b :: rest) = w a b + pathLength w (b :: rest) :=
        fun _ => rfl
      rw [List.cons_append, List.cons_append, hstep, ← List.cons_append, ih, hstep, link_cons_cons]
      abel

theorem pathLength_congr {w w' : α → α → M} {l : List α} (h : ∀ a ∈ l, ∀ b ∈ l, w a b = w' a b) :
    pathLength w l = pathLength w' l := by
  induction l with
  | nil => rfl
  | cons a l ih =>
    have htail := ih (fun x hx y hy => h x (by simp [hx]) y (by simp [hy]))
    cases l with
    | nil => rfl
    | cons b l =>
      have hstep := h a (by simp) b (by simp)
      simp only [pathLength] at htail ⊢
      rw [hstep, htail]

theorem link_eq_zero {l r : List α} (h : ∀ a ∈ l, ∀ b ∈ r, w a b = 0) : link w l r = 0 := by
  unfold link
  split
  · next a b ha hb => exact h a (List.mem_of_getLast? ha) b (List.mem_of_mem_head? hb)
  · rfl

theorem link_congr_right {l r r' : List α} (h : r.head? = r'.head?) : link w l r = link w l r' := by
  simp only [link, h]

theorem link_congr_left {l l' r : List α} (h : l.getLast? = l'.getLast?) :
    link w l r = link w l' r := by
  simp only [link, h]

/-- **Splice rule.** -/
theorem pathLength_splice {before stretch stretch' after : List α}
    (hin : link w before (stretch ++ after) = link w before (stretch' ++ after))
    (hout : link w stretch after = link w stretch' after) :
    pathLength w (before ++ (stretch ++ after)) - pathLength w (before ++ (stretch' ++ after)) =
      pathLength w stretch - pathLength w stretch' := by
  rw [pathLength_append, pathLength_append, pathLength_append, pathLength_append, hin, hout]
  abel

end Length

/-! ## Lists in strict order -/

section Ordered

variable {lt : α → α → Prop}

theorem head?_of_least {l : List α} (h : l.Pairwise lt) {p : α} (hp : p ∈ l)
    (hleast : ∀ q ∈ l, ¬lt q p) : l.head? = some p := by
  cases l with
  | nil => exact absurd hp (by simp)
  | cons a l =>
    rcases List.mem_cons.1 hp with rfl | hmem
    · rfl
    · exact absurd ((List.pairwise_cons.1 h).1 p hmem) (hleast a (by simp))

theorem getLast?_of_greatest {l : List α} (h : l.Pairwise lt) {p : α} (hp : p ∈ l)
    (hgreatest : ∀ q ∈ l, ¬lt p q) : l.getLast? = some p := by
  have hrev : l.reverse.Pairwise (fun a b => lt b a) := List.pairwise_reverse.2 h
  rw [← List.head?_reverse]
  exact head?_of_least hrev (List.mem_reverse.2 hp)
    (fun q hq => hgreatest q (List.mem_reverse.1 hq))

theorem not_lt_head? (hasymm : ∀ a b, lt a b → ¬lt b a) {l : List α} (h : l.Pairwise lt) {a : α}
    (ha : l.head? = some a) {b : α} (hb : b ∈ l) : ¬lt b a := by
  cases l with
  | nil => exact absurd hb (by simp)
  | cons c l =>
    obtain rfl := Option.some.inj ha
    rcases List.mem_cons.1 hb with rfl | hmem
    · exact fun hlt => hasymm _ _ hlt hlt
    · exact hasymm _ _ ((List.pairwise_cons.1 h).1 b hmem)

theorem not_getLast?_lt (hasymm : ∀ a b, lt a b → ¬lt b a) {l : List α} (h : l.Pairwise lt) {a : α}
    (ha : l.getLast? = some a) {b : α} (hb : b ∈ l) : ¬lt a b := by
  have hrev : l.reverse.Pairwise (fun a b => lt b a) := List.pairwise_reverse.2 h
  rw [← List.head?_reverse] at ha
  exact not_lt_head? (fun a b hab hba => hasymm _ _ hab hba) hrev ha (List.mem_reverse.2 hb)

theorem eq_filter_append {l : List α} (h : l.Pairwise lt) (p : α → Bool)
    (hp : ∀ a b, lt a b → p b = true → p a = true) :
    l = l.filter p ++ l.filter (fun a => !p a) := by
  induction l with
  | nil => rfl
  | cons a l ih =>
    obtain ⟨ha, hl⟩ := List.pairwise_cons.1 h
    cases hpa : p a with
    | true =>
      rw [List.filter_cons_of_pos hpa, List.filter_cons_of_neg (by simp [hpa]), List.cons_append,
        ← ih hl]
    | false =>
      have hnone : ∀ b ∈ l, p b = false := by
        intro b hb
        by_contra hpb
        rw [hp a b (ha b hb) (by simpa using hpb)] at hpa
        exact absurd hpa (by simp)
      rw [List.filter_cons_of_neg (by simp [hpa]), List.filter_cons_of_pos (by simp [hpa]),
        List.filter_eq_nil_iff.2 (by simpa using hnone), List.nil_append,
        List.filter_eq_self.2 (by simpa using hnone)]

theorem eq_below_within_above {l : List α} (h : l.Pairwise lt) (below above : α → Bool)
    (hbelow : ∀ a b, lt a b → below b = true → below a = true)
    (habove : ∀ a b, lt a b → above a = true → above b = true)
    (hnot : ∀ a, below a = true → above a = false) :
    l = l.filter below ++ (l.filter (fun a => !below a && !above a) ++ l.filter above) := by
  have hrest : (l.filter (fun a => !below a)).Pairwise lt := h.filter _
  have hsplit := eq_filter_append hrest (fun a => !above a) (by
    intro a b hab hb
    cases ha : above a with
    | false => rfl
    | true => simp [habove a b hab ha] at hb)
  rw [List.filter_filter, List.filter_filter] at hsplit
  have habove' : (fun a => !(!above a) && !below a) = above := by
    funext a
    cases hb : below a with
    | false => simp
    | true => simp [hnot a hb]
  have hmid : (fun a => !above a && !below a) = fun a => !below a && !above a := by
    funext a
    exact Bool.and_comm _ _
  rw [habove', hmid] at hsplit
  rw [← hsplit]
  exact eq_filter_append h below hbelow

end Ordered

end Path
