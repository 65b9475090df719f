import Mathlib.Data.List.Count
import Mathlib.Order.MinMax
import RoamerX.Lib.NewestFirst

set_option autoImplicit false

/-! # The nearest of some places

Places are listed by rising distance, in either order where two are equally far, and the first `k` are taken that are
not too far. What is taken can be told from how many places lie within each distance. So the nearest of more places
begin with the nearest of some of them exactly where the others are too far, or where enough of these are as near. -/

namespace RoamerX

abbrev NearestFirst (α : Type*) {κ : Type*} [LinearOrder κ] (distance : α → κ) :=
  NewestFirst α fun place => OrderDual.toDual (distance place)

namespace NearestFirst

variable {α κ : Type*} [LinearOrder κ] {distance : α → κ} {tooFar : κ → Bool} {places xs ys : List α} {x : α} {k : ℕ}

/-- The first `k` places, up to the first that is too far. -/
@[simp]
def collect (distance : α → κ) (tooFar : κ → Bool) : ℕ → List α → List α
  | 0, _ => []
  | _, [] => []
  | k + 1, place :: places =>
    if tooFar (distance place) then [] else place :: collect distance tooFar k places

/-- What is too far stays so farther away. -/
def Upward (tooFar : κ → Bool) : Prop := ∀ d e, d ≤ e → tooFar d = true → tooFar e = true

/-- How many places lie within a distance and are not too far. -/
def within (distance : α → κ) (tooFar : κ → Bool) (d : κ) (places : List α) : ℕ :=
  places.countP fun place => decide (distance place ≤ d) && !tooFar (distance place)

/-- Two lists of places that differ only in places as far as the last. -/
structure UpToTies (distance : α → κ) (xs ys : List α) : Prop where
  distances : xs.map distance = ys.map distance
  left : ∀ x ∈ xs, x ∈ ys ∨ ∀ x' ∈ xs, distance x' ≤ distance x
  right : ∀ y ∈ ys, y ∈ xs ∨ ∀ y' ∈ ys, distance y' ≤ distance y

/-! ## Listings -/

omit [LinearOrder κ] in
theorem collect_subset (k : ℕ) (places : List α) : ∀ x ∈ collect distance tooFar k places,
    x ∈ places ∧ tooFar (distance x) = false := by
  induction places generalizing k with
  | nil =>
    cases k with
    | zero => exact fun _ hx => absurd hx List.not_mem_nil
    | succ k => exact fun _ hx => absurd hx List.not_mem_nil
  | cons place places ih =>
    cases k with
    | zero => exact fun _ hx => absurd hx List.not_mem_nil
    | succ k =>
      intro x hx
      rw [collect] at hx
      split at hx
      · exact absurd hx List.not_mem_nil
      next hnear =>
      rcases List.mem_cons.mp hx with rfl | hx
      · exact ⟨List.mem_cons_self, Bool.eq_false_iff.mpr hnear⟩
      · exact (ih k x hx).imp (List.mem_cons_of_mem _) id

omit [LinearOrder κ] in
theorem length_collect_le (k : ℕ) (places : List α) : (collect distance tooFar k places).length ≤ k := by
  induction places generalizing k with
  | nil => cases k <;> exact Nat.zero_le _
  | cons place places ih =>
    cases k with
    | zero => exact Nat.zero_le _
    | succ k =>
      rw [collect]
      split
      · exact Nat.zero_le _
      · exact Nat.succ_le_succ (ih k)

omit [LinearOrder κ] in
theorem take_collect {k k' : ℕ} (hle : k ≤ k') (places : List α) :
    (collect distance tooFar k' places).take k = collect distance tooFar k places := by
  induction places generalizing k k' with
  | nil => cases k <;> cases k' <;> rfl
  | cons place places ih =>
    cases k with
    | zero => cases k' <;> rfl
    | succ k =>
      obtain ⟨k', rfl⟩ := Nat.exists_eq_succ_of_ne_zero (Nat.ne_of_gt (Nat.lt_of_lt_of_le (Nat.succ_pos k) hle))
      simp only [collect]
      split
      · rfl
      · rw [List.take_succ_cons, ih (Nat.le_of_succ_le_succ hle)]

theorem collect_sorted (hsorted : places.Pairwise fun a b => distance a ≤ distance b) (k : ℕ) :
    (collect distance tooFar k places).Pairwise fun a b => distance a ≤ distance b := by
  induction places generalizing k with
  | nil => cases k <;> exact List.Pairwise.nil
  | cons place places ih =>
    obtain ⟨hfirst, hrest⟩ := List.pairwise_cons.mp hsorted
    cases k with
    | zero => exact List.Pairwise.nil
    | succ k =>
      rw [collect]
      split
      · exact List.Pairwise.nil
      · exact List.pairwise_cons.mpr ⟨fun b hb => hfirst b (collect_subset k places b hb).1, ih hrest k⟩

theorem countP_collect (hsorted : places.Pairwise fun a b => distance a ≤ distance b) (hup : Upward tooFar) (k : ℕ)
    (d : κ) : (collect distance tooFar k places).countP (fun place => decide (distance place ≤ d)) =
      min k (within distance tooFar d places) := by
  induction places generalizing k with
  | nil => cases k <;> simp [collect, within]
  | cons place places ih =>
    obtain ⟨hfirst, hrest⟩ := List.pairwise_cons.mp hsorted
    have hcount : within distance tooFar d (place :: places) = within distance tooFar d places +
        if distance place ≤ d ∧ tooFar (distance place) = false then 1 else 0 := by
      simp [within, List.countP_cons]
    cases k with
    | zero => simp [collect]
    | succ k =>
      rw [collect]
      split
      · next hfar =>
        have hnone : within distance tooFar d (place :: places) = 0 := by
          refine List.countP_eq_zero.mpr fun b hb => ?_
          have hb' : tooFar (distance b) = true := by
            rcases List.mem_cons.mp hb with rfl | hb
            · exact hfar
            · exact hup _ _ (hfirst b hb) hfar
          simp [hb']
        rw [hnone]
        rfl
      · next hnear =>
        rw [List.countP_cons, ih hrest, hcount]
        by_cases hd : distance place ≤ d
        · simp [hd, hnear]
        · -- the places are sorted, so that none after this one lies within the distance
          have hnone : within distance tooFar d places = 0 := by
            refine List.countP_eq_zero.mpr fun b hb => ?_
            have hb' : ¬ distance b ≤ d := fun hle => hd ((hfirst b hb).trans hle)
            simp [hb']
          simp [hd, hnone]

theorem mem_collect_or (hsorted : places.Pairwise fun a b => distance a ≤ distance b) (hx : x ∈ places) (k : ℕ) :
    x ∈ collect distance tooFar k places ∨
      ∀ y ∈ collect distance tooFar k places, distance y ≤ distance x := by
  induction places generalizing k with
  | nil => exact absurd hx List.not_mem_nil
  | cons place places ih =>
    obtain ⟨hfirst, hrest⟩ := List.pairwise_cons.mp hsorted
    cases k with
    | zero => exact Or.inr fun y hy => absurd hy List.not_mem_nil
    | succ k =>
      have hplace : distance place ≤ distance x := by
        rcases List.mem_cons.mp hx with rfl | hx
        · exact le_refl _
        · exact hfirst x hx
      rw [collect]
      split
      · exact Or.inr fun y hy => absurd hy List.not_mem_nil
      rcases List.mem_cons.mp hx with rfl | hx
      · exact Or.inl List.mem_cons_self
      · refine (ih hrest hx k).imp (List.mem_cons_of_mem _) fun hall y hy => ?_
        rcases List.mem_cons.mp hy with rfl | hy
        · exact hplace
        · exact hall y hy

theorem eq_of_countP_eq {ds es : List κ} (hds : ds.Pairwise (· ≤ ·)) (hes : es.Pairwise (· ≤ ·))
    (h : ∀ d, ds.countP (fun e => decide (e ≤ d)) = es.countP (fun e => decide (e ≤ d))) : ds = es := by
  induction ds generalizing es with
  | nil =>
    cases es with
    | nil => rfl
    | cons e es =>
      have hcount := h e
      simp at hcount
  | cons d ds ih =>
    obtain ⟨hfirst, hrest⟩ := List.pairwise_cons.mp hds
    cases es with
    | nil =>
      have hcount := h d
      simp at hcount
    | cons e es =>
      obtain ⟨hfirst', hrest'⟩ := List.pairwise_cons.mp hes
      -- the count within the smaller head is not 0
      have hle : ∀ {a b : κ} {as bs : List κ}, (∀ b' ∈ bs, b ≤ b') →
          (a :: as).countP (fun c => decide (c ≤ a)) = (b :: bs).countP (fun c => decide (c ≤ a)) → b ≤ a := by
        intro a b as bs hbs hcount
        by_contra hlt
        have hnone : (b :: bs).countP (fun c => decide (c ≤ a)) = 0 := by
          refine List.countP_eq_zero.mpr fun c hc => ?_
          rcases List.mem_cons.mp hc with rfl | hc
          · simpa using hlt
          · simpa using (not_le.mp hlt).trans_le (hbs c hc)
        rw [hnone] at hcount
        simp at hcount
      obtain rfl : d = e := le_antisymm (hle hfirst (h e).symm) (hle hfirst' (h d))
      rw [ih hrest hrest' fun c => by simpa [List.countP_cons] using h c]

/-! ## The nearest of more places -/

variable {some others : List α} {k' : ℕ} (nearest : NearestFirst α distance)

theorem rising (places : List α) : (nearest.order places).Pairwise fun a b => distance a ≤ distance b :=
  nearest.falling places

theorem within_append (d : κ) (xs ys : List α) :
    within distance tooFar d (xs ++ ys) = within distance tooFar d xs + within distance tooFar d ys :=
  List.countP_append

theorem distances_collect_eq_iff (xs ys : List α) (hup : Upward tooFar) (k : ℕ) :
    (collect distance tooFar k (nearest.order xs)).map distance =
        (collect distance tooFar k (nearest.order ys)).map distance ↔
      ∀ d, min k (within distance tooFar d xs) = min k (within distance tooFar d ys) := by
  have hcount : ∀ places d, ((collect distance tooFar k (nearest.order places)).map distance).countP
      (fun e => decide (e ≤ d)) = min k (within distance tooFar d places) := by
    intro places d
    have horder : within distance tooFar d (nearest.order places) = within distance tooFar d places :=
      (nearest.perm places).countP_eq _
    rw [List.countP_map, ← horder, ← countP_collect (nearest.rising places) hup]
    rfl
  have hsorted : ∀ places, ((collect distance tooFar k (nearest.order places)).map distance).Pairwise (· ≤ ·) :=
    fun places => List.pairwise_map.mpr (collect_sorted (nearest.rising places) k)
  constructor
  · intro h d
    rw [← hcount, h, hcount]
  · intro h
    refine eq_of_countP_eq (hsorted xs) (hsorted ys) fun d => ?_
    rw [hcount, hcount, h d]

/-- **The nearest of more places begin with the nearest of some of them** exactly where each other place is too far,
or `k` of these are as near. -/
theorem upToTies_iff (hup : Upward tooFar) (hle : k ≤ k') :
    UpToTies distance (collect distance tooFar k (nearest.order some))
        ((collect distance tooFar k' (nearest.order (some ++ others))).take k) ↔
      ∀ other ∈ others, tooFar (distance other) = true ∨
        k ≤ some.countP fun place => decide (distance place ≤ distance other) := by
  rw [take_collect hle]
  have hcounts := nearest.distances_collect_eq_iff some (some ++ others) hup k
  -- what lies within the distance of a place that is not too far is not too far
  have hwithin : ∀ other : α, tooFar (distance other) = false → within distance tooFar (distance other) some =
      some.countP fun place => decide (distance place ≤ distance other) := by
    intro other hnear
    refine List.countP_congr fun place _ => ?_
    have hplace : distance place ≤ distance other → tooFar (distance place) = false := fun hd =>
      Bool.eq_false_iff.mpr fun hfar => Bool.noConfusion (hnear.symm.trans (hup _ _ hd hfar))
    by_cases hd : distance place ≤ distance other
    · simp [hd, hplace hd]
    · simp [hd]
  constructor
  · intro h other hother
    rcases hnear : tooFar (distance other) with _ | _
    · refine Or.inr ?_
      have hmin := hcounts.mp h.distances (distance other)
      have hpos : 0 < within distance tooFar (distance other) others :=
        List.countP_pos_iff.mpr ⟨other, hother, by simp [hnear]⟩
      rw [within_append] at hmin
      rw [← hwithin other hnear]
      omega
    · exact Or.inl rfl
  · intro h
    have hmany : ∀ d, within distance tooFar d others ≠ 0 → k ≤ within distance tooFar d some := by
      intro d hd
      obtain ⟨other, hother, hnear⟩ := List.countP_pos_iff.mp (Nat.pos_of_ne_zero hd)
      simp only [Bool.and_eq_true, decide_eq_true_eq, Bool.not_eq_eq_eq_not, Bool.not_true] at hnear
      have hfew := (h other hother).resolve_left fun hfar => Bool.noConfusion (hnear.2.symm.trans hfar)
      rw [← hwithin other hnear.2] at hfew
      refine hfew.trans (List.countP_mono_left fun place _ hplace => ?_)
      simp only [Bool.and_eq_true, decide_eq_true_eq] at hplace ⊢
      exact ⟨hplace.1.trans hnear.1, hplace.2⟩
    have hdistances := hcounts.mpr fun d => by
      rw [within_append]
      by_cases hd : within distance tooFar d others = 0
      · rw [hd, Nat.add_zero]
      · have hk := hmany d hd
        omega
    -- as the distances agree, a bound of the ones is a bound of the others
    have hbound : ∀ d, (∀ x ∈ collect distance tooFar k (nearest.order some), distance x ≤ d) ↔
        ∀ y ∈ collect distance tooFar k (nearest.order (some ++ others)), distance y ≤ d := by
      intro d
      rw [← List.forall_mem_map (f := distance) (P := (· ≤ d)), hdistances, List.forall_mem_map]
    refine ⟨hdistances, fun x hx => ?_, fun y hy => ?_⟩
    · have hsome : x ∈ some := nearest.mem_order.mp (collect_subset k _ x hx).1
      have hmem : x ∈ nearest.order (some ++ others) := nearest.mem_order.mpr (List.mem_append_left _ hsome)
      exact (mem_collect_or (nearest.rising _) hmem k).imp id (hbound _).mpr
    · obtain ⟨hmem, hnear⟩ := collect_subset k _ y hy
      rcases List.mem_append.mp (nearest.mem_order.mp hmem) with hsome | hother
      · exact (mem_collect_or (nearest.rising _) (nearest.mem_order.mpr hsome) k).imp id (hbound _).mp
      · refine Or.inr ((hbound _).mp ?_)
        have hfew := (h y hother).resolve_left fun hfar => Bool.noConfusion (hnear.symm.trans hfar)
        have hcount := countP_collect (nearest.rising some) hup k (distance y)
        have horder : within distance tooFar (distance y) (nearest.order some) =
            within distance tooFar (distance y) some := (nearest.perm some).countP_eq _
        have hlength : (collect distance tooFar k (nearest.order some)).length ≤ k := length_collect_le k _
        have hall : (collect distance tooFar k (nearest.order some)).countP (fun place => decide (distance place ≤
            distance y)) = (collect distance tooFar k (nearest.order some)).length := by
          refine le_antisymm List.countP_le_length ?_
          rw [hcount, horder, hwithin y hnear]
          omega
        intro x hx
        simpa using List.countP_eq_length.mp hall x hx

end NearestFirst

end RoamerX
