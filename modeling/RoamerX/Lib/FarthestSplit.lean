import Mathlib

set_option autoImplicit false

/-! # Splitting a chain where it is farthest off

A chain of points is simplified from its two ends: the point that is farthest off the chord is kept and splits the
chain in two, unless it is near enough. The loop holds the chords to look at on a stack. Which points it keeps is told
by a recursion on the chord, and a point that is dropped is near the chord between the kept points around it. How far
a point is off a chord is a parameter. -/

namespace RoamerX

namespace FarthestSplit

variable {α : Type*} [LinearOrder α]

/-- The first index of the greatest distance above `low` between the two ends, and the distance. -/
def farthest (distance : ℕ → α) (low : α) (start stop : ℕ) : Option ℕ × α :=
  (List.range' (start + 1) (stop - (start + 1))).foldl
    (fun best index => if best.2 < distance index then (some index, distance index) else best) (none, low)

section Farthest

variable {distance : ℕ → α} {low : α} {start stop index : ℕ}

/-- What the scan of some indices found. -/
structure Found (distance : ℕ → α) (low : α) (indices : List ℕ) (best : Option ℕ × α) : Prop where
  le : ∀ index ∈ indices, distance index ≤ best.2
  none : best.1 = none → best.2 = low
  some : ∀ index, best.1 = some index → index ∈ indices ∧ best.2 = distance index

theorem found_foldl (indices : List ℕ) : Found distance low indices
    (indices.foldl (fun best index => if best.2 < distance index then (some index, distance index) else best)
      (none, low)) := by
  induction indices using List.reverseRecOn with
  | nil => exact ⟨fun _ h => absurd h List.not_mem_nil, fun _ => rfl, nofun⟩
  | append_singleton indices last ih =>
    rw [List.foldl_append, List.foldl_cons, List.foldl_nil]
    split
    · next hfarther =>
      refine ⟨fun index hindex => ?_, nofun, fun index hindex => ?_⟩
      · rcases List.mem_append.mp hindex with hindex | hindex
        · exact (ih.le index hindex).trans hfarther.le
        · rw [List.mem_singleton.mp hindex]
      · cases hindex
        exact ⟨List.mem_append_right _ (List.mem_singleton_self _), rfl⟩
    · next hnearer =>
      refine ⟨fun index hindex => ?_, ih.none, fun index hindex => ?_⟩
      · rcases List.mem_append.mp hindex with hindex | hindex
        · exact ih.le index hindex
        · rw [List.mem_singleton.mp hindex]
          exact not_lt.mp hnearer
      · exact ⟨List.mem_append_left _ (ih.some index hindex).1, (ih.some index hindex).2⟩

theorem mem_between : index ∈ List.range' (start + 1) (stop - (start + 1)) ↔ start < index ∧ index < stop := by
  rw [List.mem_range'_1]
  omega

theorem le_farthest (hstart : start < index) (hstop : index < stop) :
    distance index ≤ (farthest distance low start stop).2 :=
  (found_foldl _).le index (mem_between.mpr ⟨hstart, hstop⟩)

theorem farthest_eq_none (h : (farthest distance low start stop).1 = none) :
    (farthest distance low start stop).2 = low :=
  (found_foldl _).none h

theorem farthest_between (h : (farthest distance low start stop).1 = some index) : start < index ∧ index < stop :=
  mem_between.mp ((found_foldl _).some index h).1

end Farthest

/-! ## The loop and the recursion -/

section Splits

variable (distance : ℕ → ℕ → ℕ → α) (low tolerance : α)

/-- The split of a chord, where there is one. -/
def split? (start stop : ℕ) : Option ℕ :=
  let found := farthest (distance start stop) low start stop
  if tolerance < found.2 then found.1 else none

variable {distance low tolerance}

theorem split?_between {start stop index : ℕ} (h : split? distance low tolerance start stop = some index) :
    start < index ∧ index < stop := by
  unfold split? at h
  dsimp only at h
  split at h
  · exact farthest_between h
  · exact nomatch h

variable (distance low tolerance)

def chordSize (chord : ℕ × ℕ) : ℕ := 2 * (chord.2 - chord.1) - 1

/-- `while stack`: marks the points to keep. -/
@[simp] def markSplits : List (ℕ × ℕ) → List Bool → List Bool
  | [], keep => keep
  | (start, stop) :: stack, keep =>
    match _h : split? distance low tolerance start stop with
    | some index => markSplits ((index, stop) :: (start, index) :: stack) (keep.set index true)
    | none => markSplits stack keep
termination_by stack => ((stack.map chordSize).sum, stack.length)
decreasing_by
  · have hbetween := split?_between _h
    simp only [List.map_cons, List.sum_cons, chordSize]
    refine Prod.Lex.left _ _ ?_
    omega
  · simp only [List.map_cons, List.sum_cons, List.length_cons]
    rcases Nat.eq_zero_or_pos (chordSize (start, stop)) with hzero | hpos
    · rw [hzero, Nat.zero_add]
      exact Prod.Lex.right _ (Nat.lt_succ_self _)
    · exact Prod.Lex.left _ _ (by omega)

/-- The points kept between the ends of a chord. -/
def splits (start stop : ℕ) : List ℕ :=
  match _h : split? distance low tolerance start stop with
  | some index => splits start index ++ index :: splits index stop
  | none => []
termination_by stop - start
decreasing_by
  · have hbetween := split?_between _h
    omega
  · have hbetween := split?_between _h
    omega

variable {distance low tolerance} {start stop index : ℕ}

theorem splits_of_some (h : split? distance low tolerance start stop = some index) :
    splits distance low tolerance start stop =
      splits distance low tolerance start index ++ index :: splits distance low tolerance index stop := by
  rw [splits]
  split
  · next found hfound =>
    cases h.symm.trans hfound
    rfl
  · next hfound => exact nomatch h.symm.trans hfound

theorem splits_of_none (h : split? distance low tolerance start stop = none) :
    splits distance low tolerance start stop = [] := by
  rw [splits]
  split
  · next found hfound => exact nomatch h.symm.trans hfound
  · rfl

theorem mem_splits (h : index ∈ splits distance low tolerance start stop) : start < index ∧ index < stop := by
  induction start, stop using splits.induct distance low tolerance with
  | case1 start stop middle hsplit ihleft ihright =>
    have hbetween := split?_between hsplit
    rw [splits_of_some hsplit, List.mem_append, List.mem_cons] at h
    rcases h with h | rfl | h
    · have hindex := ihleft h
      omega
    · exact hbetween
    · have hindex := ihright h
      omega
  | case2 start stop hsplit =>
    rw [splits_of_none hsplit] at h
    exact absurd h List.not_mem_nil

/-- Two kept points that are next to one another, and near whose chord all points between them are. -/
structure Chord (distance : ℕ → ℕ → ℕ → α) (tolerance : α) (kept : ℕ → Prop) (left right : ℕ) : Prop where
  left_kept : kept left
  right_kept : kept right
  next : ∀ k, left < k → k < right → ¬ kept k
  near : ∀ k, left < k → k < right → distance left right k ≤ tolerance

/-- The points kept on the chord, its ends included. -/
def Kept (distance : ℕ → ℕ → ℕ → α) (low tolerance : α) (start stop k : ℕ) : Prop :=
  k = start ∨ k = stop ∨ k ∈ splits distance low tolerance start stop

theorem exists_chord (hlow : low ≤ tolerance) (hstart : start < index) (hstop : index < stop)
    (hdropped : index ∉ splits distance low tolerance start stop) :
    ∃ left right, left < index ∧ index < right ∧
      Chord distance tolerance (Kept distance low tolerance start stop) left right := by
  induction start, stop using splits.induct distance low tolerance with
  | case1 start stop middle hsplit ihleft ihright =>
    have hbetween := split?_between hsplit
    have hkept : ∀ k, Kept distance low tolerance start stop k ↔
        Kept distance low tolerance start middle k ∨ Kept distance low tolerance middle stop k := by
      intro k
      unfold Kept
      rw [splits_of_some hsplit, List.mem_append, List.mem_cons]
      grind
    rw [splits_of_some hsplit, List.mem_append, List.mem_cons, not_or, not_or] at hdropped
    obtain ⟨hleft, hne, hright⟩ := hdropped
    have hrange : ∀ {a b k : ℕ}, a ≤ b → Kept distance low tolerance a b k → a ≤ k ∧ k ≤ b := by
      intro a b k hab hk
      rcases hk with rfl | rfl | hk
      · exact ⟨le_rfl, hab⟩
      · exact ⟨hab, le_rfl⟩
      · exact ⟨(mem_splits hk).1.le, (mem_splits hk).2.le⟩
    -- the other half holds no point between the two
    rcases Nat.lt_or_gt_of_ne hne with hlt | hgt
    · obtain ⟨left, right, hl, hr, hchord⟩ := ihleft hstart hlt hleft
      have hend := (hrange hbetween.1.le hchord.right_kept).2
      refine ⟨left, right, hl, hr, (hkept _).mpr (Or.inl hchord.left_kept),
        (hkept _).mpr (Or.inl hchord.right_kept), fun k hk hk' hkk => ?_, hchord.near⟩
      rcases (hkept k).mp hkk with hkk | hkk
      · exact hchord.next k hk hk' hkk
      · have hge := (hrange hbetween.2.le hkk).1
        omega
    · obtain ⟨left, right, hl, hr, hchord⟩ := ihright hgt hstop hright
      have hend := (hrange hbetween.2.le hchord.left_kept).1
      refine ⟨left, right, hl, hr, (hkept _).mpr (Or.inr hchord.left_kept),
        (hkept _).mpr (Or.inr hchord.right_kept), fun k hk hk' hkk => ?_, hchord.near⟩
      rcases (hkept k).mp hkk with hkk | hkk
      · have hle := (hrange hbetween.1.le hkk).2
        omega
      · exact hchord.next k hk hk' hkk
  | case2 start stop hsplit =>
    refine ⟨start, stop, hstart, hstop, Or.inl rfl, Or.inr (Or.inl rfl), fun k hk hk' hkept => ?_, fun k hk hk' => ?_⟩
    · rcases hkept with rfl | rfl | hkept
      · omega
      · omega
      · rw [splits_of_none hsplit] at hkept
        exact absurd hkept List.not_mem_nil
    · have hfarthest : _ ≤ (farthest (distance start stop) low start stop).2 := le_farthest hk hk'
      refine hfarthest.trans ?_
      unfold split? at hsplit
      dsimp only at hsplit
      split at hsplit
      · rw [farthest_eq_none hsplit]
        exact hlow
      · next hnear => exact not_lt.mp hnear

/-- **The loop keeps what the recursion keeps.** -/
theorem getD_markSplits (stack : List (ℕ × ℕ)) (keep : List Bool) (hindex : index < keep.length) :
    ((markSplits distance low tolerance stack keep).getD index false = true ↔
      keep.getD index false = true ∨ ∃ chord ∈ stack, index ∈ splits distance low tolerance chord.1 chord.2) ∧
      (markSplits distance low tolerance stack keep).length = keep.length := by
  induction stack, keep using markSplits.induct distance low tolerance with
  | case1 keep =>
    rw [markSplits]
    simp
  | case2 start stop stack keep middle hsplit ih =>
    rw [List.length_set] at ih
    obtain ⟨hmarked, hlength⟩ := ih hindex
    have hloop : markSplits distance low tolerance ((start, stop) :: stack) keep =
        markSplits distance low tolerance ((middle, stop) :: (start, middle) :: stack) (keep.set middle true) := by
      conv_lhs => rw [markSplits]
      split
      · next found hfound =>
        cases hsplit.symm.trans hfound
        rfl
      · next hfound => exact nomatch hsplit.symm.trans hfound
    rw [hloop, hmarked]
    refine ⟨?_, hlength⟩
    have hset : (keep.set middle true).getD index false = true ↔ index = middle ∨ keep.getD index false = true := by
      rw [List.getD_eq_getElem?_getD, List.getD_eq_getElem?_getD, List.getElem?_set]
      by_cases hmiddle : middle = index
      · subst hmiddle
        simp [hindex]
      · simp [hmiddle, Ne.symm hmiddle]
    rw [hset]
    rw [List.exists_mem_cons_iff, List.exists_mem_cons_iff, List.exists_mem_cons_iff, splits_of_some hsplit,
      List.mem_append, List.mem_cons]
    grind
  | case3 start stop stack keep hsplit ih =>
    obtain ⟨hmarked, hlength⟩ := ih hindex
    have hloop : markSplits distance low tolerance ((start, stop) :: stack) keep =
        markSplits distance low tolerance stack keep := by
      conv_lhs => rw [markSplits]
      split
      · next found hfound => exact nomatch hsplit.symm.trans hfound
      · rfl
    rw [hloop, hmarked]
    refine ⟨?_, hlength⟩
    rw [List.exists_mem_cons_iff, splits_of_none hsplit, List.mem_nil_iff, false_or]

end Splits

end FarthestSplit

end RoamerX
