import RoamerX.Boundary.BoundaryPayload
import RoamerX.Lib.Excepts
import RoamerX.Lib.RationalChain

set_option autoImplicit false

/-! # Boundaries that are well formed

A boundary is well formed when its polygons are simple and have an area, and when every zone, with all of its
inside, lies in the outer polygon. What the center accepts need not be: it asks for the vertices of a zone
only, and it takes what is nearly in line for in line. -/

namespace RoamerX

namespace NavigationBoundaryService

open EvenOdd AffineMap

/-! ## The checks in the real plane -/

section Real

variable {polygon : List (ℚ × ℚ)}

theorem tolerance_cast : (1 / 10 ^ 9 : ℝ) = ((1 / 10 ^ 9 : ℚ) : ℝ) := by
  push_cast
  rfl

theorem orientation_toReal (a b c : ℚ × ℚ) :
    orientation (toReal a) (toReal b) (toReal c) = orientation a b c := by
  have hvalue : ((b.2 : ℝ) - a.2) * (c.1 - b.1) - ((b.1 : ℝ) - a.1) * (c.2 - b.2) =
      (((b.2 - a.2) * (c.1 - b.1) - (b.1 - a.1) * (c.2 - b.2) : ℚ) : ℝ) := by
    push_cast
    rfl
  have htiny : ∀ q : ℚ, |(q : ℝ)| < 1 / 10 ^ 9 ↔ |q| < 1 / 10 ^ 9 := by
    intro q
    rw [← Rat.cast_abs, tolerance_cast, Rat.cast_lt]
  simp only [orientation, toReal, hvalue, htiny, Rat.cast_pos]

theorem onSegment_toReal (a b c : ℚ × ℚ) : onSegment (toReal a) (toReal b) (toReal c) = onSegment a b c := by
  have hlow : ∀ x y z : ℚ, min (x : ℝ) z - 1 / 10 ^ 9 ≤ y ↔ min x z - 1 / 10 ^ 9 ≤ y := by
    intro x y z
    rw [tolerance_cast, ← Rat.cast_min, ← Rat.cast_sub, Rat.cast_le]
  have hhigh : ∀ x y z : ℚ, (y : ℝ) ≤ max (x : ℝ) z + 1 / 10 ^ 9 ↔ y ≤ max x z + 1 / 10 ^ 9 := by
    intro x y z
    rw [tolerance_cast, ← Rat.cast_max, ← Rat.cast_add, Rat.cast_le]
  simp only [onSegment, toReal, hlow, hhigh]

theorem segmentsIntersect_toReal (a b c d : ℚ × ℚ) :
    segmentsIntersect (toReal a) (toReal b) (toReal c) (toReal d) = segmentsIntersect a b c d := by
  simp only [segmentsIntersect, orientation_toReal, onSegment_toReal]

theorem polygonArea_outline (polygon : List (ℚ × ℚ)) :
    polygonArea (outline polygon) = (polygonArea polygon : ℚ) := by
  unfold polygonArea
  rw [length_outline]
  simp only [corner_outline, toReal]
  push_cast
  rw [List.map_map]
  refine congrArg (fun terms => 1 / 2 * List.sum terms) (List.map_congr_left fun index _ => ?_)
  rw [Function.comp_apply]
  push_cast
  rfl

theorem polygonSelfIntersects_outline (polygon : List (ℚ × ℚ)) :
    polygonSelfIntersects (outline polygon) = polygonSelfIntersects polygon := by
  simp only [polygonSelfIntersects, sidesIntersect, length_outline, corner_outline, segmentsIntersect_toReal]

theorem nothingOverlooked_outline : NothingOverlooked (outline polygon) ↔ NothingOverlooked polygon := by
  have hsign : ∀ a b c d a' b' : ℚ × ℚ,
      cross (toReal a) (toReal b) (toReal c) * cross (toReal a') (toReal b') (toReal d) < 0 ↔
        cross a b c * cross a' b' d < 0 := by
    intro a b c d a' b'
    rw [cross_toReal, cross_toReal]
    exact_mod_cast Iff.rfl
  simp only [NothingOverlooked, Overlooked, length_outline, corner_outline, orientation_toReal, hsign]

/-- **What the checks accept is simple in the plane, but for sides that are overlooked.** -/
theorem simple_outline_iff (hsize : 3 ≤ polygon.length) (harea : polygonArea polygon ≠ 0)
    (h : polygonSelfIntersects polygon = false) : Simple (outline polygon) ↔ NothingOverlooked polygon := by
  rw [← nothingOverlooked_outline]
  refine simple_iff ?_ ?_ ?_
  · rw [length_outline]
    exact hsize
  · rw [polygonArea_outline]
    exact_mod_cast harea
  · rw [polygonSelfIntersects_outline]
    exact h

theorem Checked.simple_iff (h : Checked polygon) : Simple (outline polygon) ↔ NothingOverlooked polygon :=
  simple_outline_iff h.size h.area h.apart

end Real

/-! ## Well-formed boundaries -/

/-- The sides meet in their common corners only, none has length zero, and the area is not zero. -/
def Proper (polygon : List (ℚ × ℚ)) : Prop := Simple (outline polygon) ∧ polygonArea polygon ≠ 0

/-- Every polygon is proper, and every zone lies completely inside the outer polygon. -/
structure WellFormed (boundary : BoundaryPayload) : Prop where
  outer : Proper boundary.outerPolygon
  zones : ∀ zone ∈ boundary.zones, Proper zone.polygon
  within : ∀ zone ∈ boundary.zones, region (outline zone.polygon) ⊆ region (outline boundary.outerPolygon)

/-- Where the side from `a` to `b` begins, ends or meets the polygon, and halfway between any two such places,
    it is in the polygon. -/
def Stays (polygon : List (ℚ × ℚ)) (a b : ℚ × ℚ) : Prop :=
  ∀ t t' : ℚ, Cut polygon a b t → Cut polygon a b t' → InRegion polygon (lineMap a b ((t + t') / 2))

/-- What the checks do not look at: no sides cross within the tolerance, and the sides of the zones, not only
    their vertices, stay in the outer polygon. -/
structure Unnoticed (texts : Texts) (payload : List (String × Json)) : Prop where
  outer : NothingOverlooked (givenOuter texts payload)
  zones : ∀ zone ∈ givenZones texts payload, NothingOverlooked zone
  sides : ∀ zone ∈ givenZones texts payload, ∀ k,
    Stays (givenOuter texts payload) (corner zone k) (corner zone (k + 1))

section Accepted

variable {texts : Texts} {payload : List (String × Json)} {boundary : BoundaryPayload} {outer zone : List (ℚ × ℚ)}

theorem region_subset_iff (houter : Simple (outline outer)) (hzone : Simple (outline zone)) :
    region (outline zone) ⊆ region (outline outer) ↔
      ∀ k, Stays outer (corner zone k) (corner zone (k + 1)) := by
  have hne : outer ≠ [] := fun hnil => houter.ne_nil (by rw [hnil]; rfl)
  have hproper : ∀ k, corner zone k ≠ corner zone (k + 1) := by
    intro k heq
    refine hzone.proper k ?_
    rw [corner_outline, corner_outline, heq]
  have hside : ∀ k, side (outline zone) k ⊆ region (outline outer) ↔
      Stays outer (corner zone k) (corner zone (k + 1)) := by
    intro k
    unfold side
    rw [corner_outline, corner_outline]
    exact segment_subset_region_outline_iff hne (hproper k)
  constructor
  · intro hsubset k
    rw [← hside]
    exact fun p hp => hsubset (Or.inl (onChain_of_side hzone.ne_nil k hp))
  · intro hstays
    refine houter.region_subset fun p hp => ?_
    obtain ⟨k, -, hpk⟩ := onChain_iff.mp hp
    exact (hside k).mpr (hstays k) hpk

theorem forall_givenZones (h : normalizeBoundaryPayload texts payload = .ok boundary)
    {P : List (ℚ × ℚ) → Prop} :
    (∀ zone ∈ givenZones texts payload, P zone) ↔ ∀ zone ∈ boundary.zones, P zone.polygon := by
  rw [← (normalizeBoundaryPayload_eq_ok h).2.1, List.forall_mem_map]

/-- **What is accepted is well formed exactly where nothing is wrong that the checks do not look at.** -/
theorem wellFormed_iff (h : normalizeBoundaryPayload texts payload = .ok boundary) :
    WellFormed boundary ↔ Unnoticed texts payload := by
  obtain ⟨hgiven, -, houter, hzones⟩ := normalizeBoundaryPayload_eq_ok h
  constructor
  · rintro ⟨⟨hsimple, -⟩, hproper, hwithin⟩
    refine ⟨?_, ?_, ?_⟩
    · rw [← hgiven]
      exact houter.simple_iff.mp hsimple
    · rw [forall_givenZones h]
      exact fun zone hzone => (hzones zone hzone).simple_iff.mp (hproper zone hzone).1
    · rw [forall_givenZones h, ← hgiven]
      exact fun zone hzone => (region_subset_iff hsimple (hproper zone hzone).1).mp (hwithin zone hzone)
  · rintro ⟨hnothing, hnothing', hstays⟩
    rw [← hgiven] at hnothing hstays
    rw [forall_givenZones h] at hnothing' hstays
    have hsimple := houter.simple_iff.mpr hnothing
    have hsimple' := fun zone hzone => (hzones zone hzone).simple_iff.mpr (hnothing' zone hzone)
    refine ⟨⟨hsimple, houter.area⟩, fun zone hzone => ?_, fun zone hzone => ?_⟩
    · exact ⟨hsimple' zone hzone, (hzones zone hzone).area⟩
    · exact (region_subset_iff hsimple (hsimple' zone hzone)).mpr (hstays zone hzone)

end Accepted

/-- A request with these vertices, the zones of the default type. -/
def requestOf (outer : List (ℤ × ℤ)) (zones : List (List (ℤ × ℤ))) : List (String × Json) :=
  let polygonOf := fun polygon : List (ℤ × ℤ) =>
    Json.arr (polygon.map fun vertex => .arr [.num (.int vertex.1), .num (.int vertex.2)])
  [("outer_polygon", polygonOf outer),
    ("zones", .arr (zones.map fun zone => .obj [("polygon", polygonOf zone)]))]

theorem triangle_well_formed : ∃ boundary,
    normalizeBoundaryPayload default (requestOf [(0, 0), (4, 0), (0, 4)] [[(0, 0), (4, 0), (0, 4)]]) = .ok boundary ∧
      WellFormed boundary := by
  set payload := requestOf [(0, 0), (4, 0), (0, 4)] [[(0, 0), (4, 0), (0, 4)]] with hpayload
  obtain ⟨boundary, hboundary⟩ : ∃ boundary, normalizeBoundaryPayload default payload = .ok boundary := by
    have haccepted : (normalizeBoundaryPayload default payload).toOption.isSome = true := by
      rw [hpayload]
      decide +kernel
    cases hresult : normalizeBoundaryPayload default payload with
    | ok boundary => exact ⟨boundary, rfl⟩
    | error e =>
      rw [hresult] at haccepted
      exact nomatch haccepted
  have houter : givenOuter default payload = [(0, 0), (4, 0), (0, 4)] := by
    rw [hpayload]
    decide +kernel
  have hzones : givenZones default payload = [[(0, 0), (4, 0), (0, 4)]] := by
    rw [hpayload]
    decide +kernel
  have hnothing : NothingOverlooked ([(0, 0), (4, 0), (0, 4)] : List (ℚ × ℚ)) := by
    rintro i j ⟨hij, hj, hnext, hlast⟩
    simp only [List.length_cons, List.length_nil] at hj hlast
    omega
  refine ⟨boundary, hboundary, (wellFormed_iff hboundary).mpr ⟨?_, ?_, ?_⟩⟩
  · rw [houter]
    exact hnothing
  · rw [hzones, List.forall_mem_singleton]
    exact hnothing
  · rw [hzones, houter, List.forall_mem_singleton]
    intro k t t' ht ht'
    refine Or.inl (onChain_of_side (List.cons_ne_nil _ _) k (mem_segment_iff.mpr ⟨_, ?_, ?_, rfl⟩))
    · linarith [ht.1, ht'.1]
    · linarith [ht.2.1, ht'.2.1]

/-- The corners of the zone are in the two arms of the outer polygon, and its middle is in the bay between. -/
theorem zone_across_bay_accepted : ¬∀ texts payload boundary,
    normalizeBoundaryPayload texts payload = .ok boundary → WellFormed boundary := by
  intro hall
  set bay : List (ℚ × ℚ) := [(0, 0), (10, 0), (10, 10), (6, 10), (6, 4), (4, 4), (4, 10), (0, 10)] with hbay
  set across : List (ℚ × ℚ) := [(2, 7), (8, 7), (8, 8), (2, 8)] with hacross
  set payload := requestOf [(0, 0), (10, 0), (10, 10), (6, 10), (6, 4), (4, 4), (4, 10), (0, 10)]
    [[(2, 7), (8, 7), (8, 8), (2, 8)]] with hpayload
  have haccepted : (normalizeBoundaryPayload default payload).toOption.map
      (fun boundary => (boundary.outerPolygon, boundary.zones.map (·.polygon))) = some (bay, [across]) := by
    rw [hpayload, hbay, hacross]
    decide +kernel
  cases hresult : normalizeBoundaryPayload default payload with
  | error e =>
    rw [hresult] at haccepted
    exact nomatch haccepted
  | ok boundary =>
    rw [hresult] at haccepted
    obtain ⟨houter, hzones⟩ := Prod.mk.inj (Option.some.inj haccepted)
    obtain ⟨zone, hzone, hpolygon⟩ : ∃ zone ∈ boundary.zones, zone.polygon = across := by
      rw [← List.mem_map, hzones]
      exact List.mem_singleton_self _
    have hwithin := (hall default payload boundary hresult).within zone hzone
    rw [hpolygon, houter] at hwithin
    have hmiddle : toReal (5, 15 / 2) ∈ region (outline across) := by
      refine toReal_mem_region.mpr (Or.inr ?_)
      rw [hacross]
      decide +kernel
    rcases toReal_mem_region.mp (hwithin hmiddle) with hon | hin
    · obtain ⟨k, hk, hside⟩ := onChain_iff.mp hon
      have hoff : ∀ k < 8, cross (corner bay k) (corner bay (k + 1)) (5, 15 / 2) ≠ 0 := by
        rw [hbay]
        decide +kernel
      exact hoff k hk (cross_eq_zero_of_mem_segment hside)
    · have hout : inside bay (5, 15 / 2) = false := by
        rw [hbay]
        decide +kernel
      exact nomatch hin.symm.trans hout

end NavigationBoundaryService

end RoamerX
