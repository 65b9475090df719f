import RoamerX.Boundary.Manager
import RoamerX.Lib.Excepts
import Mathlib.Data.Rat.Floor

set_option autoImplicit false

/-! # Admission of a route

`validate_route` checks the waypoints and, along each leg, a point about every five centimetres, at
most two thousand steps a leg. Between two of these points nothing is checked. A route that passes
keeps clear of the forbidden zones and inside the outer polygon if and only if no outline of a hard
polygon is crossed an odd number of times between a checked point and a point of the leg before the
next one. -/

namespace RoamerX

namespace NavigationBoundaryManager

variable {𝕜 : Type*} [Field 𝕜] [LinearOrder 𝕜]

open EvenOdd Excepts

/-! ## What an accepted point and an accepted route tell -/

theorem pointInPolygon_eq_inside [IsStrictOrderedRing 𝕜] (x y : 𝕜) (polygon : List (𝕜 × 𝕜)) :
    pointInPolygon x y polygon = inside polygon (x, y) := by
  unfold pointInPolygon
  split
  · next h => exact (Polygon.inside_of_length_lt polygon h (x, y)).symm
  · exact Polygon.scanAll_eq_inside x y polygon

variable [IsStrictOrderedRing 𝕜]

section Accepted

variable {m : NavigationBoundaryManager 𝕜} {active : NavigationBoundary 𝕜}

theorem checkPoint_ok {x y : 𝕜} (h : checkPoint active x y = .ok ()) :
    (active.outerPolygon ≠ [] → inside active.outerPolygon (x, y) = true) ∧
      ∀ zone ∈ active.zones, zone.zoneType = .forbidden → inside zone.polygon (x, y) = false := by
  simp only [checkPoint] at h
  split at h
  · exact absurd h (by simp)
  next houter =>
  split at h
  next hfind =>
    constructor
    · intro hne
      rw [← pointInPolygon_eq_inside]
      by_contra hout
      exact houter ⟨hne, by simp [outsideOuter, hout]⟩
    · intro zone hzone htype
      have hfree := List.find?_eq_none.1 hfind zone hzone
      rw [← pointInPolygon_eq_inside]
      by_contra hin
      exact hfree (by simp [forbids, htype, Bool.eq_true_of_not_eq_false hin])
  · exact absurd h (by simp)

omit [IsStrictOrderedRing 𝕜] in
theorem checkPoint_of_validatePoint (hactive : m.active = some active) {x y : 𝕜}
    {expected : Option ℤ} (h : m.validatePoint active.mapId x y expected = .ok ()) :
    checkPoint active x y = .ok () := by
  obtain ⟨-, -, h⟩ := bind_eq_ok h
  have hmap : m.activeMapId = active.mapId := by simp [activeMapId, hactive]
  rw [hactive] at h
  simpa [hmap] using h

def legs (route : BoundaryRoute 𝕜) : List ((𝕜 × 𝕜) × (𝕜 × 𝕜)) :=
  route.waypoints.zip route.waypoints.tail

/-- Sample `k` of a leg, from the start at `k = 0` to the end at `k = samples`. -/
def sample [FloorSemiring 𝕜] (leg : (𝕜 × 𝕜) × (𝕜 × 𝕜)) (k : ℕ) : 𝕜 × 𝕜 :=
  along leg.1 leg.2 ((k : 𝕜) / (samples leg.1 leg.2 : 𝕜))

omit [IsStrictOrderedRing 𝕜] in
theorem samples_pos [FloorSemiring 𝕜] (start stop : 𝕜 × 𝕜) : 0 < samples start stop := by
  simp only [samples]
  omega

omit [IsStrictOrderedRing 𝕜] in
theorem checkPoint_of_validateRoute [FloorSemiring 𝕜] (hactive : m.active = some active)
    {route : BoundaryRoute 𝕜} (hmap : route.mapId = active.mapId)
    (h : m.validateRoute route = .ok ()) {leg : (𝕜 × 𝕜) × (𝕜 × 𝕜)} (hleg : leg ∈ legs route)
    {k : ℕ} (hk : k < samples leg.1 leg.2) :
    checkPoint active (sample leg k).1 (sample leg k).2 = .ok () := by
  obtain ⟨-, -, h⟩ := bind_eq_ok h
  obtain ⟨_, hpoints, hlegs⟩ := bind_eq_ok h
  rw [hmap] at hpoints hlegs
  rcases Nat.eq_zero_or_pos k with rfl | hpos
  · have hstart : sample leg 0 = leg.1 := by simp [sample, along]
    rw [hstart]
    have hmem : leg.1 ∈ route.waypoints := (List.of_mem_zip hleg).1
    exact checkPoint_of_validatePoint hactive (forM_eq_ok hpoints hmem)
  · have hindex : k ∈ List.range' 1 (samples leg.1 leg.2 - 1) := by
      rw [List.mem_range'_1]
      omega
    exact checkPoint_of_validatePoint hactive (forM_eq_ok (forM_eq_ok hlegs hleg) hindex)

end Accepted

/-! ## The samples divide the leg -/

omit [LinearOrder 𝕜] [IsStrictOrderedRing 𝕜] in
theorem along_along (start stop : 𝕜 × 𝕜) (a b t : 𝕜) :
    along (along start stop a) (along start stop b) t = along start stop (a + t * (b - a)) := by
  ext <;> simp only [along] <;> ring

omit [LinearOrder 𝕜] [IsStrictOrderedRing 𝕜] in
theorem lineMap_eq_along (start stop : 𝕜 × 𝕜) (t : 𝕜) :
    AffineMap.lineMap start stop t = along start stop t := by
  ext <;> simp [AffineMap.lineMap_apply, along, add_comm]

theorem mem_segment_iff {start stop w : 𝕜 × 𝕜} :
    w ∈ segment 𝕜 start stop ↔ ∃ t : 𝕜, 0 ≤ t ∧ t ≤ 1 ∧ w = along start stop t := by
  rw [segment_eq_image_lineMap]
  constructor
  · rintro ⟨t, ht, rfl⟩
    exact ⟨t, ht.1, ht.2, lineMap_eq_along start stop t⟩
  · rintro ⟨t, h0, h1, rfl⟩
    exact ⟨t, ⟨h0, h1⟩, lineMap_eq_along start stop t⟩

theorem mem_segment_along_iff {start stop w : 𝕜 × 𝕜} {a b : 𝕜} (hab : a < b) :
    w ∈ segment 𝕜 (along start stop a) (along start stop b) ↔
      ∃ t : 𝕜, a ≤ t ∧ t ≤ b ∧ w = along start stop t := by
  have hpos : 0 < b - a := sub_pos.2 hab
  rw [mem_segment_iff]
  constructor
  · rintro ⟨t, h0, h1, rfl⟩
    refine ⟨a + t * (b - a), ?_, ?_, along_along start stop a b t⟩
    · linarith [mul_nonneg h0 hpos.le]
    · linarith [mul_le_mul_of_nonneg_right h1 hpos.le]
  · rintro ⟨t, ha, hb, rfl⟩
    refine ⟨(t - a) / (b - a), div_nonneg (by linarith) hpos.le, ?_, ?_⟩
    · rw [div_le_one hpos]
      linarith
    · rw [along_along]
      congr 1
      field_simp
      ring

section Samples

variable [FloorSemiring 𝕜] {leg : (𝕜 × 𝕜) × (𝕜 × 𝕜)} {k : ℕ}

theorem between_samples_iff {w : 𝕜 × 𝕜} :
    w ∈ segment 𝕜 (sample leg k) (sample leg (k + 1)) ↔
      ∃ t : 𝕜, (k : 𝕜) ≤ t * samples leg.1 leg.2 ∧ t * samples leg.1 leg.2 ≤ k + 1 ∧
        w = along leg.1 leg.2 t := by
  have hn : (0 : 𝕜) < samples leg.1 leg.2 := by exact_mod_cast samples_pos leg.1 leg.2
  have hlt : (k : 𝕜) / samples leg.1 leg.2 < ((k + 1 : ℕ) : 𝕜) / samples leg.1 leg.2 := by
    rw [div_lt_div_iff_of_pos_right hn]
    exact_mod_cast Nat.lt_succ_self k
  rw [sample, sample, mem_segment_along_iff hlt]
  simp only [div_le_iff₀ hn, le_div_iff₀ hn, Nat.cast_add, Nat.cast_one]

theorem exists_between_samples {w : 𝕜 × 𝕜} (hw : w ∈ segment 𝕜 leg.1 leg.2) :
    ∃ k < samples leg.1 leg.2, w ∈ segment 𝕜 (sample leg k) (sample leg (k + 1)) := by
  obtain ⟨t, h0, h1, rfl⟩ := mem_segment_iff.1 hw
  have hn : (0 : 𝕜) < samples leg.1 leg.2 := by exact_mod_cast samples_pos leg.1 leg.2
  have htn : 0 ≤ t * samples leg.1 leg.2 := mul_nonneg h0 hn.le
  rcases lt_or_eq_of_le h1 with hlt | rfl
  · refine ⟨⌊t * samples leg.1 leg.2⌋₊, ?_, between_samples_iff.2 ⟨t, ?_, ?_, rfl⟩⟩
    · rw [Nat.floor_lt htn]
      calc t * samples leg.1 leg.2 < 1 * samples leg.1 leg.2 := mul_lt_mul_of_pos_right hlt hn
        _ = samples leg.1 leg.2 := one_mul _
    · exact Nat.floor_le htn
    · exact (Nat.lt_floor_add_one _).le
  · -- The end of the leg is the end of the last step.
    refine ⟨samples leg.1 leg.2 - 1, Nat.sub_lt (samples_pos _ _) one_pos,
      between_samples_iff.2 ⟨1, ?_, ?_, rfl⟩⟩
    · rw [one_mul]
      exact_mod_cast Nat.sub_le _ _
    · rw [one_mul]
      exact_mod_cast (Nat.sub_add_cancel (samples_pos _ _)).ge

theorem mem_leg_of_between_samples {w : 𝕜 × 𝕜} (hk : k < samples leg.1 leg.2)
    (hw : w ∈ segment 𝕜 (sample leg k) (sample leg (k + 1))) : w ∈ segment 𝕜 leg.1 leg.2 := by
  obtain ⟨t, hlow, hhigh, rfl⟩ := between_samples_iff.1 hw
  have hn : (0 : 𝕜) < samples leg.1 leg.2 := by exact_mod_cast samples_pos leg.1 leg.2
  have hk : (k : 𝕜) + 1 ≤ samples leg.1 leg.2 := by exact_mod_cast hk
  refine mem_segment_iff.2 ⟨t, ?_, ?_, rfl⟩
  · exact nonneg_of_mul_nonneg_left ((Nat.cast_nonneg k).trans hlow) hn
  · refine le_of_mul_le_mul_right ?_ hn
    rw [one_mul]
    exact hhigh.trans hk

end Samples

/-! ## Soundness -/

/-- `w` is outside the outer polygon or inside a forbidden zone. A point of an outline is neither
    inside nor outside. -/
def Violates (active : NavigationBoundary 𝕜) (w : 𝕜 × 𝕜) : Prop :=
  (¬OnChain active.outerPolygon w ∧ inside active.outerPolygon w = false) ∨
    ∃ zone ∈ active.zones, zone.zoneType = .forbidden ∧ ¬OnChain zone.polygon w ∧
      inside zone.polygon w = true

/-- No point of a leg violates the boundary. -/
def KeepsInside (active : NavigationBoundary 𝕜) (route : BoundaryRoute 𝕜) : Prop :=
  ∀ leg ∈ legs route, ∀ w ∈ segment 𝕜 leg.1 leg.2, ¬Violates active w

/-- The outer polygon and the polygons of the forbidden zones. -/
def hardPolygons (active : NavigationBoundary 𝕜) : List (List (𝕜 × 𝕜)) :=
  active.outerPolygon ::
    (active.zones.filter (fun zone => decide (zone.zoneType = .forbidden))).map (·.polygon)

/-- Between two consecutive samples the leg comes to no point that an odd number of edges of a hard
    polygon separate from the sample before it. -/
def UncutBetweenSamples [FloorSemiring 𝕜] (active : NavigationBoundary 𝕜)
    (route : BoundaryRoute 𝕜) : Prop :=
  ∀ leg ∈ legs route, ∀ k < samples leg.1 leg.2,
    ∀ w ∈ segment 𝕜 (sample leg k) (sample leg (k + 1)), ∀ polygon ∈ hardPolygons active,
      ¬OnChain polygon w → separated polygon (sample leg k) w = false

theorem violates_iff {active : NavigationBoundary 𝕜} (houter : active.outerPolygon ≠ [])
    {p : 𝕜 × 𝕜} (hp : checkPoint active p.1 p.2 = .ok ()) (w : 𝕜 × 𝕜) :
    Violates active w ↔
      ∃ polygon ∈ hardPolygons active, ¬OnChain polygon w ∧ separated polygon p w = true := by
  obtain ⟨hin, hzones⟩ := checkPoint_ok hp
  have hin := hin houter
  have hside : inside active.outerPolygon w = false ↔
      separated active.outerPolygon p w = true := by
    rw [← inside_xor, hin, Bool.true_xor, Bool.not_eq_true']
  have hzone : ∀ zone ∈ active.zones, zone.zoneType = .forbidden →
      (inside zone.polygon w = true ↔ separated zone.polygon p w = true) := by
    intro zone hmem htype
    rw [← inside_xor, hzones zone hmem htype, Bool.false_xor]
  simp only [Violates, hardPolygons, List.mem_cons, List.mem_map, List.mem_filter,
    decide_eq_true_eq, hside]
  constructor
  · rintro (hout | ⟨zone, hmem, htype, hoff, hins⟩)
    · exact ⟨_, Or.inl rfl, hout⟩
    · exact ⟨_, Or.inr ⟨zone, ⟨hmem, htype⟩, rfl⟩, hoff, (hzone zone hmem htype).1 hins⟩
  · rintro ⟨polygon, rfl | ⟨zone, ⟨hmem, htype⟩, rfl⟩, hoff, hsep⟩
    · exact Or.inl ⟨hoff, hsep⟩
    · exact Or.inr ⟨zone, hmem, htype, hoff, (hzone zone hmem htype).2 hsep⟩

variable [FloorSemiring 𝕜]

theorem keepsInside_iff {m : NavigationBoundaryManager 𝕜} {active : NavigationBoundary 𝕜}
    (hactive : m.active = some active) (houter : active.outerPolygon ≠ [])
    {route : BoundaryRoute 𝕜} (hmap : route.mapId = active.mapId)
    (haccept : m.validateRoute route = .ok ()) :
    KeepsInside active route ↔ UncutBetweenSamples active route := by
  constructor
  · intro hkeeps leg hleg k hk w hw polygon hpolygon hoff
    have hsample := checkPoint_of_validateRoute hactive hmap haccept hleg hk
    by_contra hsep
    exact hkeeps leg hleg w (mem_leg_of_between_samples hk hw) ((violates_iff houter hsample w).2
      ⟨polygon, hpolygon, hoff, Bool.eq_true_of_not_eq_false hsep⟩)
  · intro huncut leg hleg w hw hviolates
    obtain ⟨k, hk, hbetween⟩ := exists_between_samples hw
    have hsample := checkPoint_of_validateRoute hactive hmap haccept hleg hk
    obtain ⟨polygon, hpolygon, hoff, hsep⟩ := (violates_iff houter hsample w).1 hviolates
    rw [huncut leg hleg k hk w hbetween polygon hpolygon hoff] at hsep
    exact absurd hsep (by simp)

omit [IsStrictOrderedRing 𝕜] [FloorSemiring 𝕜] in
theorem apply_active {cos sin : 𝕜 → 𝕜} {m m' : NavigationBoundaryManager 𝕜}
    {command : BoundaryCommand 𝕜} {applied : BoundaryApplied 𝕜}
    (h : m.apply cos sin command = (m', .ok applied)) :
    m'.active = some command.boundary ∧ 3 ≤ command.outerPolygon.length := by
  simp only [apply] at h
  split at h
  · exact absurd (congrArg Prod.snd h) (by simp)
  next hvalid =>
  have hlen : 3 ≤ command.outerPolygon.length := by
    by_contra hlt
    exact hvalid (Or.inr (Or.inr (not_le.1 hlt)))
  split at h
  · obtain ⟨rfl, -⟩ := Prod.mk.inj h
    exact ⟨rfl, hlen⟩
  · split at h
    · exact absurd (congrArg Prod.snd h) (by simp)
    · obtain ⟨rfl, -⟩ := Prod.mk.inj h
      exact ⟨rfl, hlen⟩

/-- Whatever boundary the Edge applied, an accepted route on its map keeps inside it. -/
def AdmissionSound (𝕜 : Type*) [Field 𝕜] [LinearOrder 𝕜] [FloorSemiring 𝕜] : Prop :=
  ∀ (cos sin : 𝕜 → 𝕜) (m m' : NavigationBoundaryManager 𝕜) (command : BoundaryCommand 𝕜)
    (applied : BoundaryApplied 𝕜) (active : NavigationBoundary 𝕜) (route : BoundaryRoute 𝕜),
    m.apply cos sin command = (m', .ok applied) → m'.active = some active →
      route.mapId = active.mapId → m'.validateRoute route = .ok () → KeepsInside active route

/-- A route the Edge accepts for an applied boundary keeps inside it if and only if no outline of a
    hard polygon is crossed an odd number of times between a sample and a later point before the
    next sample. -/
theorem admission_sound_iff (cos sin : 𝕜 → 𝕜) (m m' : NavigationBoundaryManager 𝕜)
    (command : BoundaryCommand 𝕜) (applied : BoundaryApplied 𝕜) (active : NavigationBoundary 𝕜)
    (route : BoundaryRoute 𝕜) (happly : m.apply cos sin command = (m', .ok applied))
    (hactive : m'.active = some active) (hmap : route.mapId = active.mapId)
    (haccept : m'.validateRoute route = .ok ()) :
    KeepsInside active route ↔ UncutBetweenSamples active route := by
  obtain ⟨hcommand, hlen⟩ := apply_active happly
  obtain rfl := Option.some.inj (hactive.symm.trans hcommand)
  have houter : command.outerPolygon ≠ [] := by
    intro hnil
    rw [hnil] at hlen
    exact absurd hlen (by simp)
  exact keepsInside_iff hactive houter hmap haccept

/-! ## A zone one centimetre wide -/

/-- A square of twenty metres with a strip of one centimetre that the robot must not enter. -/
def thinZone : BoundaryCommand ℚ where
  mapId := "map"
  revision := 1
  outerPolygon := [(-10, -10), (10, -10), (10, 10), (-10, 10)]
  safetyMarginM := 0
  zones :=
    [{ zoneType := .forbidden
       polygon := [(1 / 50, -1), (3 / 100, -1), (3 / 100, 1), (1 / 50, 1)]
       warningDistanceM := 0 }]

/-- The Edge after it applied `thinZone`. -/
def thinZoneManager : NavigationBoundaryManager ℚ := (apply id id {} thinZone).1

/-- One metre straight across the strip. -/
def acrossStrip : BoundaryRoute ℚ where
  mapId := "map"
  waypoints := [(0, 0), (1, 0)]

theorem admission_sound_iff_thinZone :
    KeepsInside thinZone.boundary acrossStrip ↔
      UncutBetweenSamples thinZone.boundary acrossStrip :=
  admission_sound_iff id id {} thinZoneManager thinZone _ thinZone.boundary acrossStrip rfl rfl rfl
    (by decide +kernel)

theorem not_admissionSound_thinZone : ¬AdmissionSound ℚ := by
  intro h
  have hkeeps := h id id {} thinZoneManager thinZone _ thinZone.boundary acrossStrip rfl rfl rfl
    (by decide +kernel)
  refine hkeeps ((0, 0), (1, 0)) (by decide) (1 / 40, 0) ?_
    (Or.inr ⟨_, List.mem_cons_self, rfl, ?_, ?_⟩)
  · exact mem_segment_iff.2 ⟨1 / 40, by norm_num, by norm_num, by ext <;> norm_num [along]⟩
  · rintro ⟨e, he, hw⟩
    obtain ⟨t, -, -, hw⟩ := mem_segment_iff.1 hw
    have hfst := congrArg Prod.fst hw
    have hsnd := congrArg Prod.snd hw
    fin_cases he
    · norm_num [along] at hfst
    · norm_num [along] at hsnd
    · norm_num [along] at hfst
    · norm_num [along] at hsnd
  · decide +kernel

end NavigationBoundaryManager

end RoamerX
