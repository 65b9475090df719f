import RoamerX.Boundary.Admission
import RoamerX.Boundary.CenterService

set_option autoImplicit false

/-! # Four deciders of one boundary

The check of a goal, the watch over the pose, the keep-out mask and the center's own check each
walk through the outer polygon and the zones on their own. They are compared with one predicate,
`rejects`. -/

namespace RoamerX

variable {𝕜 : Type*} [Field 𝕜] [LinearOrder 𝕜]

open Polygon

/-- The point is outside the outer polygon or in a forbidden zone, or within the margin of one. -/
def NavigationBoundary.rejects (active : NavigationBoundary 𝕜) (x y : 𝕜) : Bool :=
  NavigationBoundaryManager.outsideOuter active x y ||
    active.zones.any (NavigationBoundaryManager.forbids active x y)

namespace NavigationBoundaryManager

section Deciders

variable {active : NavigationBoundary 𝕜} {x y : 𝕜}

/-! ## The check of a goal -/

theorem checkPoint_eq_ok_iff (houter : active.outerPolygon ≠ []) :
    checkPoint active x y = .ok () ↔ active.rejects x y = false := by
  simp only [checkPoint, NavigationBoundary.rejects, Bool.or_eq_false_iff]
  split
  · next hout => simp [hout.2]
  · next hin =>
    have hin : outsideOuter active x y = false := by
      by_contra hne
      exact hin ⟨houter, Bool.eq_true_of_not_eq_false hne⟩
    cases hfind : active.zones.find? (forbids active x y) with
    | none =>
      have hnone : active.zones.any (forbids active x y) = false :=
        List.any_eq_false.2 (List.find?_eq_none.1 hfind)
      simp [hin, hnone]
    | some zone =>
      have hsome : active.zones.any (forbids active x y) = true :=
        List.any_eq_true.2 ⟨zone, List.mem_of_find?_eq_some hfind, List.find?_some hfind⟩
      simp [hsome]

theorem validatePoint_eq_checkPoint {m : NavigationBoundaryManager 𝕜}
    (hactive : m.active = some active) :
    m.validatePoint active.mapId x y = checkPoint active x y := by
  have hmap : m.activeMapId = active.mapId := by simp [activeMapId, hactive]
  simp only [validatePoint, validateExpected, hactive]
  rw [if_neg (by simp [hmap])]
  rfl

/-! ## The watch over the pose -/

omit [Field 𝕜] [LinearOrder 𝕜] in
theorem reported_ne_empty (zone : Zone 𝕜) : "forbidden:" ++ zone.key ≠ "" := by
  intro h
  exact absurd (congrArg String.length h) (by simp)

theorem enteredZone_eq_empty_iff (v : String) (zones : List (Zone 𝕜)) :
    enteredZone x y v zones = "" ↔
      v = "" ∧ ∀ zone ∈ zones, (pointInPolygon x y zone.polygon &&
        decide (zone.zoneType = .forbidden)) = false := by
  induction zones generalizing v with
  | nil => simp [enteredZone]
  | cons zone zones ih =>
    have hcons : enteredZone x y v (zone :: zones) = enteredZone x y
        (if pointInPolygon x y zone.polygon && decide (zone.zoneType = .forbidden) then
          "forbidden:" ++ zone.key else v) zones := rfl
    rw [hcons, ih, List.forall_mem_cons]
    cases hzone : pointInPolygon x y zone.polygon && decide (zone.zoneType = .forbidden) with
    | false => rw [if_neg (by simp), and_iff_right rfl]
    | true =>
      rw [if_pos rfl]
      simp

theorem violation_eq_empty_iff : violation active x y = "" ↔ active.rejects x y = false := by
  have hentered := enteredZone_eq_empty_iff (x := x) (y := y)
    (if outsideOuter active x y then "outside_boundary" else "") active.zones
  have hrejects : active.rejects x y = false ↔ outsideOuter active x y = false ∧
      (∀ zone ∈ active.zones, (pointInPolygon x y zone.polygon &&
        decide (zone.zoneType = .forbidden)) = false) ∧
      ∀ zone ∈ active.zones, nearForbidden active x y zone = false := by
    simp only [NavigationBoundary.rejects, Bool.or_eq_false_iff, List.any_eq_false, forbids,
      nearForbidden]
    grind
  have hfirst : (if outsideOuter active x y then "outside_boundary" else "") = "" ↔
      outsideOuter active x y = false := by
    cases outsideOuter active x y <;> simp
  rw [hrejects, ← and_assoc, ← hfirst, ← hentered]
  dsimp only [violation]
  generalize enteredZone x y (if outsideOuter active x y then "outside_boundary" else "")
    active.zones = v
  by_cases hv : v = ""
  · rw [if_neg (not_not.2 hv), and_iff_right hv]
    cases hfind : active.zones.find? (nearForbidden active x y) with
    | none =>
      simp only [true_iff]
      intro zone hzone
      exact Bool.eq_false_iff.2 (List.find?_eq_none.1 hfind zone hzone)
    | some zone =>
      have hzone := List.find?_some hfind
      simp only [reported_ne_empty, false_iff]
      intro hnone
      exact absurd hzone (by simp [hnone zone (List.mem_of_find?_eq_some hfind)])
  · rw [if_pos hv, eq_false hv, false_and]

/-! ## The keep-out mask -/

omit [LinearOrder 𝕜] in
theorem hypotSq_sub (a b c d : 𝕜) (e f : 𝕜) :
    hypotSq (a - b - c) (d - e - f) = hypotSq (a - (b + c)) (d - (e + f)) := by
  rw [sub_sub, sub_sub]

theorem polygonDistance_eq (polygon : List (𝕜 × 𝕜)) :
    BoundaryFilterMask.polygonDistance x y polygon = distanceToPolygon x y polygon := by
  have hsegment : BoundaryFilterMask.segmentDistance x y = pointToSegmentDistance x y := by
    funext start stop
    simp only [BoundaryFilterMask.segmentDistance, pointToSegmentDistance, hypotSq_sub]
  rw [BoundaryFilterMask.polygonDistance, distanceToPolygon, hsegment]

theorem filterMask_inside_eq [IsStrictOrderedRing 𝕜] (polygon : List (𝕜 × 𝕜)) :
    BoundaryFilterMask.inside x y polygon = pointInPolygon x y polygon := by
  rw [pointInPolygon_eq_inside, BoundaryFilterMask.inside, scanAll_eq_inside]

theorem blocked_eq_rejects [IsStrictOrderedRing 𝕜]
    (hzones : ∀ zone ∈ active.zones, zone.active = true) :
    BoundaryFilterMask.blocked active x y = active.rejects x y := by
  have hforbidden : ((active.zones.filter
      (fun zone => zone.active && decide (zone.zoneType = .forbidden))).map (·.polygon)).any
        (fun polygon => pointInPolygon x y polygon ||
          nearer (distanceToPolygon x y polygon) (max 0 active.safetyMarginM)) =
      active.zones.any (forbids active x y) := by
    rw [List.any_map, List.any_filter, Bool.eq_iff_iff, List.any_eq_true, List.any_eq_true]
    refine exists_congr fun zone => and_congr_right fun hzone => ?_
    rw [hzones zone hzone]
    rfl
  simp only [BoundaryFilterMask.blocked, filterMask_inside_eq, polygonDistance_eq,
    NavigationBoundary.rejects]
  rw [hforbidden]
  change (if (!outsideOuter active x y) = true then _ else outsideOuter active x y) = _
  cases outsideOuter active x y <;> rfl

theorem pixel_eq {cos sin : 𝕜 → 𝕜} {localMap : Option (GridMap 𝕜)}
    {mask : BoundaryFilterMask.Mask 𝕜} {map : GridMap 𝕜} (hmap : active.map = some map)
    (h : BoundaryFilterMask.writeKeepoutMask cos sin localMap active = .ok mask) {row column : ℕ}
    (hrow : row < mask.height) (hcolumn : column < mask.width) {c : 𝕜 × 𝕜}
    (hc : c = BoundaryFilterMask.cellCentre (cos map.origin.2.2) (sin map.origin.2.2) map row
      column) :
    mask.pixels[row * mask.width + column]? =
      some (if BoundaryFilterMask.blocked active c.1 c.2 then 0 else 255) := by
  simp only [BoundaryFilterMask.writeKeepoutMask, hmap] at h
  split at h
  · exact absurd h (by simp)
  split at h
  · exact absurd h (by simp)
  obtain rfl := Except.ok.inj h
  dsimp only at hrow hcolumn ⊢
  have hindex : row * map.width.toNat + column < map.width.toNat * map.height.toNat :=
    calc row * map.width.toNat + column < row * map.width.toNat + map.width.toNat := by omega
      _ = (row + 1) * map.width.toNat := (Nat.succ_mul _ _).symm
      _ ≤ map.height.toNat * map.width.toNat := Nat.mul_le_mul_right _ hrow
      _ = map.width.toNat * map.height.toNat := Nat.mul_comm _ _
  have hquot : (row * map.width.toNat + column) / map.width.toNat = row := by
    rw [Nat.mul_comm, Nat.mul_add_div (by omega), Nat.div_eq_of_lt hcolumn, Nat.add_zero]
  have hrem : (row * map.width.toNat + column) % map.width.toNat = column := by
    rw [Nat.mul_comm, Nat.mul_add_mod, Nat.mod_eq_of_lt hcolumn]
  rw [List.getElem?_map, List.getElem?_map, List.getElem?_range hindex, Option.map_some,
    Option.map_some, hquot, hrem, ← hc]

/-! ## The center -/

theorem pointAllowed_iff {command : BoundaryCommand 𝕜} (hne : command.outerPolygon ≠ [])
    {point : 𝕜 × 𝕜} (hoff : ∀ polygon ∈ hardPolygons command.boundary,
      ¬NavigationBoundaryService.TakenOnEdge point polygon) :
    (NavigationBoundaryService.pointAllowedByBoundary point command).1 = true ↔
      command.boundary.rejects point.1 point.2 = false := by
  have hzone : command.zones.any (fun zone => zone.active && decide (zone.zoneType = .forbidden) &&
        (NavigationBoundaryService.pointInPolygon point zone.polygon ||
          nearer (NavigationBoundaryService.distanceToPolygon point zone.polygon)
            (max 0 command.safetyMarginM))) =
      command.boundary.zones.any (forbids command.boundary point.1 point.2) := by
    rw [BoundaryCommand.boundary, List.any_filter, Bool.eq_iff_iff, List.any_eq_true, List.any_eq_true]
    refine exists_congr fun zone => and_congr_right fun hzone => ?_
    cases hact : zone.active with
    | false => simp
    | true =>
      by_cases htype : zone.zoneType = .forbidden
      · have hpolygon : zone.polygon ∈ hardPolygons command.boundary := by
          refine List.mem_cons_of_mem _ (List.mem_map.2 ⟨zone, List.mem_filter.2 ⟨?_, ?_⟩, rfl⟩)
          · exact List.mem_filter.2 ⟨hzone, hact⟩
          · simp [htype]
        rw [NavigationBoundaryService.pointInPolygon_eq (hoff _ hpolygon)]
        simp only [forbids, htype]
        rfl
      · simp [forbids, htype]
  have hout : (!NavigationBoundaryService.pointInPolygon point command.outerPolygon ||
      nearer (NavigationBoundaryService.distanceToPolygon point command.outerPolygon)
        (max 0 command.safetyMarginM)) = outsideOuter command.boundary point.1 point.2 := by
    have hpolygon : command.outerPolygon ∈ hardPolygons command.boundary := List.mem_cons_self
    rw [NavigationBoundaryService.pointInPolygon_eq (hoff _ hpolygon)]
    rfl
  simp only [NavigationBoundaryService.pointAllowedByBoundary, NavigationBoundary.rejects, hzone,
    hout]
  cases outsideOuter command.boundary point.1 point.2 <;>
    cases command.boundary.zones.any (forbids command.boundary point.1 point.2) <;> simp [hne]

end Deciders

/-! ## The four together -/

/-- The Edge watches a pose, blocks a cell of its mask and the center refuses a point exactly where
    the Edge's own check rejects it; the points the center is asked about are subject to `off`. -/
structure DecidersAgree (cos sin : 𝕜 → 𝕜) (m : NavigationBoundaryManager 𝕜)
    (command : BoundaryCommand 𝕜) (off : 𝕜 × 𝕜 → List (𝕜 × 𝕜) → Prop) : Prop where
  pose : ∀ (mapId : String) (x y : 𝕜),
    (m.observePose mapId x y).2.violation = "" ↔ m.validatePoint mapId x y = .ok ()
  mask : ∀ (localMap : Option (GridMap 𝕜)) (mask : BoundaryFilterMask.Mask 𝕜) (map : GridMap 𝕜)
    (row column : ℕ),
    BoundaryFilterMask.writeKeepoutMask cos sin localMap command.boundary = .ok mask →
      command.map = some map → row < mask.height → column < mask.width →
      ∀ centre, centre = BoundaryFilterMask.cellCentre (cos map.origin.2.2) (sin map.origin.2.2) map
        row column →
      (mask.pixels[row * mask.width + column]? = some 0 ↔
        m.validatePoint command.mapId centre.1 centre.2 ≠ .ok ())
  center : ∀ point : 𝕜 × 𝕜, (∀ polygon ∈ hardPolygons command.boundary, off point polygon) →
    ((NavigationBoundaryService.pointAllowedByBoundary point command).1 = true ↔
      m.validatePoint command.mapId point.1 point.2 = .ok ())

/-- All deciders agree on the boundary of a command that the Edge has active, except that the center
    is only asked about points that it does not take to be on an edge of a hard polygon. -/
theorem deciders_agree [IsStrictOrderedRing 𝕜] (cos sin : 𝕜 → 𝕜)
    (m : NavigationBoundaryManager 𝕜) (command : BoundaryCommand 𝕜)
    (hactive : m.active = some command.boundary) (hne : command.outerPolygon ≠ []) :
    DecidersAgree cos sin m command
      (fun point polygon => ¬NavigationBoundaryService.TakenOnEdge point polygon) := by
  have hcheck : ∀ x y, m.validatePoint command.mapId x y = .ok () ↔
      command.boundary.rejects x y = false := by
    intro x y
    have hchecked : checkPoint command.boundary x y = .ok () ↔
        command.boundary.rejects x y = false := checkPoint_eq_ok_iff hne
    rw [← hchecked, ← validatePoint_eq_checkPoint hactive]
    rfl
  have hmap : m.activeMapId = command.mapId := by
    rw [activeMapId, hactive]
    rfl
  constructor
  · intro mapId x y
    by_cases hid : command.mapId = mapId
    · subst hid
      rw [hcheck, ← violation_eq_empty_iff]
      simp [observePose, hactive, hmap]
    · simp only [observePose, validatePoint, validateExpected, hactive, hmap, ne_eq, hid,
        not_false_eq_true, if_true, true_iff]
      rfl
  · intro localMap mask map row column hmask hmapinfo hrow hcolumn centre hcentre
    have hpixel := pixel_eq (show command.boundary.map = some map from hmapinfo) hmask hrow hcolumn
      hcentre
    have hblocked : BoundaryFilterMask.blocked command.boundary centre.1 centre.2 =
        command.boundary.rejects centre.1 centre.2 :=
      blocked_eq_rejects (fun zone hzone => (List.mem_filter.1 hzone).2)
    rw [hpixel, hblocked, ne_eq, hcheck]
    cases command.boundary.rejects centre.1 centre.2 <;> simp
  · intro point hoff
    rw [hcheck, pointAllowed_iff hne hoff]

theorem deciders_agree_thinZone :
    DecidersAgree id id thinZoneManager thinZone
      (fun point polygon => ¬NavigationBoundaryService.TakenOnEdge point polygon) :=
  deciders_agree id id thinZoneManager thinZone rfl (by decide)

/-- A hair outside the outer polygon, and so on none of the edges. -/
def besideEdge : ℚ × ℚ := (10 + 1 / 10 ^ 11, 0)

theorem not_deciders_agree_besideEdge :
    ¬DecidersAgree id id thinZoneManager thinZone
      (fun point polygon => ¬EvenOdd.OnChain polygon point) := by
  intro h
  have hoff : ∀ polygon ∈ hardPolygons thinZone.boundary, ¬EvenOdd.OnChain polygon besideEdge := by
    rintro polygon hpolygon ⟨e, he, hw⟩
    obtain ⟨t, h0, h1, hw⟩ := mem_segment_iff.1 hw
    have hfst := congrArg Prod.fst hw
    have hsnd := congrArg Prod.snd hw
    have hpolygon : polygon = thinZone.outerPolygon ∨
        polygon = [(1 / 50, -1), (3 / 100, -1), (3 / 100, 1), (1 / 50, 1)] := by
      simpa [hardPolygons, BoundaryCommand.boundary, thinZone] using hpolygon
    -- An upright edge is at another x, a level one at another y.
    rcases hpolygon with rfl | rfl <;> fin_cases he <;>
      first
      | norm_num [along, besideEdge, thinZone] at hfst; done
      | norm_num [along, besideEdge, thinZone] at hsnd
  have hcenter := (h.center besideEdge hoff).1 (by decide +kernel)
  exact absurd hcenter (by decide +kernel)

end NavigationBoundaryManager

end RoamerX
