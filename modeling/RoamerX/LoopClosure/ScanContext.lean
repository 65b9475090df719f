import RoamerX.Lib.PlaneTurns
import RoamerX.Lib.FirstBest
import Mathlib
import RoamerX.Lib.Numerals

set_option autoImplicit false

/-! # Scan contexts

`_scan_context` and `_shift_descriptor` of `map_loop_closure.py`. A cloud is told by the greatest height in each
cell of a disc that is cut into rings and sectors. Where the cloud is turned by whole sectors, its descriptor is
the shifted one. Arithmetic is exact, so the definitions are about real numbers and not computable. -/

noncomputable section

namespace RoamerX

open scoped Numerals

namespace ScanContext

open Real

def rings : ℕ := 20

def sectors : ℕ := 60

/-- `MAX_RADIUS_M` -/
def maxRadius : ℝ := 80

/-- The angle of a sector, `2.0 * math.pi / SECTORS`. -/
def sectorAngle : ℝ := Plane.sectorAngle sectors

/-- A point of a cloud, seen from the lidar. -/
@[ext]
structure Point where
  x : ℝ
  y : ℝ
  z : ℝ

abbrev Cloud := List Point

def Point.xy (p : Point) : ℝ × ℝ := (p.x, p.y)

/-- The point turned about the vertical axis. -/
def Point.turn (angle : ℝ) (p : Point) : Point :=
  let xy := Plane.turn angle p.xy
  ⟨xy.1, xy.2, p.z⟩

/-- `int(x)` -/
def truncate (x : ℝ) : ℤ := if 0 ≤ x then ⌊x⌋ else ⌈x⌉

/-- One row a ring, one value a sector. -/
structure Descriptor where
  rows : List (List ℝ)
  rows_length : rows.length = rings
  row_length : ∀ row ∈ rows, row.length = sectors

namespace Descriptor

/-- `descriptor[ring][sector]` -/
def cell (d : Descriptor) (ring sector : ℕ) : ℝ := (d.rows.getD ring []).getD sector 0

/-- `descriptor[ring][sector] = z` -/
def setCell (d : Descriptor) (ring sector : ℕ) (z : ℝ) : Descriptor where
  rows := d.rows.modify ring fun row => row.set sector z
  rows_length := by rw [List.length_modify, d.rows_length]
  row_length := by
    intro row hrow
    obtain ⟨index, hindex, rfl⟩ := List.mem_iff_getElem.mp hrow
    rw [List.length_modify] at hindex
    rw [List.getElem_modify]
    split
    · rw [List.length_set]
      exact d.row_length _ (List.getElem_mem hindex)
    · exact d.row_length _ (List.getElem_mem hindex)

def map (f : ℝ → ℝ) (d : Descriptor) : Descriptor where
  rows := d.rows.map (List.map f)
  rows_length := by rw [List.length_map, d.rows_length]
  row_length := by
    intro row hrow
    obtain ⟨old, hold, rfl⟩ := List.mem_map.mp hrow
    rw [List.length_map, d.row_length old hold]

end Descriptor

/-- `[[-1e9] * SECTORS for _ in range(RINGS)]` -/
def unseen : Descriptor where
  rows := List.replicate rings (List.replicate sectors (-1e9))
  rows_length := List.length_replicate
  row_length := fun row hrow => by rw [List.eq_of_mem_replicate hrow, List.length_replicate]

/-! ## The descriptor of a cloud -/

def ringOf (p : Point) : ℕ := min (rings - 1) (truncate (Plane.radius p.xy / maxRadius * rings)).toNat

def sectorOf (p : Point) : ℕ := (truncate ((Plane.heading p.xy + π) / (2 * π) * sectors) % sectors).toNat

/-- One point of `_scan_context`. -/
def recordPoint (d : Descriptor) (p : Point) : Descriptor :=
  if Plane.radius p.xy ≤ 1e-6 ∨ maxRadius < Plane.radius p.xy then d
  else if d.cell (ringOf p) (sectorOf p) < p.z then d.setCell (ringOf p) (sectorOf p) p.z
  else d

/-- What was seen nowhere counts as the ground. -/
def ground (z : ℝ) : ℝ := if z < -1e8 then 0 else z

def scanContext (points : Cloud) : Descriptor := (points.foldl recordPoint unseen).map ground

/-- `_shift_descriptor`, for a shift below the number of sectors. -/
def shiftDescriptor (d : Descriptor) (shift : Fin sectors) : Descriptor where
  rows := if shift.val % sectors = 0 then d.rows else d.rows.map fun row => row.drop shift ++ row.take shift
  rows_length := by
    split
    · exact d.rows_length
    · rw [List.length_map, d.rows_length]
  row_length := by
    have hshift := shift.isLt
    intro row hrow
    split at hrow
    · exact d.row_length row hrow
    · obtain ⟨old, hold, rfl⟩ := List.mem_map.mp hrow
      rw [List.length_append, List.length_drop, List.length_take, d.row_length old hold]
      omega

/-! ## Cells -/

variable {d d' : Descriptor} {ring sector ring' sector' : ℕ}

namespace Descriptor

theorem getD_row (d : Descriptor) (hring : ring < rings) : ∃ row ∈ d.rows, d.rows[ring]? = some row := by
  have hlt : ring < d.rows.length := by rw [d.rows_length]; exact hring
  exact ⟨d.rows[ring], List.getElem_mem hlt, List.getElem?_eq_getElem hlt⟩

theorem ext_cell (h : ∀ ring < rings, ∀ sector < sectors, d.cell ring sector = d'.cell ring sector) : d = d' := by
  have hrows : d.rows = d'.rows := by
    refine List.ext_getElem (by rw [d.rows_length, d'.rows_length]) fun ring hring hring' => ?_
    have hlength := d.row_length _ (List.getElem_mem hring)
    have hlength' := d'.row_length _ (List.getElem_mem hring')
    refine List.ext_getElem (by rw [hlength, hlength']) fun sector hsector hsector' => ?_
    have hcell := h ring (by rw [← d.rows_length]; exact hring) sector (by rw [← hlength]; exact hsector)
    rw [cell, cell, List.getD_eq_getElem _ _ hring, List.getD_eq_getElem _ _ hring',
      List.getD_eq_getElem _ _ hsector, List.getD_eq_getElem _ _ hsector'] at hcell
    exact hcell
  cases d
  cases d'
  cases hrows
  rfl

theorem cell_setCell (d : Descriptor) (hring : ring < rings) (hsector : sector < sectors) (z : ℝ) :
    (d.setCell ring sector z).cell ring' sector' =
      if ring' = ring ∧ sector' = sector then z else d.cell ring' sector' := by
  obtain ⟨row, hmem, hrow⟩ := d.getD_row hring
  have hlength := d.row_length row hmem
  simp only [cell, setCell, List.getD_eq_getElem?_getD, List.getElem?_modify]
  by_cases hr : ring' = ring
  · subst hr
    rw [hrow]
    by_cases hs : sector' = sector
    · subst hs
      simp [hlength, hsector]
    · simp [hs, List.getElem?_set_ne (fun heq => hs heq.symm)]
  · have hne : ring ≠ ring' := fun heq => hr heq.symm
    simp [hr, hne]

theorem cell_map (f : ℝ → ℝ) (d : Descriptor) (hring : ring < rings) (hsector : sector < sectors) :
    (d.map f).cell ring sector = f (d.cell ring sector) := by
  obtain ⟨row, hmem, hrow⟩ := d.getD_row hring
  have hlt : sector < row.length := by rw [d.row_length row hmem]; exact hsector
  simp [cell, map, List.getD_eq_getElem?_getD, hrow, hlt]

end Descriptor

theorem cell_unseen (hring : ring < rings) (hsector : sector < sectors) : unseen.cell ring sector = -1e9 := by
  simp [Descriptor.cell, unseen, List.getD_eq_getElem?_getD, hring, hsector]

theorem cell_shiftDescriptor (d : Descriptor) (shift : Fin sectors) (hring : ring < rings) (hsector : sector < sectors) :
    (shiftDescriptor d shift).cell ring sector = d.cell ring ((sector + shift) % sectors) := by
  obtain ⟨row, hmem, hrow⟩ := d.getD_row hring
  have hlength := d.row_length row hmem
  have hshift := shift.isLt
  simp only [Descriptor.cell, shiftDescriptor, List.getD_eq_getElem?_getD]
  split
  · next hzero =>
    rw [Nat.mod_eq_of_lt hshift] at hzero
    rw [hzero, add_zero, Nat.mod_eq_of_lt hsector]
  · rw [List.getElem?_map, hrow]
    have hle : shift.val ≤ row.length := by omega
    simp only [Option.map_some, Option.getD_some]
    rw [← List.rotate_eq_drop_append_take hle, List.getElem?_rotate (by omega), hlength]

/-! ## Clouds of the same points -/

/-- The clouds hold the same points, in any order and any number. -/
def SamePoints (points points' : Cloud) : Prop := ∀ p, p ∈ points ↔ p ∈ points'

structure Counted (ring sector : ℕ) (p : Point) : Prop where
  near : Plane.radius p.xy ≤ maxRadius
  far : 1e-6 < Plane.radius p.xy
  ring_eq : ringOf p = ring
  sector_eq : sectorOf p = sector

theorem ringOf_lt (p : Point) : ringOf p < rings := by
  unfold ringOf rings
  omega

theorem sectorOf_lt (p : Point) : sectorOf p < sectors := by
  unfold sectorOf sectors
  omega

theorem lt_cell_recordPoint (d : Descriptor) (p : Point) (v : ℝ) :
    v < (recordPoint d p).cell ring sector ↔ v < d.cell ring sector ∨ Counted ring sector p ∧ v < p.z := by
  unfold recordPoint
  by_cases hskip : Plane.radius p.xy ≤ 1e-6 ∨ maxRadius < Plane.radius p.xy
  · rw [if_pos hskip]
    have hnot : ¬ Counted ring sector p := fun h => hskip.elim (not_le.mpr h.far) (not_lt.mpr h.near)
    simp only [hnot, false_and, or_false]
  · obtain ⟨hfar, hnear⟩ := not_or.mp hskip
    rw [if_neg hskip]
    by_cases hcell : ring = ringOf p ∧ sector = sectorOf p
    · obtain ⟨rfl, rfl⟩ := hcell
      have hcounted : Counted (ringOf p) (sectorOf p) p := ⟨not_lt.mp hnear, not_le.mp hfar, rfl, rfl⟩
      simp only [hcounted, true_and]
      by_cases hhigher : d.cell (ringOf p) (sectorOf p) < p.z
      · rw [if_pos hhigher, Descriptor.cell_setCell d (ringOf_lt p) (sectorOf_lt p), if_pos ⟨rfl, rfl⟩]
        exact ⟨Or.inr, fun h => h.elim (fun hv => hv.trans hhigher) id⟩
      · rw [if_neg hhigher]
        exact ⟨Or.inl, fun h => h.elim id fun hv => hv.trans_le (not_lt.mp hhigher)⟩
    · have hnot : ¬ Counted ring sector p := fun h => hcell ⟨h.ring_eq.symm, h.sector_eq.symm⟩
      simp only [hnot, false_and, or_false]
      by_cases hhigher : d.cell (ringOf p) (sectorOf p) < p.z
      · rw [if_pos hhigher, Descriptor.cell_setCell d (ringOf_lt p) (sectorOf_lt p), if_neg hcell]
      · rw [if_neg hhigher]

theorem lt_cell_foldl_recordPoint (d : Descriptor) (points : Cloud) (v : ℝ) :
    v < (points.foldl recordPoint d).cell ring sector ↔
      v < d.cell ring sector ∨ ∃ p ∈ points, Counted ring sector p ∧ v < p.z := by
  induction points generalizing d with
  | nil => simp
  | cons p points ih =>
    rw [List.foldl_cons, ih, lt_cell_recordPoint, List.exists_mem_cons_iff, or_assoc]

theorem SamePoints.scanContext_eq {points points' : Cloud} (h : SamePoints points points') :
    scanContext points = scanContext points' := by
  have hfold : points.foldl recordPoint unseen = points'.foldl recordPoint unseen := by
    refine Descriptor.ext_cell fun ring _ sector _ => eq_of_forall_lt_iff fun v => ?_
    rw [lt_cell_foldl_recordPoint, lt_cell_foldl_recordPoint]
    simp only [h _]
  rw [scanContext, hfold, scanContext]

/-! ## Turned clouds -/

/-- The sector that `k` sectors further on is. -/
def movedSector (k : ℤ) (sector : ℕ) : ℕ := ((sector + k) % (sectors : ℤ)).toNat

theorem movedSector_lt (k : ℤ) (sector : ℕ) : movedSector k sector < sectors := by
  unfold movedSector sectors
  omega

theorem movedSector_inj (k : ℤ) (hsector : sector < sectors) (hsector' : sector' < sectors) :
    movedSector k sector = movedSector k sector' ↔ sector = sector' := by
  unfold movedSector
  unfold sectors at *
  omega

/-- The second descriptor is the first, `k` sectors further on. -/
def Moved (k : ℤ) (d d' : Descriptor) : Prop :=
  ∀ ring < rings, ∀ sector < sectors, d'.cell ring (movedSector k sector) = d.cell ring sector

theorem sectorAngle_eq : sectorAngle = Plane.sectorAngle sectors := rfl

theorem truncate_of_nonneg {x : ℝ} (h : 0 ≤ x) : truncate x = ⌊x⌋ := if_pos h

theorem sectorOf_eq (p : Point) : sectorOf p = (Plane.sector sectors p.xy).toNat := by
  have hplace := Plane.place_nonneg sectors p.xy
  unfold sectorOf
  rw [← Plane.place.eq_def, truncate_of_nonneg hplace]
  rfl

theorem xy_turn (angle : ℝ) (p : Point) : (p.turn angle).xy = Plane.turn angle p.xy := rfl

theorem z_turn (angle : ℝ) (p : Point) : (p.turn angle).z = p.z := rfl

theorem ringOf_turn (angle : ℝ) (p : Point) : ringOf (p.turn angle) = ringOf p := by
  unfold ringOf
  rw [xy_turn, Plane.radius_turn]

theorem sectorOf_turn {p : Point} (h : 0 < Plane.radius p.xy) (k : ℤ) :
    sectorOf (p.turn (k * sectorAngle)) = movedSector k (sectorOf p) := by
  have hpos : 0 < sectors := by decide
  rw [sectorOf_eq, sectorOf_eq, xy_turn, sectorAngle_eq, Plane.sector_turn hpos h, movedSector]
  have hrange : 0 ≤ Plane.sector sectors p.xy := Int.emod_nonneg _ (by decide)
  rw [Int.toNat_of_nonneg hrange]

theorem recordPoint_turn {k : ℤ} (h : Moved k d d') (p : Point) :
    Moved k (recordPoint d p) (recordPoint d' (p.turn (k * sectorAngle))) := by
  unfold recordPoint
  rw [xy_turn, Plane.radius_turn]
  by_cases hskip : Plane.radius p.xy ≤ 1e-6 ∨ maxRadius < Plane.radius p.xy
  · rw [if_pos hskip, if_pos hskip]
    exact h
  · have hradius : 0 < Plane.radius p.xy := by
      have hmin := not_le.mp fun hle => hskip (Or.inl hle)
      exact lt_trans (by norm_num) hmin
    have hring := ringOf_lt p
    have hsector := sectorOf_lt p
    rw [if_neg hskip, if_neg hskip, ringOf_turn, sectorOf_turn hradius, z_turn, h _ hring _ hsector]
    by_cases hhigher : d.cell (ringOf p) (sectorOf p) < p.z
    · rw [if_pos hhigher, if_pos hhigher]
      intro ring hring' sector hsector'
      rw [Descriptor.cell_setCell d' hring (movedSector_lt k _), Descriptor.cell_setCell d hring hsector,
        h ring hring' sector hsector']
      simp only [movedSector_inj k hsector' hsector]
    · rw [if_neg hhigher, if_neg hhigher]
      exact h

theorem foldl_recordPoint_turn {k : ℤ} (h : Moved k d d') (points : Cloud) :
    Moved k (points.foldl recordPoint d)
      ((points.map (Point.turn (k * sectorAngle))).foldl recordPoint d') := by
  induction points generalizing d d' with
  | nil => exact h
  | cons p points ih => exact ih (recordPoint_turn h p)

theorem moved_unseen (k : ℤ) : Moved k unseen unseen := by
  intro ring hring sector hsector
  rw [cell_unseen hring (movedSector_lt k sector), cell_unseen hring hsector]

theorem Moved.map {k : ℤ} (h : Moved k d d') (f : ℝ → ℝ) : Moved k (d.map f) (d'.map f) := by
  intro ring hring sector hsector
  rw [Descriptor.cell_map f d' hring (movedSector_lt k sector), Descriptor.cell_map f d hring hsector,
    h ring hring sector hsector]

theorem moved_scanContext (k : ℤ) (points : Cloud) :
    Moved k (scanContext points) (scanContext (points.map (Point.turn (k * sectorAngle)))) :=
  (foldl_recordPoint_turn (moved_unseen k) points).map ground

/-- The shift that undoes a turn by `k` sectors. -/
def shiftFor (k : ℤ) : Fin sectors := ⟨((-k) % (sectors : ℤ)).toNat, by unfold sectors; omega⟩

theorem Moved.eq_shiftDescriptor {k : ℤ} (h : Moved k d d') : d' = shiftDescriptor d (shiftFor k) := by
  refine Descriptor.ext_cell fun ring hring sector hsector => ?_
  rw [cell_shiftDescriptor d _ hring hsector, ← h ring hring _ (Nat.mod_lt _ (by decide))]
  congr 1
  simp only [movedSector, shiftFor]
  unfold sectors at *
  omega

/-- **The descriptor of a cloud turned by whole sectors is a shifted one.** -/
theorem scanContext_turn (k : ℤ) (points : Cloud) :
    scanContext (points.map (Point.turn (k * sectorAngle))) = shiftDescriptor (scanContext points) (shiftFor k) :=
  (moved_scanContext k points).eq_shiftDescriptor

/-- What undoes one turn and what undoes another are one shift just where the turns differ by full turns. -/
theorem shiftFor_eq_shiftFor {k k' : ℤ} : shiftFor k = shiftFor k' ↔ (sectors : ℤ) ∣ k - k' := by
  simp only [shiftFor, Fin.mk.injEq]
  unfold sectors
  omega

end ScanContext

end RoamerX

end
