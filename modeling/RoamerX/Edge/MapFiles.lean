import Mathlib.Algebra.Order.Field.Basic
import Mathlib.Data.Rat.Floor
import Mathlib.Tactic.Linarith

set_option autoImplicit false

/-! # The files of a map

The image, the metadata and the point cloud of a saved map as `map_cleaner.py` and `manual_map_cleanup.py` read them,
and the cells of the image that points project into. -/

namespace RoamerX

namespace MapFiles

/-- A coordinate that is not finite is `none`. -/
structure Point where
  x : Option ℚ
  y : Option ℚ
  z : Option ℚ
  /-- the other fields of the record -/
  other : List ℕ := []
  deriving DecidableEq

structure Cloud where
  fields : List String
  data : String
  points : List Point

structure Image where
  height : ℕ
  width : ℕ
  maxval : ℕ
  value : ℕ → ℕ → ℕ

/-- What is read of `map.yaml`. -/
structure Metadata where
  resolution : Option ℚ
  origin : Option (List ℚ)
  image : String

def Point.isFinite (p : Point) : Bool := p.x.isSome && p.y.isSome && p.z.isSome

def Image.cells (image : Image) : List (ℕ × ℕ) :=
  (List.range image.height).flatMap fun row => (List.range image.width).map fun col => (row, col)

/-- Where the cells of an image lie in the plane. -/
structure Grid where
  height : ℕ
  width : ℕ
  resolution : ℚ
  originX : ℚ
  originY : ℚ
  cosYaw : ℚ := 1
  sinYaw : ℚ := 0

namespace Grid

variable (g : Grid) {row col : ℕ} {x y : ℚ}

def localX (x y : ℚ) : ℚ := g.cosYaw * (x - g.originX) + g.sinYaw * (y - g.originY)

def localY (x y : ℚ) : ℚ := -g.sinYaw * (x - g.originX) + g.cosYaw * (y - g.originY)

/-- The cell that a place projects into, if it is in the image. -/
def cell (x y : ℚ) : Option (ℕ × ℕ) :=
  let col := ⌊g.localX x y / g.resolution⌋
  let row := (g.height : ℤ) - 1 - ⌊g.localY x y / g.resolution⌋
  if 0 ≤ row ∧ row < g.height ∧ 0 ≤ col ∧ col < g.width then some (row.toNat, col.toNat) else none

/-- A place lies in the square of a cell. -/
structure Contains (row col : ℕ) (x y : ℚ) : Prop where
  row_lt : row < g.height
  col_lt : col < g.width
  left : col * g.resolution ≤ g.localX x y
  right : g.localX x y < (col + 1) * g.resolution
  bottom : (g.height - 1 - row) * g.resolution ≤ g.localY x y
  top : g.localY x y < (g.height - row) * g.resolution

variable {g}

theorem floor_div_eq_iff {r v : ℚ} (hr : 0 < r) (n : ℤ) : ⌊v / r⌋ = n ↔ n * r ≤ v ∧ v < (n + 1) * r := by
  rw [Int.floor_eq_iff, le_div_iff₀ hr, div_lt_iff₀ hr]

theorem cell_eq_some_iff (hr : 0 < g.resolution) : g.cell x y = some (row, col) ↔ g.Contains row col x y := by
  have hcol := floor_div_eq_iff (v := g.localX x y) hr col
  have hrow := floor_div_eq_iff (v := g.localY x y) hr ((g.height : ℤ) - 1 - row)
  push_cast at hcol hrow
  have htop : ((g.height : ℚ) - 1 - row + 1) = g.height - row := by ring
  rw [htop] at hrow
  unfold cell
  constructor
  · intro h
    dsimp only at h
    split at h
    · rename_i hin
      simp only [Option.some.injEq, Prod.mk.injEq] at h
      obtain ⟨hleft, hright⟩ := hcol.mp (by omega)
      obtain ⟨hbottom, htop⟩ := hrow.mp (by omega)
      exact ⟨by omega, by omega, hleft, hright, hbottom, htop⟩
    · exact absurd h (by simp)
  · intro h
    have hc := hcol.mpr ⟨h.left, h.right⟩
    have hr := hrow.mpr ⟨h.bottom, h.top⟩
    have := h.row_lt
    have := h.col_lt
    dsimp only
    rw [if_pos (by omega), hc, hr]
    simp only [Option.some.injEq, Prod.mk.injEq]
    omega

end Grid

end MapFiles

end RoamerX
