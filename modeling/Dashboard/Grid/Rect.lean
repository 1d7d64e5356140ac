/-
  Dashboard.Grid.Rect
  ───────────────────
  Rectangles of whole grid cells.

  Cells are counted in 32-bit words.  The two far edges of a rectangle are
  saturating sums: a rectangle that would end past the last word ends at it.

  Main results:
    toNat_saturatingAdd — the sum in unbounded numbers, capped
    overlaps_comm       — overlap is symmetric
-/

namespace Dashboard.Grid

/-! ## §1. Words. -/

/-- The greatest cell count. -/
def maxCells : UInt32 := 0xFFFFFFFF

/-- The sum of two counts, capped at the greatest one. -/
def saturatingAdd (a b : UInt32) : UInt32 :=
  if a.toNat + b.toNat < 0x100000000 then a + b else maxCells

theorem toNat_saturatingAdd (a b : UInt32) :
    (saturatingAdd a b).toNat = min (a.toNat + b.toNat) 0xFFFFFFFF := by
  unfold saturatingAdd
  split
  · rename_i h
    rw [UInt32.toNat_add, Nat.mod_eq_of_lt h]
    omega
  · simp only [maxCells]
    have : (0xFFFFFFFF : UInt32).toNat = 0xFFFFFFFF := by decide
    omega

/-! ## §2. Rectangles. -/

/-- A rectangle: its top left cell and how many columns and rows it spans. -/
structure Rect where
  x : UInt32
  y : UInt32
  w : UInt32
  h : UInt32
  deriving DecidableEq, Repr, Inhabited

namespace Rect

/-- One past the last column. -/
def right (r : Rect) : UInt32 := saturatingAdd r.x r.w

/-- One past the last row. -/
def bottom (r : Rect) : UInt32 := saturatingAdd r.y r.h

/-- Whether two rectangles share a cell, judged by their edges. -/
def overlaps (a b : Rect) : Bool :=
  a.x < b.right && b.x < a.right && a.y < b.bottom && b.y < a.bottom

/-- Whether a rectangle spans a cell at all and ends within `columns`. -/
def fits (r : Rect) (columns : UInt32) : Bool :=
  1 ≤ r.w && 1 ≤ r.h && r.right ≤ columns

/-- The rectangle pulled back into a grid of `columns` (at least one): the
width is cut to the grid, the left edge moved until the rectangle ends inside,
and both spans are at least one. -/
def clamped (r : Rect) (columns : UInt32) : Rect :=
  let columns := max columns 1
  let w := min (max r.w 1) columns
  ⟨min r.x (columns - w), r.y, w, max r.h 1⟩

theorem overlaps_comm (a b : Rect) : a.overlaps b = b.overlaps a := by
  unfold overlaps
  rw [Bool.eq_iff_iff]
  simp only [Bool.and_eq_true, decide_eq_true_eq]
  exact ⟨fun ⟨⟨⟨p, q⟩, r⟩, s⟩ => ⟨⟨⟨q, p⟩, s⟩, r⟩, fun ⟨⟨⟨p, q⟩, r⟩, s⟩ => ⟨⟨⟨q, p⟩, s⟩, r⟩⟩

end Rect

/-! ## §3. Sizes and grids. -/

/-- A span of columns and rows without a place. -/
structure Size where
  w : UInt32
  h : UInt32
  deriving DecidableEq, Repr, Inhabited

/-- The rectangle of a size at a cell. -/
def Size.at (s : Size) (x y : UInt32) : Rect := ⟨x, y, s.w, s.h⟩

/-- A page's grid: the number of columns, the pixel height of a row and the
pixels between cells. -/
structure Spec where
  columns : UInt32
  rowHeight : UInt32
  gap : UInt32
  deriving DecidableEq, Repr, Inhabited

/-- Twelve columns, rows of 80 pixels, gaps of 12. -/
def Spec.standard : Spec := ⟨12, 80, 12⟩

end Dashboard.Grid
