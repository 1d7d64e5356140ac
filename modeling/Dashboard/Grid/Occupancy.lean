/-
  Dashboard.Grid.Occupancy
  ────────────────────────
  Which cells of a grid are taken.

  An occupancy looks at the grid through a window of columns and rows.  Of a
  marked rectangle it keeps the part inside the window, as a box of cells, and
  the whole rectangle where that reaches past the window.  Inside the window a
  cell is taken when a box holds it; outside, cells are judged by overlap with
  the rectangles that spill.
-/
import Dashboard.Grid.Rect

namespace Dashboard.Grid

/-! ## §1. Boxes of cells. -/

/-- The cells with `left ≤ x < right` and `top ≤ y < bottom`, in unbounded
numbers. -/
structure Box where
  left : Nat
  top : Nat
  right : Nat
  bottom : Nat
  deriving DecidableEq, Repr

namespace Box

/-- Whether a cell lies in the box. -/
def holds (b : Box) (x y : Nat) : Bool :=
  b.left ≤ x && x < b.right && b.top ≤ y && y < b.bottom

/-- Whether two boxes share a cell. -/
def meets (a b : Box) : Bool :=
  max a.left b.left < min a.right b.right && max a.top b.top < min a.bottom b.bottom

/-- The number of cells of the box. -/
def area (b : Box) : Nat := (b.right - b.left) * (b.bottom - b.top)

/-- The cells of `a` that are not in `b`: the rows above and below `b`, and
beside it the columns to the left and to the right. -/
def minus (a b : Box) : List Box :=
  if a.meets b then
    let top := max a.top b.top
    let bottom := min a.bottom b.bottom
    [⟨a.left, a.top, a.right, top⟩, ⟨a.left, bottom, a.right, a.bottom⟩,
      ⟨a.left, top, max a.left b.left, bottom⟩,
      ⟨min a.right b.right, top, a.right, bottom⟩]
  else [a]

/-- The number of cells that some box holds, each counted with the last box
that holds it. -/
def covered : List Box → Nat
  | [] => 0
  | b :: rest =>
    ((rest.foldl (fun pieces cut => pieces.flatMap (·.minus cut)) [b]).map area).sum
      + covered rest

end Box

/-! ## §2. Occupancies. -/

/-- A window, the boxes taken inside it, the rectangles that spill out of it,
and the first row below every marked rectangle. -/
structure Occupancy where
  columns : UInt32
  rows : UInt32
  inside : List Box
  spilled : List Rect
  bottom : UInt32
  deriving Repr

namespace Occupancy

/-- Nothing marked, seen through a window. -/
def windowed (columns rows : UInt32) : Occupancy := ⟨columns, rows, [], [], 0⟩

/-- Nothing marked, seen through the widest window. -/
def empty : Occupancy := windowed maxCells maxCells

/-- The part of a rectangle inside the window. -/
def clip (o : Occupancy) (r : Rect) : Box :=
  ⟨r.x.toNat, r.y.toNat, (min r.right o.columns).toNat, (min r.bottom o.rows).toNat⟩

/-- Whether a rectangle reaches past the window. -/
def spills (o : Occupancy) (r : Rect) : Bool := r.bottom > o.rows || r.right > o.columns

/-- Mark a rectangle as taken. -/
def mark (o : Occupancy) (r : Rect) : Occupancy :=
  { o with
    inside := o.clip r :: o.inside
    spilled := if o.spills r then r :: o.spilled else o.spilled
    bottom := max o.bottom r.bottom }

/-- Mark rectangles one after the other. -/
def markAll (o : Occupancy) (rs : List Rect) : Occupancy := rs.foldl mark o

/-- The occupancy of a list of rectangles. -/
def ofRects (rs : List Rect) : Occupancy := empty.markAll rs

/-- Whether a cell is taken. -/
def isOccupied (o : Occupancy) (x y : UInt32) : Bool :=
  -- past the window the rectangles are looked at one by one
  if x < o.columns && y < o.rows then o.inside.any (·.holds x.toNat y.toNat)
  else o.spilled.any (·.overlaps ⟨x, y, 1, 1⟩)

/-- Whether no cell of a rectangle is taken. -/
def isFree (o : Occupancy) (r : Rect) : Bool :=
  !o.inside.any (·.meets (o.clip r)) && !(o.spills r && o.spilled.any (·.overlaps r))

/-- How many cells inside the window are taken. -/
def occupiedCells (o : Occupancy) : Nat := Box.covered o.inside

end Occupancy
end Dashboard.Grid
