/-
  Dashboard.Grid.Metrics
  ──────────────────────
  Cells and pixels of a grid in a container of known width.

  With `n` columns and gap `g` a column is `(width - g · (n - 1)) / n` wide,
  at least zero; the left edges of neighbouring columns lie one column and one
  gap apart.  A pixel distance becomes cells by rounding to the nearest whole
  number of such steps, halves away from zero, held within 64 bits.
-/
import Dashboard.Grid.Rect

namespace Dashboard.Grid

/-- A box in pixels, from the top left corner of the container. -/
structure PixelBox where
  left : Float
  top : Float
  width : Float
  height : Float
  deriving Repr, Inhabited

/-- A grid in a container: at least one column, and no negative width. -/
structure Metrics where
  columns : UInt32
  rowHeight : Float
  gap : Float
  containerWidth : Float
  deriving Repr, Inhabited

/-- A number that is not below zero; zero for what is no number. -/
def atLeastZero (x : Float) : Float := if x > 0.0 then x else 0.0

/-- The pixels of a run of cells and the gaps between them. -/
def span (cells : UInt32) (cell gap : Float) : Float :=
  if cells = 0 then 0.0
  else cells.toFloat * cell + (cells.toFloat - 1.0) * gap

/-- The whole number nearest to a quotient, held within 64 bits; zero where the
step or the distance is no usable number. -/
def roundCells (distance step : Float) : Int64 :=
  if step ≤ 0.0 || !distance.isFinite then 0
  else (distance / step).round.toInt64

namespace Metrics

/-- A grid resolved against a container width. -/
def ofSpec (spec : Spec) (containerWidth : Float) : Metrics :=
  ⟨max spec.columns 1, spec.rowHeight.toFloat, spec.gap.toFloat,
    atLeastZero containerWidth⟩

/-- The width of one column. -/
def columnWidth (m : Metrics) : Float :=
  let columns := (max m.columns 1).toFloat
  let gutters := m.gap * (columns - 1.0)
  atLeastZero ((m.containerWidth - gutters) / columns)

/-- The distance between the left edges of neighbouring columns. -/
def columnPitch (m : Metrics) : Float := m.columnWidth + m.gap

/-- The distance between the top edges of neighbouring rows. -/
def rowPitch (m : Metrics) : Float := m.rowHeight + m.gap

/-- The pixels a rectangle covers. -/
def pixelBox (m : Metrics) (r : Rect) : PixelBox :=
  ⟨r.x.toFloat * m.columnPitch, r.y.toFloat * m.rowPitch,
    span r.w m.columnWidth m.gap, span r.h m.rowHeight m.gap⟩

/-- The height that shows every rectangle; zero where there is none. -/
def contentHeight (m : Metrics) (rects : List Rect) : Float :=
  span (rects.foldl (fun rows r => max rows r.bottom) 0) m.rowHeight m.gap

/-- A pixel distance in whole columns and rows. -/
def cellDelta (m : Metrics) (dx dy : Float) : Int64 × Int64 :=
  (roundCells dx m.columnPitch, roundCells dy m.rowPitch)

end Metrics
end Dashboard.Grid
