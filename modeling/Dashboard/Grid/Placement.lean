/-
  Dashboard.Grid.Placement
  ────────────────────────
  Where a new panel goes.

  The first rectangle of the wanted size that touches nothing, row by row and
  column by column within the first forty rows; below everything when there is
  none.

  Main results:
    firstSome_eq_none — a search fails exactly when it fails at every place
-/
import Dashboard.Grid.Occupancy

namespace Dashboard.Grid

/-! ## §1. Searching. -/

/-- The first result of `f` at `start`, `start + 1`, … among `count` places. -/
def firstSome {α : Type} (f : Nat → Option α) : Nat → Nat → Option α
  | 0, _ => none
  | count + 1, start =>
    match f start with
    | some a => some a
    | none => firstSome f count (start + 1)

theorem firstSome_eq_none {α : Type} (f : Nat → Option α) (count start : Nat) :
    firstSome f count start = none ↔ ∀ i, start ≤ i → i < start + count → f i = none := by
  induction count generalizing start with
  | zero => simp only [firstSome, true_iff]; omega
  | succ count ih =>
    simp only [firstSome]
    cases hf : f start with
    | some a =>
      simp only [reduceCtorEq, false_iff]
      intro h
      have := h start (Nat.le_refl _) (by omega)
      simp [hf] at this
    | none =>
      simp only [ih]
      constructor
      · intro h i h₁ h₂
        by_cases hi : i = start
        · exact hi ▸ hf
        · exact h i (by omega) (by omega)
      · intro h i h₁ h₂
        exact h i (by omega) (by omega)

/-! ## §2. First fit. -/

/-- The number of rows searched for a free place. -/
def scanRows : UInt32 := 40

/-- A size that a grid of `columns` can hold: at least one cell each way, and
no wider than the grid. -/
def Size.bounded (s : Size) (columns : UInt32) : Size :=
  ⟨min (max s.w 1) columns, max s.h 1⟩

/-- The rectangle of a size at a place, if it touches nothing. -/
def Occupancy.freeAt? (o : Occupancy) (s : Size) (y x : Nat) : Option Rect :=
  let r := s.at (UInt32.ofNat x) (UInt32.ofNat y)
  if o.isFree r then some r else none

/-- The first free place for a size among existing rectangles.  The fallback
row is the bottom edge of the lowest one. -/
def findFreeSlot (columns : UInt32) (size : Size) (existing : List Rect) : Rect :=
  let columns := max columns 1
  let size := size.bounded columns
  -- the window reaches down to the bottom of the lowest place searched
  let window := saturatingAdd scanRows (min size.h scanRows)
  let occupancy := (Occupancy.windowed columns window).markAll existing
  let places := columns.toNat - size.w.toNat + 1
  let found := firstSome (fun y => firstSome (occupancy.freeAt? size y) places 0)
    scanRows.toNat 0
  found.getD (size.at 0 occupancy.bottom)

/-- Place sizes one after the other, each beside all before it. -/
def fill (columns : UInt32) : List Size → List Rect → List Rect
  | [], _ => []
  | s :: rest, existing =>
    let r := findFreeSlot columns s existing
    r :: fill columns rest (existing ++ [r])

/-! ## §3. Overlaps. -/

/-- Pairs of indices, counted from `i`, of overlapping rectangles. -/
def overlappingPairsFrom : Nat → List Rect → List (Nat × Nat)
  | _, [] => []
  | i, a :: rest =>
    ((rest.zipIdx (i + 1)).filter fun b => a.overlaps b.1).map (fun b => (i, b.2))
      ++ overlappingPairsFrom (i + 1) rest

/-- The pairs of an index with each later index whose rectangles overlap. -/
def overlappingPairs (rects : List Rect) : List (Nat × Nat) := overlappingPairsFrom 0 rects

end Dashboard.Grid
