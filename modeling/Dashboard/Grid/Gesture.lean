/-
  Dashboard.Grid.Gesture
  ──────────────────────
  Dragging and resizing one panel with a pointer.

  A gesture starts on a panel that is being edited and not locked, and belongs
  to the pointer that started it.  Each move of that pointer turns the pixel
  distance from the start into whole cells and clamps the start rectangle,
  moved or grown by them, into the grid; a change is emitted when the result
  differs from the last one.  Letting go keeps the last rectangle, abandoning
  the gesture restores the first.  Whatever is not accepted is answered with
  the reason why it was ignored.  Cells are added in 64 bits, and a sum that
  does not fit stops the program.
-/
import Dashboard.Grid.Metrics

namespace Dashboard.Grid

/-! ## §1. What goes in and out. -/

/-- A pointer's place in container pixels. -/
structure Pointer where
  x : Float
  y : Float
  deriving Repr, Inhabited

/-- What a gesture changes. -/
inductive GestureKind where
  /-- The place of the panel. -/
  | drag
  /-- The size of the panel, from its bottom right corner. -/
  | resize
  deriving DecidableEq, Repr

/-- The panel under the pointer. -/
structure GestureTarget where
  panel : String
  rect : Rect
  locked : Bool
  deriving Repr

/-- The rectangle a panel is to have. -/
structure FrameChange where
  panel : String
  rect : Rect
  deriving DecidableEq, Repr

/-- The step of a gesture that a record is about. -/
inductive GesturePhase where
  | pointerDown
  | pointerMove
  | pointerUp
  | escape
  | cancel
  deriving DecidableEq, Repr

/-- Why a gesture was abandoned. -/
inductive CancelReason where
  | escapeKey
  | pointerCancel
  | unmount
  | programmatic
  deriving DecidableEq, Repr

/-- Why a signal changed nothing. -/
inductive IgnoredReason where
  | notEditing
  | panelLocked
  | gestureInProgress
  | noActiveGesture
  | pointerMismatch
  /-- The clamped rectangle is the last one. -/
  | unchanged
  deriving DecidableEq, Repr

/-- How a signal was taken. -/
inductive GestureOutcome where
  | started
  | updated
  | committed
  | reverted (reason : CancelReason)
  | ignored (reason : IgnoredReason)
  deriving DecidableEq, Repr

/-- The record of one signal. -/
structure GestureRecord where
  phase : GesturePhase
  sequence : Option Nat
  pointerId : Option UInt32
  panel : Option String
  kind : Option GestureKind
  position : Option Pointer
  outcome : GestureOutcome
  deriving Repr

/-- The answer to one signal. -/
structure GestureAnswer where
  change : Option FrameChange
  record : GestureRecord
  deriving Repr

/-- Whether the signal was ignored. -/
def GestureAnswer.isIgnored (a : GestureAnswer) : Bool :=
  match a.record.outcome with
  | .ignored _ => true
  | _ => false

/-- The gesture under way. -/
structure ActiveGesture where
  pointerId : UInt32
  panel : String
  kind : GestureKind
  origin : Pointer
  start : Rect
  last : Rect
  deriving Repr

/-- At most one gesture, and the number of the last accepted signal. -/
structure GestureMachine where
  active : Option ActiveGesture
  lastSequence : Nat
  deriving Repr

/-- No gesture, no signal yet. -/
def GestureMachine.idle : GestureMachine := ⟨none, 0⟩

/-! ## §2. Candidate rectangles. -/

/-- The whole cells from one place to another, across and down. -/
def Metrics.cellsBetween (metrics : Metrics) (origin position : Pointer) : Int64 × Int64 :=
  metrics.cellDelta (position.x - origin.x) (position.y - origin.y)

/-- A 64-bit number held within two bounds. -/
def clampWord (n lo hi : Int64) : Int64 := if n < lo then lo else if hi < n then hi else n

/-- A 64-bit number as a cell count: zero below, the greatest count above. -/
def cellOf (n : Int64) : UInt32 :=
  if n < 0 then 0 else if 0xFFFFFFFF < n then maxCells else UInt32.ofNat n.toInt.toNat

/-- A cell count as a 64-bit number. -/
def wordOf (n : UInt32) : Int64 := Int64.ofNat n.toNat

/-- The sum of two 64-bit numbers; none where it leaves 64 bits. -/
def checkedAdd (a b : Int64) : Option Int64 :=
  if a.toBitVec.saddOverflow b.toBitVec then none else some (a + b)

/-- The start rectangle moved or grown by whole cells and clamped into the
grid.  A drag keeps the size, a resize the place.  A sum that leaves 64 bits
stops the program, so there is no rectangle then; all differences are between
counts in order and stay within 64 bits. -/
def candidateRect (kind : GestureKind) (start : Rect) (dx dy : Int64) (columns : UInt32) :
    Option Rect :=
  let columns := wordOf (max columns 1)
  let x := wordOf start.x
  let y := wordOf start.y
  let w := wordOf start.w
  let h := wordOf start.h
  match kind with
  | .drag => do
    -- as wide as the grid at most, then as far to the right as that leaves
    let w := clampWord w 1 columns
    let x ← checkedAdd x dx
    let y ← checkedAdd y dy
    return ⟨cellOf (clampWord x 0 (columns - w)), cellOf (max y 0), cellOf w, cellOf (max h 1)⟩
  | .resize => do
    -- at least one cell wide, and at most up to the right edge
    let x := clampWord x 0 (columns - 1)
    let w ← checkedAdd w dx
    let h ← checkedAdd h dy
    return ⟨cellOf x, cellOf y, cellOf (clampWord w 1 (columns - x)), cellOf (max h 1)⟩

/-! ## §3. The machine. -/

/-- An answer that changes nothing. -/
def GestureAnswer.ofIgnored (phase : GesturePhase) (reason : IgnoredReason)
    (pointerId : Option UInt32) (panel : Option String) (position : Option Pointer) :
    GestureAnswer :=
  ⟨none, ⟨phase, none, pointerId, panel, none, position, .ignored reason⟩⟩

namespace GestureMachine

/-- The number of the next accepted signal, capped at 64 bits. -/
def nextSequence (m : GestureMachine) : Nat := min (m.lastSequence + 1) 0xFFFFFFFFFFFFFFFF

/-- Why a gesture may not start. -/
def refusal? (m : GestureMachine) (target : GestureTarget) (editing : Bool) :
    Option IgnoredReason :=
  if !editing then some .notEditing
  else if target.locked then some .panelLocked
  else if m.active.isSome then some .gestureInProgress
  else none

/-- A pointer goes down on a panel's handle. -/
def pointerDown (m : GestureMachine) (target : GestureTarget) (kind : GestureKind)
    (pointerId : UInt32) (position : Pointer) (editing : Bool) :
    GestureAnswer × GestureMachine :=
  match m.refusal? target editing with
  | some reason =>
    (.ofIgnored .pointerDown reason (some pointerId) (some target.panel) (some position), m)
  | none =>
    let n := m.nextSequence
    (⟨none, ⟨.pointerDown, some n, some pointerId, some target.panel, some kind,
        some position, .started⟩⟩,
      ⟨some ⟨pointerId, target.panel, kind, position, target.rect, target.rect⟩, n⟩)

/-- A pointer moves.  None where the program stops, because the pointer is too
far away for its rectangle to be computed. -/
def pointerMove (m : GestureMachine) (pointerId : UInt32) (position : Pointer)
    (metrics : Metrics) : Option (GestureAnswer × GestureMachine) :=
  match m.active with
  | none =>
    some (.ofIgnored .pointerMove .noActiveGesture (some pointerId) none (some position), m)
  | some a =>
    let ignored (reason : IgnoredReason) : GestureAnswer :=
      .ofIgnored .pointerMove reason (some pointerId) (some a.panel) (some position)
    if a.pointerId ≠ pointerId then some (ignored .pointerMismatch, m)
    else do
      -- measured from where the pointer went down, not from the last move
      let (dx, dy) := metrics.cellsBetween a.origin position
      let candidate ← candidateRect a.kind a.start dx dy metrics.columns
      if candidate = a.last then return (ignored .unchanged, m)
      let n := m.nextSequence
      return (⟨some ⟨a.panel, candidate⟩, ⟨.pointerMove, some n, some pointerId, some a.panel,
          some a.kind, some position, .updated⟩⟩, ⟨some { a with last := candidate }, n⟩)

/-- A pointer goes up: its gesture ends with the last rectangle. -/
def pointerUp (m : GestureMachine) (pointerId : UInt32) : GestureAnswer × GestureMachine :=
  match m.active with
  | none => (.ofIgnored .pointerUp .noActiveGesture (some pointerId) none none, m)
  | some a =>
    if a.pointerId ≠ pointerId then
      (.ofIgnored .pointerUp .pointerMismatch (some pointerId) (some a.panel) none, m)
    else
      let n := m.nextSequence
      (⟨none, ⟨.pointerUp, some n, some pointerId, some a.panel, some a.kind, none,
          .committed⟩⟩, ⟨none, n⟩)

/-- Abandon the gesture and restore the rectangle it began with. -/
def revert (m : GestureMachine) (phase : GesturePhase) (reason : CancelReason) :
    GestureAnswer × GestureMachine :=
  match m.active with
  | none => (.ofIgnored phase .noActiveGesture none none none, m)
  | some a =>
    let n := m.nextSequence
    -- a gesture that changed nothing has nothing to restore
    let change := if a.last = a.start then none else some ⟨a.panel, a.start⟩
    (⟨change, ⟨phase, some n, some a.pointerId, some a.panel, some a.kind, none,
        .reverted reason⟩⟩, ⟨none, n⟩)

/-- The escape key abandons the gesture. -/
def escape (m : GestureMachine) : GestureAnswer × GestureMachine :=
  m.revert .escape .escapeKey

/-- An interruption abandons the gesture. -/
def cancel (m : GestureMachine) (reason : CancelReason) : GestureAnswer × GestureMachine :=
  m.revert .cancel reason

end GestureMachine
end Dashboard.Grid
