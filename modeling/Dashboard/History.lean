/-
  Dashboard.History
  ─────────────────
  Undo and redo by whole snapshots.

  The past and the future of a document are lists of snapshots, the nearest
  first.  A new edit forgets the future; the past never holds more than
  `limit` snapshots and loses its oldest ones first.

  Main results:
    push_length, undo_length, redo_length — the past stays within its limit
-/

namespace Dashboard

/-- The snapshots around a current document. -/
structure History (α : Type) where
  past : List α
  future : List α
  limit : Nat
  deriving Repr

/-- A hundred snapshots. -/
def standardHistoryLimit : Nat := 100

namespace History

variable {α : Type}

/-- No snapshots. -/
def empty (limit : Nat) : History α := ⟨[], [], limit⟩

/-- Forget all snapshots. -/
def clear (h : History α) : History α := empty h.limit

def canUndo (h : History α) : Bool := !h.past.isEmpty

def canRedo (h : History α) : Bool := !h.future.isEmpty

def undoDepth (h : History α) : Nat := h.past.length

def redoDepth (h : History α) : Nat := h.future.length

/-- Remember a document before it is edited. -/
def push (h : History α) (before : α) : History α :=
  { h with past := (before :: h.past).take h.limit, future := [] }

/-- Step back: the nearest past snapshot, in exchange for the current one. -/
def undo (h : History α) (current : α) : Option (α × History α) :=
  match h.past with
  | [] => none
  | previous :: past => some (previous, { h with past, future := current :: h.future })

/-- Step forward: the nearest future snapshot, in exchange for the current one. -/
def redo (h : History α) (current : α) : Option (α × History α) :=
  match h.future with
  | [] => none
  | next :: future => some (next, { h with past := (current :: h.past).take h.limit, future })

theorem push_length (h : History α) (before : α) : (h.push before).undoDepth ≤ h.limit := by
  show ((before :: h.past).take h.limit).length ≤ h.limit
  rw [List.length_take]
  exact Nat.min_le_left _ _

theorem undo_length {h h' : History α} {current previous : α}
    (bound : h.undoDepth ≤ h.limit) (step : h.undo current = some (previous, h')) :
    h'.undoDepth ≤ h'.limit := by
  unfold undo at step
  cases hp : h.past with
  | nil => simp [hp] at step
  | cons p rest =>
    simp only [hp, Option.some.injEq, Prod.mk.injEq] at step
    obtain ⟨-, rfl⟩ := step
    simp only [undoDepth, hp, List.length_cons] at bound ⊢
    omega

theorem redo_length {h h' : History α} {current next : α}
    (step : h.redo current = some (next, h')) : h'.undoDepth ≤ h'.limit := by
  unfold redo at step
  cases hf : h.future with
  | nil => simp [hf] at step
  | cons f rest =>
    simp only [hf, Option.some.injEq, Prod.mk.injEq] at step
    obtain ⟨-, rfl⟩ := step
    simp only [undoDepth, List.length_take]
    omega

end History
end Dashboard
