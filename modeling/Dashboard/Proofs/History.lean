/-
  Dashboard.Proofs.History
  ────────────────────────
  **THE STACKS OF A HISTORY ARE ONE LINE OF SNAPSHOTS.**

  The past, the current document and the future make up one line with a place
  on it.  Undo and redo move the place and leave the line alone; an edit cuts
  the line behind the place and appends to it, and of a line that is longer
  than the limit allows the oldest snapshots go.

  Main results:
    line_push, line_undo, line_redo — what a step does to the line
    exchanges_undo, exchanges_redo  — which snapshots a step can bring up
-/
import Dashboard.History
import Mathlib.Data.List.DropRight

namespace Dashboard.History

/-! ## §1. The line of a history. -/

variable {α : Type} {h : History α} {current : α}

/-- A history without snapshots is the empty one. -/
theorem eq_empty {m : Nat} (hundo : h.undoDepth = 0) (hredo : h.redoDepth = 0)
    (hlimit : h.limit = m) : h = .empty m := by
  obtain ⟨past, future, limit⟩ := h
  cases hlimit
  rw [List.eq_nil_of_length_eq_zero (show past.length = 0 from hundo),
    List.eq_nil_of_length_eq_zero (show future.length = 0 from hredo)]
  rfl

/-- What an earlier bound keeps is enough for the next one. -/
theorem rtake_concat_rtake (l : List α) (a : α) (n : Nat) :
    (l.rtake (n + 1) ++ [a]).rtake (n + 1) = (l ++ [a]).rtake (n + 1) := by
  have hrtake : (l.rtake (n + 1)).rtake n = l.rtake n := by
    rw [List.rtake_eq_reverse_take_reverse, List.rtake_eq_reverse_take_reverse,
      List.reverse_reverse, List.take_take, Nat.min_eq_left (Nat.le_succ n),
      ← List.rtake_eq_reverse_take_reverse]
  rw [List.rtake_concat_succ, List.rtake_concat_succ, hrtake]

/-- The snapshots with the current document among them, the oldest first. -/
def line (h : History α) (current : α) : List α := h.past.reverse ++ current :: h.future

/-- All past versions, the current one and all undone ones. -/
theorem line_length (h : History α) (current : α) :
    (h.line current).length = h.undoDepth + h.redoDepth + 1 := by
  simp [line, undoDepth, redoDepth, Nat.add_assoc]

/-- The current version stands behind the past ones. -/
theorem line_current (h : History α) (current : α) :
    (h.line current)[h.undoDepth]? = some current := by
  have hlen : h.past.reverse.length = h.undoDepth := List.length_reverse
  rw [line, List.getElem?_append_right (Nat.le_of_eq hlen), hlen, Nat.sub_self]
  rfl

/-- An edit cuts the line and appends to it; only its end is kept. -/
theorem line_push (h : History α) (before after : α) :
    (h.push before).line after
      = ((h.line before).take (h.undoDepth + 1) ++ [after]).rtake (h.limit + 1) := by
  have hlen : (h.past.reverse ++ [before]).length = h.undoDepth + 1 := by
    simp [undoDepth]
  have hcut : (h.line before).take (h.undoDepth + 1) = (before :: h.past).reverse := by
    have hline : h.line before = (h.past.reverse ++ [before]) ++ h.future := by
      simp [line]
    rw [hline, List.take_left' hlen, List.reverse_cons]
  rw [hcut, List.rtake_concat_succ, List.rtake_eq_reverse_take_reverse, List.reverse_reverse]
  rfl

/-- At the limit a push drops the oldest version. -/
theorem undoDepth_push (h : History α) (before : α) :
    (h.push before).undoDepth = min (h.undoDepth + 1) h.limit := by
  show ((before :: h.past).take h.limit).length = _
  rw [List.length_take, List.length_cons, Nat.min_comm]
  rfl

theorem undo_eq_none (hdepth : h.undoDepth = 0) : h.undo current = none := by
  unfold undo
  rw [List.eq_nil_of_length_eq_zero hdepth]

/-- An undo goes one step back along the same line. -/
theorem line_undo (current : α) (hdepth : h.undoDepth ≠ 0) :
    ∃ w h', h.undo current = some (w, h') ∧ h'.line w = h.line current ∧
      h'.undoDepth + 1 = h.undoDepth ∧ h'.limit = h.limit := by
  obtain ⟨past, future, limit⟩ := h
  cases past with
  | nil => exact absurd rfl hdepth
  | cons w past =>
      refine ⟨w, ⟨past, current :: future, limit⟩, rfl, ?_, rfl, rfl⟩
      simp [line]

theorem redo_eq_none (hdepth : h.redoDepth = 0) : h.redo current = none := by
  unfold redo
  rw [List.eq_nil_of_length_eq_zero hdepth]

/-- Within the limit nothing is dropped on the way forth. -/
theorem line_redo (current : α) (hdepth : h.redoDepth ≠ 0)
    (hbound : h.undoDepth + h.redoDepth ≤ h.limit) :
    ∃ w h', h.redo current = some (w, h') ∧ h'.line w = h.line current ∧
      h'.past = current :: h.past ∧ h'.limit = h.limit := by
  obtain ⟨past, future, limit⟩ := h
  cases future with
  | nil => exact absurd rfl hdepth
  | cons w future =>
      have hfits : (current :: past).length ≤ limit := by
        have hsum : past.length + (future.length + 1) ≤ limit := hbound
        rw [List.length_cons]
        omega
      have hall : (current :: past).take limit = current :: past := List.take_of_length_le hfits
      refine ⟨w, ⟨(current :: past).take limit, future, limit⟩, rfl, ?_, hall, rfl⟩
      simp [line, hall]

/-! ## §2. Snapshots that a step brings up. -/

/-- A step goes to one of the snapshots and leaves the current document among
them; no other document comes up. -/
def Exchanges (move : History α → α → Option (α × History α)) : Prop :=
  ∀ h current w h', move h current = some (w, h') → (w ∈ h.past ∨ w ∈ h.future) ∧
    ∀ v, v ∈ h'.past ∨ v ∈ h'.future → v = current ∨ v ∈ h.past ∨ v ∈ h.future

theorem exchanges_undo : Exchanges (@undo α) := by
  intro h current w h' hw
  unfold undo at hw
  split at hw
  next => cases hw
  next older hpast =>
    cases hw
    rw [hpast]
    refine ⟨Or.inl List.mem_cons_self, ?_⟩
    rintro v (hv | hv)
    · exact Or.inr (Or.inl (List.mem_cons_of_mem _ hv))
    · rcases List.mem_cons.mp hv with rfl | hv
      · exact Or.inl rfl
      · exact Or.inr (Or.inr hv)

theorem exchanges_redo : Exchanges (@redo α) := by
  intro h current w h' hw
  unfold redo at hw
  split at hw
  next => cases hw
  next newer hfuture =>
    cases hw
    rw [hfuture]
    refine ⟨Or.inr List.mem_cons_self, ?_⟩
    rintro v (hv | hv)
    · rcases List.mem_cons.mp (List.mem_of_mem_take hv) with rfl | hv
      · exact Or.inl rfl
      · exact Or.inr (Or.inl hv)
    · exact Or.inr (Or.inr (List.mem_cons_of_mem _ hv))

end Dashboard.History
