/-
  Dashboard.Proofs.Grid.Gesture
  ─────────────────────────────
  **WHAT A GESTURE PROPOSES FITS THE GRID.**

  A candidate rectangle is made of two sums, each held between two bounds
  before it becomes a cell count again.  Whatever the sums are, the bounds say
  that the rectangle ends inside the grid.  So clamping a candidate once more
  changes nothing, in any grid whose last column can be counted past.

  The machine takes signals of five kinds.  While a gesture is under way, a
  signal is ignored, moves the panel to another rectangle, ends the gesture, or
  takes the pointer so far away that the program stops.

  Main results:
    fits_exactRect     — candidates fit, wherever the gesture began
    clamped_of_fits    — what fits stays as it is
    answer_eq_none_iff — the moves that stop the program
    answer_of_ignored, pointerDown_begins, answer_continues, answer_ends
-/
import Dashboard.Proofs.Grid.Candidate

namespace Dashboard.Grid

/-! ## §1. Candidates. -/

/-- A rectangle held within the grid fits it, whatever the sums are. -/
theorem fits_heldRect (kind : GestureKind) (start : Rect) (across down : Int) {columns : UInt32}
    (h : 1 ≤ columns) : (heldRect kind start across down columns).fits columns = true := by
  obtain ⟨hmax, hwide⟩ := max_one h
  have hlt := columns.toNat_lt
  rw [Rect.fits_iff]
  cases kind with
  | drag =>
      -- the width is chosen first, and leaves room for the place
      dsimp only [heldRect]
      rw [toNat_cappedCell, toNat_cappedCell, toNat_cappedCell, gridColumns, hmax]
      unfold held
      omega
  | resize =>
      -- the place is chosen first, and leaves room for the width
      dsimp only [heldRect]
      rw [toNat_cappedCell, toNat_cappedCell, toNat_cappedCell, gridColumns, hmax]
      unfold held
      omega

/-- **What a gesture proposes fits the grid**, wherever it began and however
far the pointer went. -/
theorem fits_exactRect (kind : GestureKind) (start : Rect) (dx dy : Int) {columns : UInt32}
    (h : 1 ≤ columns) : (exactRect kind start dx dy columns).fits columns = true :=
  fits_heldRect kind start _ _ h

/-- **What fits stays as it is.**  The edge of the greatest grid is a cap, so
there a rectangle may fit that ends past it. -/
theorem Rect.clamped_of_fits {r : Rect} {columns : UInt32} (h : r.fits columns = true)
    (hlast : columns < maxCells) : r.clamped columns = r := by
  have hproper := Proper.of_fits h
  rcases (fits_iff_ends hproper columns).mp h with hends | rfl
  · exact (clamped_eq_self_iff hproper (one_le_of_endsWithin hproper hends)).mpr hends
  · exact absurd hlast (UInt32.lt_irrefl maxCells)

/-! ## §2. Signals. -/

/-- A signal to the gesture machine. -/
inductive GestureSignal where
  | move (pointerId : UInt32) (position : Pointer) (metrics : Metrics)
  | down (target : GestureTarget) (kind : GestureKind) (pointerId : UInt32) (position : Pointer)
    (editing : Bool)
  | up (pointerId : UInt32)
  | escape
  | cancel (reason : CancelReason)

namespace GestureSignal

/-- The signal leaves a pointer's gesture under way, and knows the grid by its
number of columns. -/
def Continues (pointer : UInt32) (columns : UInt32) : GestureSignal → Prop
  | .move _ _ metrics => metrics.columns = columns
  | .down .. => True
  | .up pointerId => pointerId ≠ pointer
  | .escape | .cancel _ => False

/-- The signal ends a pointer's gesture. -/
def Ends (pointer : UInt32) : GestureSignal → Prop
  | .up pointerId => pointerId = pointer
  | .escape | .cancel _ => True
  | _ => False

/-- Whether an ending keeps the last rectangle: the pointer went up. -/
def keeps : GestureSignal → Bool
  | .up _ => true
  | _ => false

/-- A move of the gesture's own pointer takes it so far away that a sum
overflows. -/
def Overreaches (g : ActiveGesture) : GestureSignal → Prop
  | .move pointerId position metrics => pointerId = g.pointerId ∧
    (Overflows (g.kind.across g.start) (metrics.cellsBetween g.origin position).1 ∨
      Overflows (g.kind.down g.start) (metrics.cellsBetween g.origin position).2)
  | _ => False

/-- The rectangle that a gesture is to have after a signal: where its own
pointer is then, else the one it had. -/
def aim (g : ActiveGesture) (last : Rect) : GestureSignal → Rect
  | .move pointerId position metrics =>
    if pointerId = g.pointerId then
      exactRect g.kind g.start (metrics.cellsBetween g.origin position).1.toInt
        (metrics.cellsBetween g.origin position).2.toInt metrics.columns
    else last
  | _ => last

end GestureSignal

namespace GestureMachine

/-- The machine's answer to a signal; none where the program stops. -/
def answer (m : GestureMachine) : GestureSignal → Option (GestureAnswer × GestureMachine)
  | .move pointerId position metrics => m.pointerMove pointerId position metrics
  | .down target kind pointerId position editing =>
    some (m.pointerDown target kind pointerId position editing)
  | .up pointerId => some (m.pointerUp pointerId)
  | .escape => some m.escape
  | .cancel reason => some (m.cancel reason)

variable {m m' : GestureMachine} {a : GestureAnswer} {g : ActiveGesture}

/-- A move of a pointer that has no gesture, or not this one. -/
theorem pointerMove_of_foreign {pointerId : UInt32}
    (h : ∀ g, m.active = some g → g.pointerId ≠ pointerId) (position : Pointer)
    (metrics : Metrics) :
    ∃ a, m.pointerMove pointerId position metrics = some (a, m) ∧
      a.isIgnored = true ∧ a.change = none := by
  unfold pointerMove
  cases hactive : m.active with
  | none => exact ⟨_, rfl, rfl, rfl⟩
  | some g =>
      dsimp only
      rw [if_pos (h g hactive)]
      exact ⟨_, rfl, rfl, rfl⟩

/-- A move of the gesture's own pointer, by its candidate. -/
theorem pointerMove_of_own (hactive : m.active = some g) (position : Pointer)
    (metrics : Metrics) : m.pointerMove g.pointerId position metrics =
      (candidateRect g.kind g.start (metrics.cellsBetween g.origin position).1
        (metrics.cellsBetween g.origin position).2 metrics.columns).bind fun r =>
          if r = g.last then
            some (.ofIgnored .pointerMove .unchanged (some g.pointerId) (some g.panel)
              (some position), m)
          else some (⟨some ⟨g.panel, r⟩, ⟨.pointerMove, some m.nextSequence, some g.pointerId,
            some g.panel, some g.kind, some position, .updated⟩⟩,
            ⟨some { g with last := r }, m.nextSequence⟩) := by
  unfold pointerMove
  rw [hactive]
  dsimp only
  rw [if_neg (not_not_intro rfl)]
  rfl

/-- **The moves that stop the program** are those of the gesture's own pointer
that take it too far away. -/
theorem answer_eq_none_iff {x : GestureSignal} :
    m.answer x = none ↔ ∃ g, m.active = some g ∧ x.Overreaches g := by
  cases x with
  | move pointerId position metrics =>
      by_cases hown : ∃ g, m.active = some g ∧ g.pointerId = pointerId
      · obtain ⟨g, hactive, rfl⟩ := hown
        show m.pointerMove _ _ _ = none ↔ _
        rw [pointerMove_of_own hactive, candidateRect_eq, hactive]
        simp only [Option.some.injEq, exists_eq_left', GestureSignal.Overreaches, true_and]
        split
        next hover => exact iff_of_true rfl hover
        next hnot =>
          refine iff_of_false ?_ hnot
          rw [Option.bind_some]
          split <;> exact nofun
      · obtain ⟨a, hanswer, -, -⟩ := pointerMove_of_foreign
          (fun g hactive hid => hown ⟨g, hactive, hid⟩) position metrics
        show m.pointerMove _ _ _ = none ↔ _
        rw [hanswer]
        exact iff_of_false nofun fun ⟨g, hactive, hid, _⟩ => hown ⟨g, hactive, hid.symm⟩
  | down target kind pointerId position editing => exact iff_of_false nofun fun ⟨_, _, h⟩ => h
  | up pointerId => exact iff_of_false nofun fun ⟨_, _, h⟩ => h
  | escape => exact iff_of_false nofun fun ⟨_, _, h⟩ => h
  | cancel reason => exact iff_of_false nofun fun ⟨_, _, h⟩ => h

theorem revert_of_ignored {phase : GesturePhase} {reason : CancelReason}
    (hanswer : m.revert phase reason = (a, m')) (h : a.isIgnored = true) :
    a.change = none ∧ m' = m := by
  unfold revert at hanswer
  split at hanswer
  next =>
    cases hanswer
    exact ⟨rfl, rfl⟩
  next =>
    cases hanswer
    cases h

theorem pointerDown_of_ignored {target : GestureTarget} {kind : GestureKind} {pointerId : UInt32}
    {position : Pointer} {editing : Bool}
    (hanswer : m.pointerDown target kind pointerId position editing = (a, m'))
    (h : a.isIgnored = true) : a.change = none ∧ m' = m := by
  unfold pointerDown at hanswer
  split at hanswer
  next =>
    cases hanswer
    exact ⟨rfl, rfl⟩
  next =>
    cases hanswer
    cases h

theorem pointerUp_of_ignored {pointerId : UInt32} (hanswer : m.pointerUp pointerId = (a, m'))
    (h : a.isIgnored = true) : a.change = none ∧ m' = m := by
  unfold pointerUp at hanswer
  split at hanswer
  next =>
    cases hanswer
    exact ⟨rfl, rfl⟩
  next =>
    split at hanswer
    next =>
      cases hanswer
      exact ⟨rfl, rfl⟩
    next =>
      cases hanswer
      cases h

theorem pointerMove_of_ignored {pointerId : UInt32} {position : Pointer} {metrics : Metrics}
    (hanswer : m.pointerMove pointerId position metrics = some (a, m'))
    (h : a.isIgnored = true) : a.change = none ∧ m' = m := by
  by_cases hown : ∃ g, m.active = some g ∧ g.pointerId = pointerId
  · obtain ⟨g, hactive, rfl⟩ := hown
    rw [pointerMove_of_own hactive] at hanswer
    obtain ⟨r, -, hanswer⟩ := Option.bind_eq_some_iff.mp hanswer
    split at hanswer
    next =>
      cases hanswer
      exact ⟨rfl, rfl⟩
    next =>
      -- a new rectangle is not ignored
      cases hanswer
      cases h
  · obtain ⟨a', hforeign, -, hquiet⟩ := pointerMove_of_foreign
      (fun g hactive hid => hown ⟨g, hactive, hid⟩) position metrics
    rw [hforeign] at hanswer
    cases hanswer
    exact ⟨hquiet, rfl⟩

/-- What is ignored changes nothing and emits nothing. -/
theorem answer_of_ignored {x : GestureSignal} (hanswer : m.answer x = some (a, m'))
    (h : a.isIgnored = true) : a.change = none ∧ m' = m := by
  cases x with
  | move pointerId position metrics => exact pointerMove_of_ignored hanswer h
  | down target kind pointerId position editing =>
      exact pointerDown_of_ignored (Option.some.inj hanswer) h
  | up pointerId => exact pointerUp_of_ignored (Option.some.inj hanswer) h
  | escape => exact revert_of_ignored (Option.some.inj hanswer) h
  | cancel reason => exact revert_of_ignored (Option.some.inj hanswer) h

/-- An accepted start. -/
theorem pointerDown_begins {target : GestureTarget} {kind : GestureKind} {pointerId : UInt32}
    {position : Pointer} {editing : Bool}
    (h : (m.pointerDown target kind pointerId position editing).1.isIgnored = false) :
    (m.pointerDown target kind pointerId position editing).1.change = none ∧
      (m.pointerDown target kind pointerId position editing).2.active
        = some ⟨pointerId, target.panel, kind, position, target.rect, target.rect⟩ := by
  unfold pointerDown at h ⊢
  split
  next hrefused =>
    rw [hrefused] at h
    cases h
  next => exact ⟨rfl, rfl⟩

/-- No gesture starts while another one is under way. -/
theorem pointerDown_of_active (hactive : m.active = some g) (target : GestureTarget)
    (kind : GestureKind) (pointerId : UInt32) (position : Pointer) (editing : Bool) :
    (m.pointerDown target kind pointerId position editing).1.isIgnored = true := by
  have hrefused : ∃ reason, m.refusal? target editing = some reason := by
    unfold refusal?
    rw [hactive]
    split
    next => exact ⟨_, rfl⟩
    next =>
      split
      next => exact ⟨_, rfl⟩
      next => exact ⟨_, rfl⟩
  obtain ⟨reason, hreason⟩ := hrefused
  unfold pointerDown
  rw [hreason]
  rfl

/-- A signal that leaves a gesture under way, its pointer within reach: either
the gesture has the rectangle already that it is to have and the signal is
ignored, or the panel is moved there, and the rectangle fits. -/
theorem answer_continues {x : GestureSignal} {columns : UInt32} (hactive : m.active = some g)
    (h : x.Continues g.pointerId columns) (reach : ¬ x.Overreaches g) (wide : 1 ≤ columns) :
    ∃ a m', m.answer x = some (a, m') ∧
      ((a.isIgnored = true ∧ x.aim g g.last = g.last) ∨
        (a.change = some ⟨g.panel, x.aim g g.last⟩ ∧ g.last ≠ x.aim g g.last ∧
          (x.aim g g.last).fits columns = true ∧
          m'.active = some { g with last := x.aim g g.last })) := by
  cases x with
  | move pointerId position metrics =>
      have hcolumns : metrics.columns = columns := h
      by_cases hown : pointerId = g.pointerId
      · subst hown
        have hsums : ¬ (Overflows (g.kind.across g.start) (metrics.cellsBetween g.origin position).1
            ∨ Overflows (g.kind.down g.start) (metrics.cellsBetween g.origin position).2) :=
          fun hover => reach ⟨rfl, hover⟩
        show ∃ a m', m.pointerMove _ _ _ = _ ∧ _
        rw [pointerMove_of_own hactive, candidateRect_eq, if_neg hsums, Option.bind_some,
          GestureSignal.aim, if_pos rfl]
        split
        next hsame => exact ⟨_, _, rfl, Or.inl ⟨rfl, hsame⟩⟩
        next hnew =>
          refine ⟨_, _, rfl, Or.inr ⟨rfl, Ne.symm hnew, ?_, rfl⟩⟩
          rw [hcolumns]
          exact fits_exactRect _ _ _ _ wide
      · have hforeign : ∀ g', m.active = some g' → g'.pointerId ≠ pointerId := by
          intro g' hactive' hid
          rw [hactive] at hactive'
          cases hactive'
          exact hown hid.symm
        obtain ⟨a, hanswer, hignored, -⟩ := pointerMove_of_foreign hforeign position metrics
        exact ⟨a, m, hanswer, Or.inl ⟨hignored, if_neg hown⟩⟩
  | down target kind pointerId position editing =>
      exact ⟨_, _, rfl, Or.inl ⟨pointerDown_of_active hactive _ _ _ _ _, rfl⟩⟩
  | up pointerId =>
      have hforeign : g.pointerId ≠ pointerId := Ne.symm h
      refine ⟨(m.pointerUp pointerId).1, (m.pointerUp pointerId).2, rfl, Or.inl ⟨?_, rfl⟩⟩
      unfold pointerUp
      rw [hactive]
      dsimp only
      rw [if_pos hforeign]
      rfl
  | escape => exact h.elim
  | cancel reason => exact h.elim

theorem revert_of_active (hactive : m.active = some g) (phase : GesturePhase)
    (reason : CancelReason) : (m.revert phase reason).2.active = none ∧
      (m.revert phase reason).1.change =
        if g.last = g.start then none else some ⟨g.panel, g.start⟩ := by
  unfold revert
  rw [hactive]
  exact ⟨rfl, rfl⟩

/-- An ending leaves no gesture, and restores the first rectangle where the
panel has another one and is not to keep it. -/
theorem answer_ends {x : GestureSignal} (hactive : m.active = some g) (h : x.Ends g.pointerId) :
    ∃ a m', m.answer x = some (a, m') ∧ m'.active = none ∧ a.change =
      if x.keeps then none else if g.last = g.start then none else some ⟨g.panel, g.start⟩ := by
  cases x with
  | move pointerId position metrics => exact h.elim
  | down target kind pointerId position editing => exact h.elim
  | up pointerId =>
      have hown : ¬ g.pointerId ≠ pointerId := fun hne => hne (Eq.symm h)
      refine ⟨(m.pointerUp pointerId).1, (m.pointerUp pointerId).2, rfl, ?_⟩
      unfold pointerUp
      rw [hactive]
      dsimp only
      rw [if_neg hown]
      exact ⟨rfl, rfl⟩
  | escape => exact ⟨_, _, rfl, revert_of_active hactive .escape .escapeKey⟩
  | cancel reason => exact ⟨_, _, rfl, revert_of_active hactive .cancel reason⟩

end GestureMachine

end Dashboard.Grid
