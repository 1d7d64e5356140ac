/-
  Dashboard.Proofs.Session.Gesture
  ────────────────────────────────
  **A GESTURE AND THE SESSION AGREE.**

  Two machines follow one panel.  The gesture machine clamps its candidates
  and emits those that are new; the session clamps what it is given and stores
  what is not there yet.  Each change that the one emits is passed on to the
  other, while pointers of all kinds move, go down and go up, the container
  changes its size and the storage fails as it likes.

  The relation between the two is that the panel's stored frame is the last
  rectangle of the gesture, and that this is where the pointer took the panel.
  It holds from the accepted start on, each signal keeps it that does not end
  the gesture, and each ending leaves the frame that it should.  A run goes on
  as long as the pointer stays within the reach of the machine's sums.

  Main results:
    InStep.dispatch     — what one signal preserves
    InStep.run          — what a run of signals preserves
    gesture_and_session_agree — the whole gesture
-/
import Dashboard.Proofs.Grid.Gesture
import Dashboard.Proofs.Session.Frames
import Mathlib.Data.List.Chain

namespace Dashboard

open Grid Time

/-! ## §1. The two machines. -/

/-- A change that was passed on: what the session answered, and the frame that
was stored then. -/
structure AppliedChange where
  change : FrameChange
  answer : Except SessionError Rect
  stored : Option Rect

/-- The session stored the rectangle that was emitted for a panel. -/
structure AppliedChange.Exact (id : String) (e : AppliedChange) : Prop where
  panel : e.change.panel = id
  answer : e.answer = .ok e.change.rect
  stored : e.stored = some e.change.rect

/-- A signal, the time at which it comes, and the calls of the backend that
fail then. -/
structure Dispatch where
  signal : GestureSignal
  now : Instant
  faults : StorageFaults

/-- The two machines, and the changes that were passed from one to the other,
oldest first. -/
structure Desk where
  machine : GestureMachine
  session : Session
  applied : List AppliedChange

namespace Desk

/-- Take a signal, and pass on the change that it makes.  None where the
program stops. -/
def dispatch (d : Desk) (x : Dispatch) : Option Desk := do
  let (answer, machine) ← d.machine.answer x.signal
  match answer.change with
  | none => return { d with machine }
  | some c =>
    let (r, session) := (d.session.during x.faults).applyFrameChange x.now c
    return ⟨machine, session, d.applied ++ [⟨c, r, session.frame? c.panel⟩]⟩

/-- Take signals one after the other. -/
def run (d : Desk) (xs : List Dispatch) : Option Desk := xs.foldlM dispatch d

/-- The rectangles that were emitted. -/
def rects (d : Desk) : List Rect := d.applied.map (·.change.rect)

/-- The rectangle that was emitted last; the given one if none was. -/
def lastRect (d : Desk) (start : Rect) : Rect := d.rects.getLast?.getD start

variable {d : Desk} {x : Dispatch} {a : GestureAnswer} {machine : GestureMachine}

theorem dispatch_of_quiet (hanswer : d.machine.answer x.signal = some (a, machine))
    (quiet : a.change = none) : d.dispatch x = some { d with machine } := by
  unfold dispatch
  rw [hanswer]
  simp only [Option.bind_eq_bind, Option.bind_some, quiet, Option.pure_def]

theorem dispatch_of_change (hanswer : d.machine.answer x.signal = some (a, machine))
    {c : FrameChange} (change : a.change = some c) {r : Except SessionError Rect}
    {session : Session}
    (applied : (d.session.during x.faults).applyFrameChange x.now c = (r, session)) :
    d.dispatch x = some ⟨machine, session, d.applied ++ [⟨c, r, session.frame? c.panel⟩]⟩ := by
  unfold dispatch
  rw [hanswer]
  simp only [Option.bind_eq_bind, Option.bind_some, change, applied, Option.pure_def]

/-- The last rectangle, after one more change. -/
theorem lastRect_append (machine : GestureMachine) (session : Session) (e : AppliedChange)
    (start : Rect) :
    (Desk.mk machine session (d.applied ++ [e])).lastRect start = e.change.rect := by
  rw [lastRect, rects, List.map_append, List.map_singleton, List.getLast?_concat]
  rfl

/-- What is ignored leaves everything as it was. -/
theorem dispatch_of_ignored (hanswer : d.machine.answer x.signal = some (a, machine))
    (h : a.isIgnored = true) : d.dispatch x = some d := by
  obtain ⟨hquiet, rfl⟩ := GestureMachine.answer_of_ignored hanswer h
  exact dispatch_of_quiet hanswer hquiet

end Desk

/-! ## §2. In step. -/

/-- A gesture is under way with a rectangle, and that is the panel's stored
frame. -/
structure Desk.InStep (g : ActiveGesture) (columns : UInt32) (last : Rect) (d : Desk) : Prop where
  active : d.machine.active = some { g with last := last }
  emitted : d.lastRect g.start = last
  panel : d.session.PanelAt g.panel columns last
  exact : ∀ e ∈ d.applied, e.Exact g.panel
  changing : (g.start :: d.rects).IsChain (· ≠ ·)

namespace Desk

variable {g : ActiveGesture} {columns : UInt32} {last r : Rect} {d : Desk} {x : Dispatch}
  {a : GestureAnswer} {machine : GestureMachine}

/-- What passing on a change does that is new and fits the grid: it is stored
as it is. -/
theorem InStep.pass (h : d.InStep g columns last) (hlast : columns < maxCells)
    (fits : r.fits columns = true) (new : last ≠ r)
    (hanswer : d.machine.answer x.signal = some (a, machine))
    (change : a.change = some ⟨g.panel, r⟩) :
    ∃ d', d.dispatch x = some d' ∧ d'.machine = machine ∧ d'.lastRect g.start = r ∧
      d'.session.PanelAt g.panel columns r ∧ (∀ e ∈ d'.applied, e.Exact g.panel) ∧
      (g.start :: d'.rects).IsChain (· ≠ ·) := by
  obtain ⟨session, happly, hpanel⟩ :=
    (h.panel.during x.faults).setPanelFrame (Rect.clamped_of_fits fits hlast) x.now
  have happly : (d.session.during x.faults).applyFrameChange x.now ⟨g.panel, r⟩
      = (.ok r, session) := happly
  refine ⟨_, dispatch_of_change hanswer change happly, rfl, lastRect_append _ _ _ _, hpanel,
    ?_, ?_⟩
  · intro e he
    rcases List.mem_append.mp he with he | he
    · exact h.exact e he
    · rw [List.mem_singleton.mp he]
      exact ⟨rfl, rfl, hpanel.frame?⟩
  · show (g.start :: (d.applied ++ [_]).map _).IsChain (· ≠ ·)
    rw [List.map_append, List.map_singleton, ← List.cons_append]
    refine List.isChain_append.mpr ⟨h.changing, .singleton _, ?_⟩
    intro previous hprevious first hfirst
    -- the rectangle before is the last one, or the one at the start
    rw [List.getLast?_cons] at hprevious
    cases hprevious
    cases hfirst
    rw [← h.emitted] at new
    exact new

/-- **What one signal preserves** that leaves the gesture under way and its
pointer within reach. -/
theorem InStep.dispatch (h : d.InStep g columns last) (wide : 1 ≤ columns)
    (hlast : columns < maxCells) (continues : x.signal.Continues g.pointerId columns)
    (reach : ¬ x.signal.Overreaches g) :
    ∃ d', d.dispatch x = some d' ∧ d'.InStep g columns (x.signal.aim g last) := by
  -- a signal says the same of a gesture, whatever its last rectangle is
  have hreach : ¬ x.signal.Overreaches { g with last := last } := by
    cases hx : x.signal <;> rw [hx] at reach <;> exact reach
  have haim : x.signal.aim { g with last := last } last = x.signal.aim g last := by
    cases x.signal <;> rfl
  obtain ⟨a, machine, hanswer, ⟨hignored, hsame⟩ | ⟨hchange, hnew, hfits, hactive⟩⟩ :=
    GestureMachine.answer_continues h.active continues hreach wide
  · rw [haim] at hsame
    rw [hsame]
    exact ⟨d, dispatch_of_ignored hanswer hignored, h⟩
  · rw [haim] at hchange hnew hfits hactive
    obtain ⟨d', hd', rfl, hemitted, hpanel, hexact, hchain⟩ :=
      h.pass hlast hfits hnew hanswer hchange
    exact ⟨d', hd', hactive, hemitted, hpanel, hexact, hchain⟩

/-- **What a run of signals preserves.** -/
theorem InStep.run {xs : List Dispatch} (h : d.InStep g columns last) (wide : 1 ≤ columns)
    (hlast : columns < maxCells)
    (going : ∀ x ∈ xs, x.signal.Continues g.pointerId columns ∧ ¬ x.signal.Overreaches g) :
    ∃ d', d.run xs = some d' ∧
      d'.InStep g columns ((xs.map (·.signal)).foldl (GestureSignal.aim g) last) := by
  induction xs generalizing d last with
  | nil => exact ⟨d, rfl, h⟩
  | cons x rest ih =>
      obtain ⟨hcontinues, hreach⟩ := going x List.mem_cons_self
      obtain ⟨d', hd', hx⟩ := h.dispatch wide hlast hcontinues hreach
      obtain ⟨d'', hrest, hheld⟩ := ih hx fun y hy => going y (List.mem_cons_of_mem x hy)
      refine ⟨d'', ?_, hheld⟩
      rw [Desk.run, List.foldlM_cons, hd']
      exact hrest

/-- What an ending leaves behind. -/
theorem InStep.ending (h : d.InStep g columns last) (hlast : columns < maxCells)
    (fits : g.start.fits columns = true) (ends : x.signal.Ends g.pointerId) :
    ∃ d', d.dispatch x = some d' ∧ d'.machine.active = none ∧
      d'.session.frame? g.panel = some (if x.signal.keeps then last else g.start) ∧
      (∀ e ∈ d'.applied, e.Exact g.panel) ∧ (g.start :: d'.rects).IsChain (· ≠ ·) := by
  obtain ⟨a, machine, hanswer, hnone, hchange⟩ := GestureMachine.answer_ends h.active ends
  by_cases hkeeps : x.signal.keeps = true
  · rw [if_pos hkeeps] at hchange
    rw [if_pos hkeeps]
    exact ⟨_, dispatch_of_quiet hanswer hchange, hnone, h.panel.frame?, h.exact, h.changing⟩
  · rw [if_neg hkeeps] at hchange
    rw [if_neg hkeeps]
    by_cases hsame : last = g.start
    · -- the panel is where it was, so there is nothing to restore
      rw [if_pos hsame] at hchange
      exact ⟨_, dispatch_of_quiet hanswer hchange, hnone, hsame ▸ h.panel.frame?, h.exact,
        h.changing⟩
    · rw [if_neg hsame] at hchange
      obtain ⟨d', hd', hmachine, -, hpanel, hexact, hchain⟩ :=
        h.pass hlast fits hsame hanswer hchange
      exact ⟨d', hd', by rw [hmachine, hnone], hpanel.frame?, hexact, hchain⟩

/-- An accepted start on a panel's own rectangle. -/
theorem inStep_dispatch {m : GestureMachine} {s : Session} {target : GestureTarget}
    {kind : GestureKind} {pointer : UInt32} {position : Pointer} {editing : Bool}
    (accepted : (m.pointerDown target kind pointer position editing).1.isIgnored = false)
    (panel : s.PanelAt target.panel columns target.rect) (now : Instant)
    (faults : StorageFaults) :
    ∃ d, (Desk.mk m s []).dispatch ⟨.down target kind pointer position editing, now, faults⟩
        = some d ∧
      d.InStep ⟨pointer, target.panel, kind, position, target.rect, target.rect⟩ columns
        target.rect := by
  obtain ⟨hquiet, hactive⟩ := GestureMachine.pointerDown_begins accepted
  have hdispatch := dispatch_of_quiet (d := ⟨m, s, []⟩)
    (x := ⟨.down target kind pointer position editing, now, faults⟩) rfl hquiet
  exact ⟨_, hdispatch, hactive, rfl, panel, nofun, .singleton _⟩

end Desk

/-! ## §3. The whole gesture. -/

/-- **A gesture and the session agree.**  A gesture is accepted on an unlocked
panel at its stored rectangle, which fits the page's columns; signals follow
that leave it under way and its pointer within reach, and one that ends it.
None of them stops the program.  Before the ending, the machine's last rectangle
is where the pointer was last, it is the last one emitted, and it is the stored
frame; the ending leaves that one or the first, as it should.  Each change that
was passed on was stored as it is, none repeats the one before it, and what the
machine ignores changes nothing. -/
theorem gesture_and_session_agree {s : Session} {page : Page} {p : Panel} {id : String} {r : Rect}
    (edited : s.editedPage = .ok page) (found : page.panel? id = some p)
    (unlocked : p.locked = false) (framed : p.frame.grid = some r)
    (fits : r.fits (page.layout.specOr s.settings.grid).columns = true)
    (bounded : (page.layout.specOr s.settings.grid).columns < maxCells)
    {m : GestureMachine} {kind : GestureKind} {pointer : UInt32} {position : Pointer}
    {locked editing : Bool}
    (accepted : (m.pointerDown ⟨id, r, locked⟩ kind pointer position editing).1.isIgnored = false)
    (now : Instant) (faults : StorageFaults) {going : List Dispatch}
    (continues : ∀ x ∈ going,
      x.signal.Continues pointer (page.layout.specOr s.settings.grid).columns)
    (reach : ∀ x ∈ going, ¬ x.signal.Overreaches ⟨pointer, id, kind, position, r, r⟩)
    {ending : Dispatch} (ends : ending.signal.Ends pointer) :
    let start : Dispatch := ⟨.down ⟨id, r, locked⟩ kind pointer position editing, now, faults⟩
    let last := (going.map (·.signal)).foldl
      (GestureSignal.aim ⟨pointer, id, kind, position, r, r⟩) r
    ∃ held ended, ((Desk.mk m s []).dispatch start).bind (·.run going) = some held ∧
      held.dispatch ending = some ended ∧
      (held.machine.active = some ⟨pointer, id, kind, position, r, last⟩ ∧
        held.lastRect r = last ∧ held.session.frame? id = some last) ∧
      ended.machine.active = none ∧
      ended.session.frame? id = some (if ending.signal.keeps then last else r) ∧
      (∀ e ∈ ended.applied, e.Exact id) ∧
      (r :: ended.rects).IsChain (· ≠ ·) ∧
      ∀ (d : Desk) x a machine, d.machine.answer x.signal = some (a, machine) →
        a.isIgnored = true → d.dispatch x = some d := by
  intro start last
  have hwide : 1 ≤ (page.layout.specOr s.settings.grid).columns := by
    have hone : (1 : UInt32).toNat = 1 := rfl
    have hmost : maxCells.toNat = 0xFFFFFFFF := rfl
    obtain ⟨hw, -, hright⟩ := (Rect.fits_iff r _).mp fits
    rw [UInt32.lt_iff_toNat_lt, hmost] at bounded
    rw [UInt32.le_iff_toNat_le, hone]
    omega
  have hpanel : s.PanelAt id (page.layout.specOr s.settings.grid).columns r :=
    ⟨page, p, edited, found, unlocked, framed, rfl⟩
  obtain ⟨begun, hbegun, hstart⟩ := Desk.inStep_dispatch accepted hpanel now faults
  obtain ⟨held, hrun, hheld⟩ := hstart.run hwide bounded fun x hx => ⟨continues x hx, reach x hx⟩
  obtain ⟨ended, hended, hnone, hframe, hexact, hchain⟩ := hheld.ending bounded fits ends
  refine ⟨held, ended, ?_, hended, ⟨hheld.active, hheld.emitted, hheld.panel.frame?⟩, hnone,
    hframe, hexact, hchain, fun d x a machine => Desk.dispatch_of_ignored⟩
  rw [hbegun]
  exact hrun

/-- A page with a single panel. -/
def slatePage : Page :=
  (Page.fresh "a" "A").withPanels [.fresh ⟨0⟩ "p" "quick-nav" ⟨0, 0, 4, 1⟩]

/-- A desk on which it is edited. -/
def slateDesk : Session :=
  { store := .ofBackend .inMemory, registry := .builtin, settings := .standard, committed := none
    draft := some ⟨"desk", "Desk", [slatePage], "a", "0", "0", schemaVersion⟩
    source := .draft, mode := .edit, history := .empty standardHistoryLimit
    activePageId := none, focus := false, filters := .none, warnings := [] }

/-- The grid in a container of twelve hundred pixels. -/
def slateMetrics : Metrics := .ofSpec .standard 1200

/-- The pointer that holds the panel moves while the storage is full, and
another one goes down. -/
def slateMoves : List Dispatch :=
  [⟨.move 1 ⟨250, 90⟩ slateMetrics, ⟨2000⟩, fun _ _ => some (.unavailable "quota exceeded")⟩,
    ⟨.down ⟨"p", ⟨0, 0, 4, 1⟩, false⟩ .resize 2 ⟨9, 9⟩ true, ⟨3000⟩, .none⟩]

/-- From the corner of the grid no pointer is out of reach: the panel is as many
columns and rows from it as the pixels come to, and no farther right than its
width allows.  The escape key puts it back. -/
theorem slateDesk_agrees :
    let cells := slateMetrics.cellsBetween ⟨0, 0⟩ ⟨250, 90⟩
    let moved : Rect := ⟨cappedCell (held cells.1.toInt 0 8), cappedCell (max cells.2.toInt 0), 4, 1⟩
    ∃ held ended, ((Desk.mk .idle slateDesk []).dispatch
          ⟨.down ⟨"p", ⟨0, 0, 4, 1⟩, false⟩ .drag 1 ⟨0, 0⟩ true, ⟨1000⟩, .none⟩).bind
            (·.run slateMoves) = some held ∧
      held.dispatch ⟨.escape, ⟨4000⟩, .none⟩ = some ended ∧
      (held.machine.active = some ⟨1, "p", .drag, ⟨0, 0⟩, ⟨0, 0, 4, 1⟩, moved⟩ ∧
        held.lastRect ⟨0, 0, 4, 1⟩ = moved ∧ held.session.frame? "p" = some moved) ∧
      ended.session.frame? "p" = some ⟨0, 0, 4, 1⟩ := by
  intro cells moved
  have hedited : slateDesk.editedPage = .ok slatePage := rfl
  have hfound : slatePage.panel? "p" = some (.fresh ⟨0⟩ "p" "quick-nav" ⟨0, 0, 4, 1⟩) := rfl
  have haccepted : (GestureMachine.idle.pointerDown ⟨"p", ⟨0, 0, 4, 1⟩, false⟩ .drag 1 ⟨0, 0⟩
      true).1.isIgnored = false := rfl
  have hcontinues : ∀ x ∈ slateMoves, x.signal.Continues 1
      (slatePage.layout.specOr slateDesk.settings.grid).columns := by
    intro x hx
    rcases List.mem_pair.mp hx with rfl | rfl
    · rfl
    · trivial
  have hreach : ∀ x ∈ slateMoves,
      ¬ x.signal.Overreaches ⟨1, "p", .drag, ⟨0, 0⟩, ⟨0, 0, 4, 1⟩, ⟨0, 0, 4, 1⟩⟩ := by
    intro x hx
    rcases List.mem_pair.mp hx with rfl | rfl
    · rintro ⟨-, hover | hover⟩
      · exact not_overflows_zero _ hover
      · exact not_overflows_zero _ hover
    · exact id
  have hends : (Dispatch.mk .escape ⟨4000⟩ .none).signal.Ends 1 := trivial
  have hmoved : (slateMoves.map (·.signal)).foldl
      (GestureSignal.aim ⟨1, "p", .drag, ⟨0, 0⟩, ⟨0, 0, 4, 1⟩, ⟨0, 0, 4, 1⟩⟩) ⟨0, 0, 4, 1⟩
        = moved := by
    have hcells : exactRect .drag ⟨0, 0, 4, 1⟩ cells.1.toInt cells.2.toInt 12 = moved := by
      have hzero : ((0 : UInt32).toNat : Int) = 0 := rfl
      rw [exactRect, GestureKind.across, GestureKind.down, hzero, Int.zero_add, Int.zero_add]
      rfl
    exact hcells
  obtain ⟨held, ended, hheld, hended, hlast, -, hframe, -⟩ := gesture_and_session_agree hedited
    hfound rfl rfl (by decide) (by decide) haccepted ⟨1000⟩ .none hcontinues hreach hends
  rw [hmoved] at hlast
  exact ⟨held, ended, hheld, hended, hlast, hframe⟩

end Dashboard
