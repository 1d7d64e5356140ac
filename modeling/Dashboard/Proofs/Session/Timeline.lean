/-
  Dashboard.Proofs.Session.Timeline
  ─────────────────────────────────
  **UNDO AND REDO WALK THE TIMELINE OF THE DRAFTS.**

  The history of a session and its draft are a timeline of drafts and a place
  on it.  `Stands` ties a session to its timeline; an edit, an undo and a redo
  each have one theorem on that side, and what any number of calls does is
  read off there.

  None of this depends on whether the drafts could be written to their slot.
  Where the writes succeed, the slot follows.

  Main results:
    Stands.edited, Stands.undo, Stands.redo — one call
    edits_stands, Stands.undos, Stands.redos — many calls
    undo_redo_walk_timeline — drafts, bounds and slot together
    first_undo_writes_nothing — why the slot needs a first edit
-/
import Dashboard.Proofs.History
import Dashboard.Proofs.Session.Lifetime
import Dashboard.Proofs.Storage.Media

namespace Dashboard

open Time

namespace Session

variable {s s' : Session} {m place : Nat} {timeline : List Workspace}

/-! ## §1. Where a session stands. -/

/-- An editing session that stands at a place of a timeline of drafts, which
has room for the current one and `m` others. -/
structure Stands (m : Nat) (timeline : List Workspace) (place : Nat) (s : Session) : Prop where
  mode : s.mode = .edit
  drafts : ∃ w, s.draft = some w ∧ s.history.line w = timeline
  place : s.history.undoDepth = place
  limit : s.history.limit = m
  bound : timeline.length ≤ m + 1

namespace Stands

/-- Only the draft, the history and the mode count. -/
theorem same (h : s.Stands m timeline place) (hmode : s'.mode = s.mode)
    (hdraft : s'.draft = s.draft) (hhistory : s'.history = s.history) :
    s'.Stands m timeline place := by
  obtain ⟨w, hw, hline⟩ := h.drafts
  exact ⟨hmode.trans h.mode, ⟨w, hdraft.trans hw, hhistory ▸ hline⟩, hhistory ▸ h.place,
    hhistory ▸ h.limit, h.bound⟩

/-- Which storage calls will fail is no part of where a session stands. -/
theorem during (h : s.Stands m timeline place) (faults : StorageFaults) :
    (s.during faults).Stands m timeline place := h.same rfl rfl rfl

/-- Storing the draft leaves where the session stands. -/
theorem flushDraft (h : s.Stands m timeline place) : s.flushDraft.Stands m timeline place := by
  obtain ⟨b, warnings, hflush⟩ := flushDraft_backend s
  rw [hflush]
  exact h.same rfl rfl rfl

/-- The timeline is what can be undone, what is shown and what can be redone. -/
theorem length (h : s.Stands m timeline place) :
    timeline.length = s.history.undoDepth + s.history.redoDepth + 1 := by
  obtain ⟨w, -, rfl⟩ := h.drafts
  exact s.history.line_length w

theorem depths (h : s.Stands m timeline place) :
    s.history.undoDepth + s.history.redoDepth ≤ m := by
  have hlen := h.length
  have hbound := h.bound
  omega

/-- The draft is the one at the place. -/
theorem draft (h : s.Stands m timeline place) : s.draft = timeline[place]? := by
  obtain ⟨w, hw, rfl⟩ := h.drafts
  rw [hw, ← h.place, s.history.line_current w]

/-- The draft that is shown is the one at this place. -/
theorem editedDraft (h : s.Stands m timeline place) : ∃ w, s.editedDraft = .ok w ∧
    s.history.line w = timeline := by
  obtain ⟨w, hw, hline⟩ := h.drafts
  exact ⟨w, editedDraft_of_draft h.mode hw, hline⟩

/-! ## §2. One call. -/

/-- At the beginning there is nothing to undo. -/
theorem undo_first (h : s.Stands m timeline 0) : s.undo = (.ok false, s) := by
  obtain ⟨w, hw, -⟩ := h.editedDraft
  unfold Session.undo travel
  rw [hw]
  dsimp only
  rw [History.undo_eq_none h.place]

/-- An undo goes one place back. -/
theorem undo (h : s.Stands m timeline (place + 1)) :
    ∃ s', s.undo = (.ok true, s') ∧ s'.Stands m timeline place := by
  obtain ⟨w, hw, hline⟩ := h.editedDraft
  have hdepth : s.history.undoDepth ≠ 0 := by
    rw [h.place]
    exact Nat.succ_ne_zero place
  obtain ⟨v, history, hundo, hsame, hplace, hlimit⟩ := History.line_undo w hdepth
  refine ⟨({ s with draft := some v, history } : Session).flushDraft, ?_, ?_⟩
  · unfold Session.undo travel
    rw [hw]
    dsimp only
    rw [hundo]
  · refine Stands.flushDraft
      ⟨h.mode, ⟨v, rfl, hsame.trans hline⟩, ?_, hlimit.trans h.limit, h.bound⟩
    have hold := h.place
    show history.undoDepth = place
    omega

/-- At the end there is nothing to redo. -/
theorem redo_last (h : s.Stands m timeline place) (hlast : place + 1 = timeline.length) :
    s.redo = (.ok false, s) := by
  obtain ⟨w, hw, -⟩ := h.editedDraft
  have hdepth : s.history.redoDepth = 0 := by
    have hlen := h.length
    have hplace := h.place
    omega
  unfold Session.redo travel
  rw [hw]
  dsimp only
  rw [History.redo_eq_none hdepth]

/-- A redo loses none of the past. -/
theorem redo (h : s.Stands m timeline place) (hmore : place + 1 < timeline.length) :
    ∃ s', s.redo = (.ok true, s') ∧ s'.Stands m timeline (place + 1) ∧
      s'.history.past = s.draft.toList ++ s.history.past := by
  obtain ⟨w, hw, hline⟩ := h.editedDraft
  have hlen := h.length
  have hplace := h.place
  have hdepth : s.history.redoDepth ≠ 0 := by omega
  have hfits : s.history.undoDepth + s.history.redoDepth ≤ s.history.limit := by
    rw [h.limit]
    exact h.depths
  obtain ⟨v, history, hredo, hsame, hpast, hlimit⟩ := History.line_redo w hdepth hfits
  have hplace' : history.undoDepth = s.history.undoDepth + 1 := congrArg List.length hpast
  obtain ⟨b, warnings, hflush⟩ :=
    flushDraft_backend ({ s with draft := some v, history } : Session)
  refine ⟨({ s with draft := some v, history } : Session).flushDraft, ?_, ?_, ?_⟩
  · unfold Session.redo travel
    rw [hw]
    dsimp only
    rw [hredo]
  · refine Stands.flushDraft
      ⟨h.mode, ⟨v, rfl, hsame.trans hline⟩, ?_, hlimit.trans h.limit, h.bound⟩
    show history.undoDepth = place + 1
    omega
  · rw [hflush, (editedDraft_eq_ok hw).2]
    exact hpast

end Stands

/-- An edit of the draft that succeeds, by whatever changes it. -/
inductive Changes (s : Session) : Session → Prop
  | edited {α : Type} {now : Instant} {edit : Workspace → Except SessionError (α × Workspace)}
      {a : α} {s' : Session} (h : s.editDraft now edit = (.ok a, s')) : Changes s s'

/-- A change remembers the draft before it. -/
theorem Changes.cases (h : s.Changes s') : ∃ before after, s.editedDraft = .ok before ∧
    s' = ({ s with
      history := s.history.push before, draft := some after } : Session).flushDraft := by
  cases h with
  | edited hedit =>
      unfold editDraft at hedit
      split at hedit
      next => cases hedit
      next before hbefore =>
        split at hedit
        next => cases hedit
        next after _ =>
          cases hedit
          exact ⟨before, _, hbefore, rfl⟩

/-- An edit cuts the timeline behind the place and appends the new draft; at most
the last `m + 1` drafts are kept. -/
theorem Stands.edited (h : s.Stands m timeline place) (hchanges : s.Changes s') :
    ∃ w, s'.draft = some w ∧
      s'.Stands m ((timeline.take (place + 1) ++ [w]).rtake (m + 1)) (min (place + 1) m) := by
  obtain ⟨before, after, hbefore, rfl⟩ := hchanges.cases
  obtain ⟨w, hw, hline⟩ := h.editedDraft
  cases hbefore.symm.trans hw
  refine ⟨after, flushDraft_draft _, Stands.flushDraft ⟨h.mode, ⟨after, rfl, ?_⟩, ?_, h.limit, ?_⟩⟩
  · show (s.history.push before).line after = _
    rw [History.line_push, hline, h.place, h.limit]
  · show (s.history.push before).undoDepth = _
    rw [History.undoDepth_push, h.place, h.limit]
  · simp only [List.rtake, List.length_drop]
    omega

/-! ## §3. Many calls. -/

/-- A run of edits, one draft after the other: the session stands at the end of
the last of them. -/
theorem edits_stands {k : Nat} {t : Nat → Session} {d : Nat → Workspace}
    (hstart : (t 0).Stands m [d 0] 0)
    (hedits : ∀ i < k, ∃ faults, ((t i).during faults).Changes (t (i + 1)))
    (hdrafts : ∀ i ≤ k, (t i).draft = some (d i)) :
    (t k).Stands m (((List.range (k + 1)).map d).rtake (m + 1)) (min k m) := by
  induction k with
  | zero =>
      have hline : ((List.range 1).map d).rtake (m + 1) = [d 0] := by
        simp [List.rtake]
      rw [hline, Nat.zero_min]
      exact hstart
  | succ k ih =>
      obtain ⟨faults, hchanges⟩ := hedits k (Nat.lt_succ_self k)
      have hold := ih (fun i hi => hedits i (by omega)) (fun i hi => hdrafts i (by omega))
      obtain ⟨w, hw, hstands⟩ := (hold.during faults).edited hchanges
      -- the new draft is the next one of the run
      cases hw.symm.trans (hdrafts (k + 1) (Nat.le_refl _))
      have hlen : (((List.range (k + 1)).map d).rtake (m + 1)).length ≤ min k m + 1 := by
        simp only [List.rtake, List.length_drop, List.length_map, List.length_range]
        omega
      have hline : ((((List.range (k + 1)).map d).rtake (m + 1)).take (min k m + 1)
          ++ [d (k + 1)]).rtake (m + 1) = ((List.range (k + 1 + 1)).map d).rtake (m + 1) := by
        have hrange : (List.range (k + 1 + 1)).map d
            = (List.range (k + 1)).map d ++ [d (k + 1)] := by
          rw [List.range_succ, List.map_append, List.map_singleton]
        rw [List.take_of_length_le hlen, History.rtake_concat_rtake, hrange]
      have hplace : min (min k m + 1) m = min (k + 1) m := by omega
      rw [hline, hplace] at hstands
      exact hstands

/-- A number of calls of one kind in a row, each while the backend fails as it
may. -/
def repeated (call : Session → SessionResult Bool) (faults : Nat → StorageFaults) (s : Session) :
    Nat → Session
  | 0 => s
  | n + 1 => (call ((repeated call faults s n).during (faults n))).2

/-- The answer of the call after so many of them. -/
def answer (call : Session → SessionResult Bool) (faults : Nat → StorageFaults) (s : Session)
    (n : Nat) : Except SessionError Bool :=
  (call ((repeated call faults s n).during (faults n))).1

/-- Undo by undo the session goes back along its timeline. -/
theorem Stands.undos (h : s.Stands m timeline place) (faults : Nat → StorageFaults) {j : Nat}
    (hj : j ≤ place) : (repeated Session.undo faults s j).Stands m timeline (place - j) := by
  induction j with
  | zero => exact h
  | succ j ih =>
      have hnext : (repeated Session.undo faults s j).Stands m timeline (place - (j + 1) + 1) := by
        have hplace : place - (j + 1) + 1 = place - j := by omega
        rw [hplace]
        exact ih (by omega)
      obtain ⟨s', hundo, hstands⟩ := (hnext.during (faults j)).undo
      show (Session.undo _).2.Stands m timeline (place - (j + 1))
      rw [hundo]
      exact hstands

theorem Stands.undo_answers (h : s.Stands m timeline place) (faults : Nat → StorageFaults)
    {j : Nat} (hj : j ≤ place) : answer Session.undo faults s j = .ok (decide (j < place)) := by
  have hstands := (h.undos faults hj).during (faults j)
  unfold answer
  by_cases hlt : j < place
  · obtain ⟨n, hn⟩ : ∃ n, place - j = n + 1 := ⟨place - j - 1, by omega⟩
    rw [hn] at hstands
    obtain ⟨s', hundo, -⟩ := hstands.undo
    rw [hundo, decide_eq_true hlt]
  · have hn : place - j = 0 := by omega
    rw [hn] at hstands
    rw [hstands.undo_first, decide_eq_false hlt]

/-- Redo by redo it goes forth. -/
theorem Stands.redos (h : s.Stands m timeline place) (faults : Nat → StorageFaults) {j : Nat}
    (hj : place + j < timeline.length) :
    (repeated Session.redo faults s j).Stands m timeline (place + j) := by
  induction j with
  | zero => exact h
  | succ j ih =>
      have hnext := (ih (by omega)).during (faults j)
      obtain ⟨s', hredo, hstands, -⟩ := hnext.redo (by omega)
      show (Session.redo _).2.Stands m timeline (place + (j + 1))
      rw [hredo]
      exact hstands

theorem Stands.redo_answers (h : s.Stands m timeline place) (faults : Nat → StorageFaults)
    {j : Nat} (hj : place + j < timeline.length) :
    answer Session.redo faults s j = .ok (decide (place + j + 1 < timeline.length)) := by
  have hstands := (h.redos faults hj).during (faults j)
  unfold answer
  by_cases hlt : place + j + 1 < timeline.length
  · obtain ⟨s', hredo, -⟩ := hstands.redo hlt
    rw [hredo, decide_eq_true hlt]
  · rw [hstands.redo_last (by omega), decide_eq_false hlt]

/-- Any of the calls, whatever its answer. -/
inductive Call (s : Session) : Session → Prop
  | edit {α : Type} (now : Instant) (edit : Workspace → Except SessionError (α × Workspace)) :
      Call s (s.editDraft now edit).2
  | undo : Call s s.undo.2
  | redo : Call s s.redo.2

/-- A call that did something: an edit that succeeded, an undo or a redo that
had somewhere to go. -/
inductive Moves (s : Session) : Session → Prop
  | edited {s' : Session} (h : s.Changes s') : Moves s s'
  | undone {s' : Session} (h : s.undo = (.ok true, s')) : Moves s s'
  | redone {s' : Session} (h : s.redo = (.ok true, s')) : Moves s s'

/-- A move along the history that has nowhere to go changes nothing. -/
theorem travel_cases (s : Session)
    (move : History Workspace → Workspace → Option (Workspace × History Workspace)) :
    ((s.travel move).1 ≠ .ok true ∧ (s.travel move).2 = s) ∨ ∃ w history, s.travel move
      = (.ok true, ({ s with draft := some w, history } : Session).flushDraft) := by
  unfold travel
  split
  next => exact Or.inl ⟨nofun, rfl⟩
  next =>
    split
    next => exact Or.inl ⟨nofun, rfl⟩
    next w history _ => exact Or.inr ⟨w, history, rfl⟩

/-- A call does something, or nothing at all. -/
theorem Call.cases (h : s.Call s') : s' = s ∨ s.Moves s' := by
  cases h with
  | edit now edit =>
      cases hanswer : (s.editDraft now edit).1 with
      | error e => exact Or.inl (editDraft_error hanswer)
      | ok a => exact Or.inr (.edited (.edited (Prod.ext hanswer rfl)))
  | undo =>
      rcases travel_cases s History.undo with ⟨-, hsame⟩ | ⟨w, history, hmove⟩
      · exact Or.inl hsame
      · have hundo : s.undo.1 = .ok true := congrArg Prod.fst hmove
        exact Or.inr (.undone (Prod.ext hundo rfl))
  | redo =>
      rcases travel_cases s History.redo with ⟨-, hsame⟩ | ⟨w, history, hmove⟩
      · exact Or.inl hsame
      · have hredo : s.redo.1 = .ok true := congrArg Prod.fst hmove
        exact Or.inr (.redone (Prod.ext hredo rfl))

/-- Wherever a call goes, the session stands at a place of a timeline. -/
theorem Stands.moved (h : s.Stands m timeline place) (hmoves : s.Moves s') :
    ∃ timeline' place', s'.Stands m timeline' place' := by
  cases hmoves with
  | edited hchanges =>
      obtain ⟨w, -, hstands⟩ := h.edited hchanges
      exact ⟨_, _, hstands⟩
  | undone hundo =>
      cases place with
      | zero => cases h.undo_first.symm.trans hundo
      | succ n =>
          obtain ⟨s₁, hundo', hstands⟩ := h.undo
          cases hundo'.symm.trans hundo
          exact ⟨_, _, hstands⟩
  | redone hredo =>
      by_cases hmore : place + 1 < timeline.length
      · obtain ⟨s₁, hredo', hstands, -⟩ := h.redo hmore
        cases hredo'.symm.trans hredo
        exact ⟨_, _, hstands⟩
      · have hlen := h.length
        have hplace := h.place
        cases (h.redo_last (by omega)).symm.trans hredo

/-- Calls of all kinds one after another, each while the backend fails in some
way that is allowed. -/
inductive Calls (allowed : Session → Prop) (s : Session) : Session → Prop
  | none : Calls allowed s s
  | next {s₁ s₂ : Session} (h : Calls allowed s s₁) (faults : StorageFaults)
      (hallowed : allowed (s₁.during faults)) (call : (s₁.during faults).Call s₂) :
      Calls allowed s s₂

/-- **What any run of calls preserves.** -/
theorem Stands.calls {allowed : Session → Prop} (h : s.Stands m timeline place)
    (hcalls : s.Calls allowed s') : ∃ timeline' place', s'.Stands m timeline' place' := by
  induction hcalls with
  | none => exact ⟨timeline, place, h⟩
  | next _ faults _ call ih =>
      obtain ⟨timeline₁, place₁, hstands⟩ := ih
      rcases call.cases with rfl | hmoves
      · exact ⟨timeline₁, place₁, hstands.during faults⟩
      · exact (hstands.during faults).moved hmoves

/-! ## §4. The slot of the draft. -/

/-- Writes to the slot of the draft succeed. -/
def Writes (s : Session) : Prop :=
  ∀ text, (s.store.backend.set s.store.keys.draft text).1 = .ok ()

/-- The slot holds the draft. -/
def Stored (s : Session) : Prop :=
  ∀ w, s.draft = some w → s.store.backend.medium.text? s.store.keys.draft = some w.compactText

/-- Where writes succeed, the draft is stored. -/
theorem stored_flushDraft (writes : s.Writes) : s.flushDraft.Stored := by
  unfold Stored flushDraft
  split
  next hnone =>
    intro w hw
    cases hnone.symm.trans hw
  next w hdraft =>
    have hwrite := writes w.compactText
    have hsave : s.store.saveDraft w = (.ok (), { s.store with
        backend := (s.store.backend.set s.store.keys.draft w.compactText).2 }) :=
      Prod.ext hwrite rfl
    rw [hsave]
    intro v hv
    cases hdraft.symm.trans hv
    exact Backend.text?_set hwrite

/-- So it is after any move. -/
theorem Moves.stored (hmoves : s.Moves s') (writes : s.Writes) : s'.Stored := by
  have htravel : ∀ move, s.travel move = (.ok true, s') → s'.Stored := by
    intro move hmove
    rcases travel_cases s move with ⟨hnot, -⟩ | ⟨w, history, hflush⟩
    · exact absurd (congrArg Prod.fst hmove) hnot
    · cases hflush.symm.trans hmove
      exact stored_flushDraft writes
  cases hmoves with
  | edited hchanges =>
      obtain ⟨before, after, -, rfl⟩ := hchanges.cases
      exact stored_flushDraft writes
  | undone hundo => exact htravel History.undo hundo
  | redone hredo => exact htravel History.redo hredo

/-- Once the slot holds the draft, it follows each call. -/
theorem Stored.calls (h : s.Stored) (hcalls : s.Calls Writes s') : s'.Stored := by
  induction hcalls with
  | none => exact h
  | next _ faults writes call ih =>
      rcases call.cases with rfl | hmoves
      · exact ih
      · exact hmoves.stored writes

/-! ## §5. The timeline. -/

/-- Behind the session are the drafts `d 0` to `d k`.  It goes back through the
last `m` of them and no further, and forth again as far as it went back. -/
structure Retraces (m k : Nat) (d : Nat → Workspace) (s : Session) : Prop where
  back : ∀ faults j, j < min k m → answer Session.undo faults s j = .ok true ∧
    (repeated Session.undo faults s (j + 1)).draft = some (d (k - (j + 1)))
  first : ∀ faults, answer Session.undo faults s (min k m) = .ok false
  forth : ∀ faults faults' j, j ≤ min k m →
    (∀ i < j, answer Session.redo faults' (repeated Session.undo faults s j) i = .ok true ∧
      (repeated Session.redo faults' (repeated Session.undo faults s j) (i + 1)).draft
        = some (d (k - j + (i + 1)))) ∧
    answer Session.redo faults' (repeated Session.undo faults s j) j = .ok false

/-- The history is within its limit: a redo drops no snapshot, and after an
edit there is nothing to redo. -/
structure Bounded (m : Nat) (s : Session) : Prop where
  depths : s.history.undoDepth + s.history.redoDepth ≤ m
  keeps : ∀ faults s', (s.during faults).redo = (.ok true, s') →
    s'.history.past = s.draft.toList ++ s.history.past
  cuts : ∀ faults s', (s.during faults).Changes s' → ∀ faults',
    (s'.during faults').redo.1 = .ok false

/-- After many changes, undo and redo retrace the last of them. -/
theorem Stands.retraces {k : Nat} {d : Nat → Workspace}
    (h : s.Stands m (((List.range (k + 1)).map d).rtake (m + 1)) (min k m)) :
    s.Retraces m k d := by
  have hlen : (((List.range (k + 1)).map d).rtake (m + 1)).length = min k m + 1 := by
    simp only [List.rtake, List.length_drop, List.length_map, List.length_range]
    omega
  -- which draft a place of the timeline is
  have hdraft : ∀ j ≤ min k m, (((List.range (k + 1)).map d).rtake (m + 1))[min k m - j]?
      = some (d (k - j)) := by
    intro j hj
    have hplace : k + 1 - (m + 1) + (min k m - j) = k - j := by omega
    rw [List.rtake, List.getElem?_drop, List.length_map, List.length_range, hplace,
      List.getElem?_map, List.getElem?_range (by omega)]
    rfl
  refine ⟨?_, ?_, ?_⟩
  · intro faults j hj
    rw [h.undo_answers faults (by omega), decide_eq_true hj, (h.undos faults (by omega)).draft,
      hdraft (j + 1) (by omega)]
    exact ⟨rfl, rfl⟩
  · intro faults
    rw [h.undo_answers faults (Nat.le_refl _), decide_eq_false (Nat.lt_irrefl _)]
  · intro faults faults' j hj
    have hback := h.undos faults hj
    refine ⟨?_, ?_⟩
    · intro i hi
      have hplace : min k m - j + (i + 1) = min k m - (j - (i + 1)) := by omega
      have hnumber : k - (j - (i + 1)) = k - j + (i + 1) := by omega
      rw [hback.redo_answers faults' (by omega), decide_eq_true (by omega),
        (hback.redos faults' (by omega)).draft, hplace, hdraft (j - (i + 1)) (by omega), hnumber]
      exact ⟨rfl, rfl⟩
    · rw [hback.redo_answers faults' (by omega), decide_eq_false (by omega)]

theorem Stands.bounded (h : s.Stands m timeline place) : s.Bounded m := by
  refine ⟨h.depths, ?_, ?_⟩
  · intro faults s' hredo
    have hnow := h.during faults
    by_cases hmore : place + 1 < timeline.length
    · obtain ⟨s₁, hredo', -, hpast⟩ := hnow.redo hmore
      cases hredo'.symm.trans hredo
      exact hpast
    · have hlen := h.length
      have hplace := h.place
      cases (hnow.redo_last (by omega)).symm.trans hredo
  · intro faults s' hchanges faults'
    obtain ⟨w, -, hstands⟩ := (h.during faults).edited hchanges
    have hlast : min (place + 1) m + 1
        = ((timeline.take (place + 1) ++ [w]).rtake (m + 1)).length := by
      have hlen := h.length
      have hplace := h.place
      simp only [List.rtake, List.length_drop, List.length_append, List.length_take,
        List.length_singleton]
      omega
    rw [(hstands.during faults').redo_last hlast]

/-- **Undo and redo walk the timeline of the drafts.**  Take a session in edit
mode with an empty history of limit `m`.  After `k` edits, by whatever changes
the draft, it goes back through the last `m` drafts exactly, and forth again;
whatever calls are mixed, the history stays within its limit; and while writes
succeed, the slot holds the draft from the first call that did something on. -/
theorem undo_redo_walk_timeline {w : Workspace} (hmode : s.mode = .edit)
    (hdraft : s.draft = some w) (hhistory : s.history = .empty m) :
    (∀ k (t : Nat → Session) (d : Nat → Workspace), t 0 = s →
      (∀ i < k, ∃ faults, ((t i).during faults).Changes (t (i + 1))) →
      (∀ i ≤ k, (t i).draft = some (d i)) → (t k).Retraces m k d) ∧
    (∀ s', s.Calls (fun _ => True) s' → s'.Bounded m) ∧
    ∀ s₁ s₂ s₃ : Session, s₁.Writes → s₁.Moves s₂ → s₂.Calls Writes s₃ → s₃.Stored := by
  have hstart : s.Stands m [w] 0 := by
    refine ⟨hmode, ⟨w, hdraft, ?_⟩, ?_, ?_, Nat.le_add_left 1 m⟩
    all_goals
      rw [hhistory]
      rfl
  refine ⟨?_, ?_, ?_⟩
  · intro k t d hzero hedits hdrafts
    have hfirst : w = d 0 := by
      have hd := hdrafts 0 (Nat.zero_le k)
      rw [hzero, hdraft] at hd
      exact Option.some.inj hd
    rw [hfirst, ← hzero] at hstart
    exact (edits_stands hstart hedits hdrafts).retraces
  · intro s' hcalls
    obtain ⟨timeline, place, hstands⟩ := hstart.calls hcalls
    exact hstands.bounded
  · intro s₁ s₂ s₃ writes hmoves hcalls
    exact (hmoves.stored writes).calls hcalls

/-- The medium is a memory, and writes to the slot of the draft do not fail. -/
def isReliable (s : Session) : Bool :=
  match s.store.backend.medium with
  | .memory _ => (s.store.backend.faults .set s.store.keys.draft).isNone
  | .file _ _ => false

theorem writes_of_reliable (h : s.isReliable = true) : s.Writes := by
  intro text
  unfold isReliable at h
  split at h
  next entries hmedium =>
    rw [Backend.set, Option.isNone_iff_eq_none.mp h, hmedium]
    rfl
  next => cases h

/-- A longer name. -/
def lengthened (w : Workspace) : Workspace := { w with name := w.name ++ "!" }

/-- A desk with room for two drafts besides the current one, renamed over and
over. -/
def renamedDesk : Nat → Session
  | 0 => editedDesk .builtin ⟨2, .standard⟩
  | n + 1 => ((renamedDesk n).editDraft ⟨n⟩ fun w => .ok ((), lengthened w)).2

/-- The draft of a desk that is renamed over and over. -/
def renamedDraft (w : Workspace) : Nat → Workspace
  | 0 => w
  | n + 1 => (lengthened (renamedDraft w n)).touch ⟨n⟩

theorem renamedDesk_changes {w : Workspace} (hmode : (renamedDesk 0).mode = .edit)
    (hdraft : (renamedDesk 0).draft = some w) (n : Nat) :
    (renamedDesk n).draft = some (renamedDraft w n) ∧
      (renamedDesk n).Changes (renamedDesk (n + 1)) := by
  have hrename : ∀ n, (renamedDesk n).mode = .edit →
      (renamedDesk n).draft = some (renamedDraft w n) →
      (renamedDesk n).editDraft ⟨n⟩ (fun w => .ok ((), lengthened w))
        = (.ok (), ({ renamedDesk n with
          history := (renamedDesk n).history.push (renamedDraft w n)
          draft := some (renamedDraft w (n + 1)) } : Session).flushDraft) := by
    intro n hmode hdraft
    exact editDraft_eq_ok hmode hdraft rfl
  have hstate : (renamedDesk n).mode = .edit ∧
      (renamedDesk n).draft = some (renamedDraft w n) := by
    induction n with
    | zero => exact ⟨hmode, hdraft⟩
    | succ n ih =>
        obtain ⟨b, warnings, hflush⟩ := flushDraft_backend { renamedDesk n with
          history := (renamedDesk n).history.push (renamedDraft w n)
          draft := some (renamedDraft w (n + 1)) }
        have hnext : renamedDesk (n + 1) = _ :=
          (congrArg Prod.snd (hrename n ih.1 ih.2)).trans hflush
        rw [hnext]
        exact ⟨ih.1, rfl⟩
  have hanswer : ((renamedDesk n).editDraft ⟨n⟩ fun w => .ok ((), lengthened w)).1 = .ok () := by
    rw [hrename n hstate.1 hstate.2]
  exact ⟨hstate.2, .edited (Prod.ext hanswer rfl)⟩

/-- Of three renamings two are taken back. -/
theorem renamedDesk_retraces :
    (∃ w, (renamedDesk 0).draft = some w ∧
      (renamedDesk 3).Retraces 2 3 (renamedDraft w)) ∧
    (renamedDesk 0).undo.2.Bounded 2 ∧ (renamedDesk 3).Stored := by
  obtain ⟨hmode, hdraft, ⟨hundo, hredo, hlimit⟩, hreliable⟩ :
      (renamedDesk 0).mode = .edit ∧ (renamedDesk 0).draft.isSome = true ∧
      ((renamedDesk 0).history.undoDepth = 0 ∧ (renamedDesk 0).history.redoDepth = 0 ∧
        (renamedDesk 0).history.limit = 2) ∧
      (renamedDesk 2).isReliable = true := by
    decide +kernel
  obtain ⟨w, hw⟩ := Option.isSome_iff_exists.mp hdraft
  obtain ⟨hretraces, hbounded, hstored⟩ :=
    undo_redo_walk_timeline hmode hw (History.eq_empty hundo hredo hlimit)
  have hrenamed := renamedDesk_changes hmode hw
  refine ⟨⟨w, hw, ?_⟩, ?_, ?_⟩
  · refine hretraces 3 renamedDesk (renamedDraft w) rfl ?_ ?_
    · intro i _
      exact ⟨(renamedDesk i).store.backend.faults, (hrenamed i).2⟩
    · intro i _
      exact (hrenamed i).1
  · exact hbounded _ (Calls.none.next (renamedDesk 0).store.backend.faults trivial .undo)
  · exact hstored _ _ _ (writes_of_reliable hreliable) (.edited (hrenamed 2).2) .none

/-- **The slot needs a first edit.**  An undo that has nowhere to go writes
nothing, so before the first edit the slot need not hold the draft. -/
theorem first_undo_writes_nothing :
    ¬ ∀ (s : Session) (m : Nat), s.mode = .edit → s.draft.isSome = true →
      s.history = .empty m → s.Writes → s.undo.2.Stored := by
  intro h
  obtain ⟨hmode, hdraft, ⟨hundo, hredo⟩, hreliable, hkept, habsent⟩ :
      (renamedDesk 0).mode = .edit ∧ (renamedDesk 0).draft.isSome = true ∧
      ((renamedDesk 0).history.undoDepth = 0 ∧ (renamedDesk 0).history.redoDepth = 0) ∧
      (renamedDesk 0).isReliable = true ∧ (renamedDesk 0).undo.2.draft.isSome = true ∧
      (renamedDesk 0).undo.2.store.backend.medium.text?
        (renamedDesk 0).undo.2.store.keys.draft = none := by
    decide +kernel
  obtain ⟨w, hw⟩ := Option.isSome_iff_exists.mp hkept
  have hstored := h (renamedDesk 0) _ hmode hdraft (History.eq_empty hundo hredo rfl)
    (writes_of_reliable hreliable) w hw
  rw [habsent] at hstored
  cases hstored

end Session

end Dashboard
