/-
  Dashboard.Proofs.Poll.Reports
  ─────────────────────────────
  **WHAT A WORKER REPORTS.**

  The reports of a worker are well formed, and nothing is left out but what was
  struck.  A stop that is through leaves the worker halted: no request begins
  any more, and at most one report about the latest one is still to come
  (`LastWords`).

  Main results:
    Halted.run         — what a worker can still say once a stop is through
    stream_well_formed — form, completeness and end of the reports
-/
import Dashboard.Proofs.Poll.Stream

namespace Dashboard
namespace StreamState

variable {s t : StreamState} {k : Nat} {task : PollTask}

/-! ## §1. After a stop. -/

/-- What a worker can still report after a stop: that it has issued the request
that it had begun, or the result that it had. -/
def LastWords (w : PollWorker) (more : List PollMessage) : Prop :=
  more = [] ∨ (w.point = .sending ∧ more = [w.message .issued]) ∨
    ∃ outcome ts, w.point = .deciding outcome ∧ w.aborted = false ∧
      more = [w.message (.completed outcome ts)]

theorem LastWords.eq_nil {w : PollWorker} {more : List PollMessage} (h : LastWords w more)
    (hsending : w.point ≠ .sending)
    (hdeciding : ∀ outcome, w.point = .deciding outcome → w.aborted = true) : more = [] := by
  rcases h with hnil | ⟨hpoint, -⟩ | ⟨outcome, ts, hpoint, haborted, -⟩
  · exact hnil
  · exact absurd hpoint hsending
  · rw [hdeciding outcome hpoint] at haborted
    exact nomatch haborted

/-- A strike takes words away, and adds none. -/
theorem LastWords.of_abort {w : PollWorker} {more : List PollMessage}
    (h : LastWords w.abort more) : LastWords w more := by
  unfold PollWorker.abort at h
  split at h
  next =>
    rcases h with hnil | hissued | ⟨outcome, ts, hpoint, haborted, -⟩
    · exact .inl hnil
    · exact .inr (.inl hissued)
    · exact nomatch haborted
  next => exact h

/-- A worker that is to stop, and whose request under way is struck. -/
structure Halted (s : StreamState) : Prop where
  stopped : s.worker.stopped = true
  aborted : s.worker.point.IsExposed → s.worker.aborted = true

/-- A step of a halted worker: it begins nothing, and what it reports and can
still report afterwards it could report before. -/
structure Winds (s t : StreamState) : Prop where
  halted : t.Halted
  issued : t.worker.issued = s.worker.issued
  words : ∀ more, LastWords t.worker more →
    ∃ more', t.sent ++ more = s.sent ++ more' ∧ LastWords s.worker more'

namespace Halted

/-- A step of the worker to a place where nothing is left to report. -/
theorem winds (h : s.Halted) {m : Option PollMessage} {armed : Bool} {point : WorkerPoint}
    (hlast : LastWords s.worker m.toList)
    (haborted : point.IsUnderway → s.worker.aborted = true) (hsending : point ≠ .sending) :
    s.Winds (s.reports (m, { s.worker with armed, point })) where
  halted := ⟨h.stopped, fun hexposed => haborted hexposed.underway⟩
  issued := rfl
  words := by
    intro more hmore
    have hnil : more = [] := by
      refine hmore.eq_nil hsending fun outcome hpoint => haborted ?_
      rw [show point = .deciding outcome from hpoint]
      trivial
    exact ⟨m.toList, by rw [hnil, List.append_nil, reports], hlast⟩

/-- A step of the worker away from its request. -/
theorem winds_idle (h : s.Halted) {m : Option PollMessage} {armed : Bool} {point : WorkerPoint}
    (hlast : LastWords s.worker m.toList) (hidle : ¬point.IsUnderway) :
    s.Winds (s.reports (m, { s.worker with armed, point })) := by
  refine h.winds hlast (fun hunderway => absurd hunderway hidle) ?_
  rintro rfl
  exact hidle trivial

theorem work (h : s.Halted) {r : Option PollMessage × PollWorker}
    (hmove : s.worker.Moves s.listening r) : s.Winds (s.reports r) := by
  cases hmove with
  | begin hpoint =>
    rw [PollWorker.begin, if_pos h.stopped]
    exact h.winds_idle (.inl rfl) not_false
  | announce hpoint =>
    have haborted : s.worker.aborted = true := h.aborted (by rw [hpoint]; trivial)
    unfold PollWorker.announce
    split
    next => exact h.winds (.inr (.inl ⟨hpoint, rfl⟩)) (fun _ => haborted) (by simp)
    next => exact h.winds_idle (.inl rfl) not_false
  | arrive outcome hpoint =>
    have haborted : s.worker.aborted = true := h.aborted (by rw [hpoint]; trivial)
    exact h.winds (.inl rfl) (fun _ => haborted) (by simp)
  | conclude ts hpoint =>
    unfold PollWorker.conclude
    split
    next => exact h.winds_idle (.inl rfl) not_false
    next haborted =>
      rw [Bool.not_eq_true] at haborted
      split
      next => exact h.winds_idle (.inr (.inr ⟨_, ts, hpoint, haborted, rfl⟩)) not_false
      next => exact h.winds_idle (.inl rfl) not_false
  | rest hpoint =>
    rw [PollWorker.rest, if_pos h.stopped]
    exact h.winds_idle (.inl rfl) not_false
  | wake hpoint =>
    rw [PollWorker.wake, if_pos h.stopped]
    exact h.winds_idle (.inl rfl) not_false

theorem strike (h : s.Halted) : s.strike.Halted := by
  unfold StreamState.strike PollWorker.abort
  split
  next => exact ⟨h.stopped, fun _ => rfl⟩
  next => exact h

theorem issued_strike (s : StreamState) : s.strike.worker.issued = s.worker.issued := by
  show s.worker.abort.issued = _
  unfold PollWorker.abort
  split <;> rfl

theorem step (h : s.Halted) (hstep : StreamStep s t) : s.Winds t := by
  cases hstep with
  | work hmove => exact h.work hmove
  | leave => exact ⟨⟨h.stopped, h.aborted⟩, rfl, fun more hmore => ⟨more, rfl, hmore⟩⟩
  | askRefresh hrunning =>
    rw [h.stopped] at hrunning
    exact nomatch hrunning
  | strikeRefresh =>
    have hstruck := h.strike
    exact ⟨⟨hstruck.stopped, hstruck.aborted⟩, issued_strike s,
      fun more hmore => ⟨more, rfl, LastWords.of_abort hmore⟩⟩
  | askStop => exact ⟨⟨rfl, h.aborted⟩, rfl, fun more hmore => ⟨more, rfl, hmore⟩⟩
  | strikeStop =>
    have hstruck := h.strike
    exact ⟨⟨hstruck.stopped, hstruck.aborted⟩, issued_strike s,
      fun more hmore => ⟨more, rfl, LastWords.of_abort hmore⟩⟩

/-- A halted worker begins nothing more, and has its last words at most. -/
theorem run (h : s.Halted) (hrun : StreamRun s t) :
    t.worker.issued = s.worker.issued ∧
      ∃ more, t.sent = s.sent ++ more ∧ LastWords s.worker more := by
  induction hrun using Relation.ReflTransGen.head_induction_on with
  | refl => exact ⟨rfl, [], (List.append_nil _).symm, .inl rfl⟩
  | head hstep _ ih =>
    have hwinds := h.step hstep
    obtain ⟨hissued, more, hsent, hmore⟩ := ih hwinds.halted
    obtain ⟨more', hsame, hmore'⟩ := hwinds.words more hmore
    exact ⟨hissued.trans hwinds.issued, more', hsent.trans hsame, hmore'⟩

end Halted

/-- A stop that is through leaves the worker halted. -/
theorem Inv.halted (h : s.Inv k task) (hstopping : 0 < s.stopping) : s.strikeStop.Halted := by
  have hstruck : s.strike.Inv k task := h.strike
  refine ⟨hstruck.stopping hstopping, fun hexposed => ?_⟩
  show s.worker.abort.aborted = true
  have hplace : s.worker.abort.point = s.worker.point := by
    unfold PollWorker.abort
    split <;> rfl
  have harmed : s.worker.armed = true := h.armed_iff.mpr (hplace ▸ hexposed)
  rw [PollWorker.abort, if_pos harmed]

/-! ## §2. All runs. -/

/-- **The reports of a worker are well formed.**  In every run the reports are
those of the requests 1, 2, … in this order: each is issued, and right after
that perhaps completed, once.  A request whose abort flag was ever set is not
reported as completed, and as long as somebody listens every other one is that
is over.  When a stop is through, no request begins any more, the one under way
is never completed, and at most one report follows: that the request which had
begun is issued, or the result that was there before. -/
theorem stream_well_formed (k : Nat) (task : PollTask) (hrun : StreamRun (start k task) s) :
    (∃ results, results.length ≤ s.worker.issued ∧ s.sent = stream k task.panel results) ∧
    (∀ n, s.Completed n → n ∉ s.struck) ∧
    (s.listening = true → ∀ n, s.Ended n → (s.Completed n ↔ n ∉ s.struck)) ∧
    (0 < s.stopping → ∀ t, StreamRun s.strikeStop t →
      t.worker.issued = s.worker.issued ∧
      (s.worker.armed = true → ¬t.Completed s.worker.issued) ∧
      ∃ more, t.sent = s.sent ++ more ∧ LastWords s.worker more) := by
  have h : s.Inv k task := (inv_start k task).run hrun
  refine ⟨?_, h.unstruck, ?_, ?_⟩
  · rw [← h.id_eq, ← h.task_eq]
    exact h.form.exists_stream
  · exact fun hlistening n hended => ⟨h.unstruck n, h.complete hlistening n hended⟩
  · intro hstopping t hafter
    obtain ⟨hissued, more, hsent, hmore⟩ := (h.halted hstopping).run hafter
    have hmore : LastWords s.worker more := .of_abort hmore
    refine ⟨hissued.trans (Halted.issued_strike s), ?_, more, hsent, hmore⟩
    -- a request under way has no result, and what is said of it is that it is issued
    intro harmed hcompleted
    have hexposed := h.armed_iff.mp harmed
    rcases hmore with rfl | ⟨-, rfl⟩ | ⟨outcome, ts, hpoint, -, -⟩
    · refine h.underway hexposed.underway ?_
      rwa [Completed, hsent, strikeStop, List.append_nil] at hcompleted
    · refine h.underway hexposed.underway ((s.completed_issued s.worker _).mp ?_)
      rwa [Completed, hsent] at hcompleted
    · rw [hpoint] at hexposed
      exact hexposed

/-- The worker has begun its third request: a refresh aborted the first one,
and the second one has a result. -/
def thirdBegun : StreamState :=
  ⟨⟨1, RefreshState.slowTask, false, false, true, false, 3, .sending⟩, true, 0, 0, [1],
    [⟨1, "p", 1, .issued⟩, ⟨1, "p", 2, .issued⟩, ⟨1, "p", 2, .completed (.ok .null) 6⟩]⟩

theorem run_thirdBegun : StreamRun (start 1 RefreshState.slowTask) thirdBegun := by
  let refreshed : StreamState :=
    ⟨⟨1, RefreshState.slowTask, false, true, false, true, 1, .starting⟩, true, 0, 0, [1],
      [⟨1, "p", 1, .issued⟩]⟩
  have first : StreamRun (start 1 RefreshState.slowTask) refreshed := by
    have begun := StreamStep.work (s := start 1 RefreshState.slowTask) (.begin rfl)
    have r := Relation.ReflTransGen.single begun
    have r := (r.tail (.work (.announce rfl))).tail (.askRefresh rfl)
    have r := r.tail (.strikeRefresh (Nat.succ_pos _))
    have r := r.tail (.work (.arrive (.error .cancelled) rfl))
    exact (r.tail (.work (.conclude 5 rfl))).tail (.work (.rest rfl))
  have second : StreamRun refreshed thirdBegun := by
    have r := Relation.ReflTransGen.single (StreamStep.work (s := refreshed) (.begin rfl))
    have r := (r.tail (.work (.announce rfl))).tail (.work (.arrive (.ok .null) rfl))
    have r := (r.tail (.work (.conclude 6 rfl))).tail (.work (.rest rfl))
    exact (r.tail (.work (.wake rfl))).tail (.work (.begin rfl))
  exact first.trans second

/-- A stop comes before the third request is reported: the first one is never
completed, the second one is, and of the third one it is said that it is issued. -/
theorem stopped_stream_well_formed :
    StreamRun (start 1 RefreshState.slowTask) thirdBegun.askStop ∧ 0 < thirdBegun.askStop.stopping ∧
      ¬thirdBegun.askStop.Completed 1 ∧ thirdBegun.askStop.Completed 2 ∧
      ∃ t, StreamRun thirdBegun.askStop.strikeStop t ∧
        t.sent = thirdBegun.sent ++ [⟨1, "p", 3, .issued⟩] ∧ t.worker.issued = 3 ∧
        ¬t.Completed 3 := by
  have r : StreamRun (start 1 RefreshState.slowTask) thirdBegun.askStop :=
    run_thirdBegun.tail .askStop
  obtain ⟨-, hunstruck, hcomplete, hstop⟩ := stream_well_formed 1 RefreshState.slowTask r
  obtain ⟨hissued, hopen, -⟩ := hstop (by decide) _ (.single (.work (.announce rfl)))
  refine ⟨r, by decide, ?_, ?_, _, .single (.work (.announce rfl)), rfl, hissued, hopen rfl⟩
  · exact fun hone => hunstruck 1 hone (by decide)
  · exact (hcomplete rfl 2 ⟨by decide, by decide, nofun⟩).mpr (by decide)

end StreamState
end Dashboard
