/-
  Dashboard.Proofs.Poll.Stream
  ────────────────────────────
  **A WORKER AND THE CALLS OF ITS OWNER.**

  A worker reports `issued 1`, perhaps `completed 1`, `issued 2`, and so on,
  whatever its owner does in the meantime.  A refresh and a stop are calls with
  two halves: a flag is set, then the request under way is struck.  The worker
  and any number of calls take indivisible steps in any order, and the one who
  listens may leave at any time (`StreamStep`).  Which requests were ever struck
  is written down, and one invariant says how the worker's place, its flags and
  its reports stand to that.

  Main results:
    moves_of_advance — the steps of a pool's workers are among these
    Inv.step         — what every step preserves
-/
import Dashboard.Proofs.Poll.Refresh

namespace Dashboard

/-! ## §1. Steps. -/

/-- One indivisible step of a worker, with what it reports. -/
inductive PollWorker.Moves (listening : Bool) :
    PollWorker → Option PollMessage × PollWorker → Prop where
  | begin {w} : w.point = .starting → Moves listening w (none, w.begin)
  | announce {w} : w.point = .sending → Moves listening w (w.announce listening)
  | arrive {w} (outcome : Outcome) : w.point = .fetching →
      Moves listening w (none, w.arrive outcome)
  | conclude {w outcome} (ts : Int) : w.point = .deciding outcome →
      Moves listening w (w.conclude outcome ts listening)
  | rest {w} : w.point = .resting → Moves listening w (none, w.rest)
  | wake {w} : w.point = .asleep → Moves listening w (none, w.wake)

/-- A worker, the calls under way, and what was reported. -/
structure StreamState where
  worker : PollWorker
  /-- Somebody receives the reports. -/
  listening : Bool
  /-- Refreshes that have set their flag and not struck. -/
  refreshing : Nat
  /-- Stops that have set their flag and not struck. -/
  stopping : Nat
  /-- The requests whose abort flag was ever set. -/
  struck : List Nat
  sent : List PollMessage

namespace StreamState

/-- A worker that has done nothing, and no calls. -/
def start (id : Nat) (task : PollTask) : StreamState := ⟨.fresh id task, true, 0, 0, [], []⟩

/-- The worker goes on, perhaps with a report. -/
def reports (s : StreamState) (r : Option PollMessage × PollWorker) : StreamState :=
  { s with worker := r.2, sent := s.sent ++ r.1.toList }

/-- Strike the request under way, if there is one. -/
def strike (s : StreamState) : StreamState :=
  { s with
    worker := s.worker.abort
    struck := if s.worker.armed then s.worker.issued :: s.struck else s.struck }

/-- The first half of a refresh. -/
def askRefresh (s : StreamState) : StreamState :=
  { s with worker := s.worker.flagRefresh, refreshing := s.refreshing + 1 }

/-- The second half of a refresh. -/
def strikeRefresh (s : StreamState) : StreamState :=
  { s.strike with refreshing := s.refreshing - 1 }

/-- The first half of a stop. -/
def askStop (s : StreamState) : StreamState :=
  { s with worker := s.worker.flagStop, stopping := s.stopping + 1 }

/-- The second half of a stop. -/
def strikeStop (s : StreamState) : StreamState := { s.strike with stopping := s.stopping - 1 }

/-- The request of a number was reported as completed. -/
def Completed (s : StreamState) (n : Nat) : Prop :=
  ∃ m ∈ s.sent, m.request = n ∧ ∃ outcome ts, m.report = .completed outcome ts

/-- The request of a number has begun and is over. -/
def Ended (s : StreamState) (n : Nat) : Prop :=
  0 < n ∧ n ≤ s.worker.issued ∧ (n = s.worker.issued → ¬s.worker.point.IsUnderway)

end StreamState

open StreamState

/-- One indivisible step of the worker, of a call, or of the one who listens. -/
inductive StreamStep : StreamState → StreamState → Prop where
  | work {s r} : s.worker.Moves s.listening r → StreamStep s (s.reports r)
  | leave {s} : StreamStep s { s with listening := false }
  /-- A refresh of a stopped worker does nothing. -/
  | askRefresh {s} : s.worker.stopped = false → StreamStep s s.askRefresh
  | strikeRefresh {s} : 0 < s.refreshing → StreamStep s s.strikeRefresh
  | askStop {s} : StreamStep s s.askStop
  | strikeStop {s} : 0 < s.stopping → StreamStep s s.strikeStop

/-- A run of such steps. -/
abbrev StreamRun : StreamState → StreamState → Prop := Relation.ReflTransGen StreamStep

/-- The steps of a pool are steps of its workers. -/
theorem PollWorker.moves_of_advance (w : PollWorker) (script : Script) (ts : Int)
    (hgoing : w.point ≠ .finished) :
    w.Moves true ((Pool.advance script ts w).1, (Pool.advance script ts w).2.1) := by
  unfold Pool.advance
  split
  next hpoint => exact .begin hpoint
  next hpoint => exact .announce hpoint
  next hpoint =>
    split
    next => exact .arrive (.error .cancelled) hpoint
    next => exact .arrive _ hpoint
  next outcome hpoint => exact .conclude ts hpoint
  next hpoint => exact .rest hpoint
  next hpoint => exact .wake hpoint
  next hpoint => exact absurd hpoint hgoing

/-- A pool's stop is a call whose halves nothing comes between. -/
theorem StreamState.run_stop (s : StreamState) :
    StreamRun s s.askStop.strikeStop ∧ s.askStop.strikeStop.worker = s.worker.stop ∧
      s.askStop.strikeStop.stopping = s.stopping :=
  ⟨(Relation.ReflTransGen.single .askStop).tail (.strikeStop (Nat.succ_pos _)), rfl, rfl⟩

namespace WorkerPoint

theorem IsExposed.underway {p : WorkerPoint} (h : p.IsExposed) : p.IsUnderway := by
  cases p <;> first | exact h.elim | trivial

theorem IsOver.not_underway {p : WorkerPoint} (h : p.IsOver) : ¬p.IsUnderway := by
  cases p <;> first | exact h.elim | exact id

end WorkerPoint

/-! ## §2. The form of the reports. -/

/-- The reports about one request: issued, and completed if it has a result. -/
def requestReports (id : Nat) (panel : String) (n : Nat) (result : Option (Outcome × Int)) :
    List PollMessage :=
  ⟨id, panel, n, .issued⟩ ::
    (result.map fun r => ⟨id, panel, n, .completed r.1 r.2⟩).toList

/-- The reports about the requests 1, 2, … that have the given results. -/
def stream (id : Nat) (panel : String) (results : List (Option (Outcome × Int))) :
    List PollMessage :=
  (results.zipIdx 1).flatMap fun r => requestReports id panel r.2 r.1

theorem stream_append (id : Nat) (panel : String) (results : List (Option (Outcome × Int)))
    (result : Option (Outcome × Int)) :
    stream id panel (results ++ [result]) =
      stream id panel results ++ requestReports id panel (results.length + 1) result := by
  simp [stream, List.zipIdx_append, Nat.add_comm]

namespace StreamState

variable {s t : StreamState} {k : Nat} {task : PollTask}

/-- The reports have the form of a stream, up to where the worker is. -/
def InForm (s : StreamState) : Prop :=
  let form := stream s.worker.id s.worker.task.panel
  match s.worker.point with
  | .sending => ∃ results, results.length + 1 = s.worker.issued ∧ s.sent = form results
  -- the latest request is issued, and its result open
  | .fetching | .deciding _ =>
    ∃ results, results.length + 1 = s.worker.issued ∧ s.sent = form (results ++ [none])
  | .starting | .resting | .asleep =>
    ∃ results, results.length = s.worker.issued ∧ s.sent = form results
  | .finished => ∃ results, results.length ≤ s.worker.issued ∧ s.sent = form results

theorem InForm.exists_stream (h : s.InForm) :
    ∃ results, results.length ≤ s.worker.issued ∧
      s.sent = stream s.worker.id s.worker.task.panel results := by
  unfold InForm at h
  cases hpoint : s.worker.point with
  | sending =>
    rw [hpoint] at h
    obtain ⟨results, hlength, hsent⟩ := h
    exact ⟨results, by omega, hsent⟩
  | fetching | deciding =>
    rw [hpoint] at h
    obtain ⟨results, hlength, hsent⟩ := h
    exact ⟨results ++ [none], by simp; omega, hsent⟩
  | starting | resting | asleep =>
    rw [hpoint] at h
    obtain ⟨results, hlength, hsent⟩ := h
    exact ⟨results, by omega, hsent⟩
  | finished =>
    rw [hpoint] at h
    exact h

/-! ## §3. What a step preserves. -/

/-- The worker reports that its latest request is issued. -/
theorem completed_issued (s : StreamState) (w : PollWorker) (n : Nat) :
    { s with sent := s.sent ++ [w.message .issued] }.Completed n ↔ s.Completed n := by
  constructor
  · rintro ⟨m, hm, hrequest, outcome, ts, hreport⟩
    rcases List.mem_append.mp hm with hm | hm
    · exact ⟨m, hm, hrequest, outcome, ts, hreport⟩
    · rw [List.mem_singleton.mp hm] at hreport
      exact nomatch hreport
  · rintro ⟨m, hm, hrest⟩
    exact ⟨m, List.mem_append_left _ hm, hrest⟩

/-- The worker reports that its latest request is completed. -/
theorem completed_completed (s : StreamState) (w : PollWorker) (outcome : Outcome) (ts : Int)
    (n : Nat) :
    { s with sent := s.sent ++ [w.message (.completed outcome ts)] }.Completed n ↔
      s.Completed n ∨ n = w.issued := by
  constructor
  · rintro ⟨m, hm, hrequest, hreport⟩
    rcases List.mem_append.mp hm with hm | hm
    · exact .inl ⟨m, hm, hrequest, hreport⟩
    · rw [List.mem_singleton.mp hm] at hrequest
      exact .inr hrequest.symm
  · rintro (⟨m, hm, hrest⟩ | rfl)
    · exact ⟨m, List.mem_append_left _ hm, hrest⟩
    · exact ⟨_, List.mem_append_right _ (List.mem_singleton_self _), rfl, outcome, ts, rfl⟩

/-- How the worker's flags and reports stand to what was written down. -/
structure Inv (k : Nat) (task : PollTask) (s : StreamState) : Prop where
  id_eq : s.worker.id = k
  task_eq : s.worker.task = task
  form : s.InForm
  stopping : 0 < s.stopping → s.worker.stopped = true
  armed_iff : s.worker.armed = true ↔ s.worker.point.IsExposed
  aborted_iff : s.worker.aborted = true ↔ s.worker.issued ∈ s.struck
  struck_le : ∀ n ∈ s.struck, n ≤ s.worker.issued
  completed_le : ∀ n, s.Completed n → n ≤ s.worker.issued
  underway : s.worker.point.IsUnderway → ¬s.Completed s.worker.issued
  unstruck : ∀ n, s.Completed n → n ∉ s.struck
  /-- While somebody listens, no result is lost but by a strike. -/
  complete : s.listening = true → ∀ n, s.Ended n → n ∉ s.struck → s.Completed n

theorem inv_start (k : Nat) (task : PollTask) : (start k task).Inv k task where
  id_eq := rfl
  task_eq := rfl
  form := ⟨[], rfl, rfl⟩
  stopping := nofun
  armed_iff := iff_of_false Bool.false_ne_true not_false
  aborted_iff := iff_of_false Bool.false_ne_true List.not_mem_nil
  struck_le := nofun
  completed_le := by
    rintro n ⟨m, hm, -⟩
    exact nomatch hm
  underway := nofun
  unstruck := fun _ _ => List.not_mem_nil
  complete := by
    rintro - n ⟨hpos, hle, -⟩
    exact absurd hle (Nat.not_le.mpr hpos)

namespace Inv

/-- A step of the worker that begins nothing goes to another place and perhaps
reports the result of the latest request, which then is over. -/
theorem goesOn (h : s.Inv k task) {armed : Bool} {point : WorkerPoint} {sent : List PollMessage}
    (hform : InForm { s with worker := { s.worker with armed, point }, sent })
    (harmed : armed = true ↔ point.IsExposed)
    (hunderway : point.IsUnderway → s.worker.point.IsUnderway)
    (hkept : ∀ n, s.Completed n → { s with sent }.Completed n)
    (hnew : ∀ n, { s with sent }.Completed n →
      s.Completed n ∨ n = s.worker.issued ∧ ¬point.IsUnderway ∧ s.worker.aborted = false)
    (hover : s.listening = true → s.worker.point.IsUnderway → ¬point.IsUnderway →
      s.worker.aborted = false → { s with sent }.Completed s.worker.issued) :
    Inv k task { s with worker := { s.worker with armed, point }, sent } where
  id_eq := h.id_eq
  task_eq := h.task_eq
  form := hform
  stopping := h.stopping
  armed_iff := harmed
  aborted_iff := h.aborted_iff
  struck_le := h.struck_le
  completed_le := by
    intro n hn
    rcases hnew n hn with hold | ⟨rfl, -, -⟩
    · exact h.completed_le n hold
    · exact Nat.le_refl _
  underway := by
    intro hpoint hn
    rcases hnew _ hn with hold | ⟨-, hover, -⟩
    · exact h.underway (hunderway hpoint) hold
    · exact hover hpoint
  unstruck := by
    intro n hn
    rcases hnew n hn with hold | ⟨rfl, -, haborted⟩
    · exact h.unstruck n hold
    · rw [← h.aborted_iff, haborted]
      exact Bool.false_ne_true
  complete := by
    rintro hlistening n ⟨hpos, hle, hplace⟩ hstruck
    by_cases hlast : n = s.worker.issued ∧ s.worker.point.IsUnderway
    · -- the latest request, which is over only now
      obtain ⟨rfl, hbefore⟩ := hlast
      have haborted : s.worker.aborted = false := by
        rwa [← Bool.not_eq_true, h.aborted_iff]
      exact hover hlistening hbefore (hplace rfl) haborted
    · have hended : s.Ended n := ⟨hpos, hle, fun hn hbefore => hlast ⟨hn, hbefore⟩⟩
      exact hkept n (h.complete hlistening n hended hstruck)

/-- A step of the worker that begins and reports nothing. -/
theorem goesOnSilently (h : s.Inv k task) {armed : Bool} {point : WorkerPoint}
    (hform : InForm { s with worker := { s.worker with armed, point } })
    (harmed : armed = true ↔ point.IsExposed)
    (hunderway : point.IsUnderway → s.worker.point.IsUnderway)
    (hover : s.listening = true → s.worker.point.IsUnderway → ¬point.IsUnderway →
      s.worker.aborted = true) :
    Inv k task { s with worker := { s.worker with armed, point } } := by
  refine h.goesOn hform harmed hunderway (fun _ hn => hn) (fun _ hn => .inl hn) ?_
  intro hlistening hbefore hafter haborted
  rw [hover hlistening hbefore hafter] at haborted
  exact nomatch haborted

theorem begin (h : s.Inv k task) (hpoint : s.worker.point = .starting) :
    Inv k task { s with worker := s.worker.begin } := by
  have hform := h.form
  unfold InForm at hform
  rw [hpoint] at hform
  obtain ⟨results, hlength, hsent⟩ := hform
  have hunarmed : ¬s.worker.armed = true := by
    rw [h.armed_iff, hpoint]
    exact not_false
  unfold PollWorker.begin
  split
  next =>
    refine h.goesOnSilently ⟨results, Nat.le_of_eq hlength, hsent⟩
      (iff_of_false hunarmed not_false) False.elim ?_
    rw [hpoint]
    exact fun _ => False.elim
  next =>
    exact {
      id_eq := h.id_eq
      task_eq := h.task_eq
      form := ⟨results, congrArg (· + 1) hlength, hsent⟩
      stopping := h.stopping
      armed_iff := iff_of_true rfl trivial
      aborted_iff := by
        refine iff_of_false Bool.false_ne_true fun hn => ?_
        exact Nat.not_succ_le_self _ (h.struck_le _ hn)
      struck_le := fun n hn => Nat.le_succ_of_le (h.struck_le n hn)
      completed_le := fun n hn => Nat.le_succ_of_le (h.completed_le n hn)
      underway := fun _ hn => Nat.not_succ_le_self _ (h.completed_le _ hn)
      unstruck := h.unstruck
      complete := by
        rintro hlistening n ⟨hpos, hle, hplace⟩
        -- the new request is under way
        have hlt : n < s.worker.issued + 1 :=
          Nat.lt_of_le_of_ne hle fun hn => hplace hn trivial
        refine h.complete hlistening n ⟨hpos, Nat.le_of_lt_succ hlt, fun _ => ?_⟩
        rw [hpoint]
        exact not_false }

theorem announce (h : s.Inv k task) (hpoint : s.worker.point = .sending) :
    (s.reports (s.worker.announce s.listening)).Inv k task := by
  have hform := h.form
  unfold InForm at hform
  rw [hpoint] at hform
  obtain ⟨results, hlength, hsent⟩ := hform
  have hbefore : s.worker.point.IsUnderway := by
    rw [hpoint]
    trivial
  cases hlistening : s.listening with
  | true =>
    have harmed : s.worker.armed = true := by
      rw [h.armed_iff, hpoint]
      trivial
    have hcompleted := s.completed_issued s.worker
    refine h.goesOn ⟨results, hlength, ?_⟩ (iff_of_true harmed trivial) (fun _ => hbefore)
      (fun n => (hcompleted n).mpr) (fun n hn => .inl ((hcompleted n).mp hn)) ?_
    · show s.sent ++ [s.worker.message .issued] = _
      rw [stream_append, ← hsent, hlength]
      rfl
    · exact fun _ _ hover => absurd trivial hover
  | false =>
    have hannounce : s.reports (s.worker.announce false) =
        { s with worker := { s.worker with armed := false, point := .finished } } := by
      simp [reports, PollWorker.announce]
    rw [hannounce]
    have hle : results.length ≤ s.worker.issued := by omega
    refine h.goesOnSilently ⟨results, hle, hsent⟩ (iff_of_false Bool.false_ne_true not_false)
      False.elim ?_
    rw [hlistening]
    exact fun hsome => absurd hsome Bool.false_ne_true

theorem arrive (h : s.Inv k task) (hpoint : s.worker.point = .fetching) (outcome : Outcome) :
    Inv k task { s with worker := s.worker.arrive outcome } := by
  have hform := h.form
  unfold InForm at hform
  rw [hpoint] at hform
  refine h.goesOnSilently hform (iff_of_false Bool.false_ne_true not_false) (fun _ => ?_) ?_
  · rw [hpoint]
    trivial
  · exact fun _ _ hover => absurd trivial hover

theorem conclude (h : s.Inv k task) {outcome : Outcome}
    (hpoint : s.worker.point = .deciding outcome) (ts : Int) :
    (s.reports (s.worker.conclude outcome ts s.listening)).Inv k task := by
  have hform := h.form
  unfold InForm at hform
  rw [hpoint] at hform
  obtain ⟨results, hlength, hsent⟩ := hform
  have hunarmed : ¬s.worker.armed = true := by
    rw [h.armed_iff, hpoint]
    exact not_false
  cases haborted : s.worker.aborted with
  | true =>
    have hconclude : s.reports (s.worker.conclude outcome ts s.listening) =
        { s with worker := { s.worker with point := .resting } } := by
      simp [reports, PollWorker.conclude, haborted]
    rw [hconclude]
    refine h.goesOnSilently ⟨results ++ [none], ?_, hsent⟩
      (iff_of_false hunarmed not_false) False.elim ?_
    · rw [List.length_append]
      exact hlength
    · exact fun _ _ _ => haborted
  | false =>
    cases hlistening : s.listening with
    | true =>
      let m := s.worker.message (.completed outcome ts)
      have hconclude : s.reports (s.worker.conclude outcome ts true) =
          { s with worker := { s.worker with point := .resting }, sent := s.sent ++ [m] } := by
        simp [reports, PollWorker.conclude, haborted, m]
      have hcompleted := s.completed_completed s.worker outcome ts
      rw [hconclude]
      refine h.goesOn ⟨results ++ [some (outcome, ts)], ?_, ?_⟩
        (iff_of_false hunarmed not_false) False.elim (fun n hn => (hcompleted n).mpr (.inl hn)) ?_ ?_
      · rw [List.length_append]
        exact hlength
      · show s.sent ++ [m] = _
        rw [hsent, stream_append, stream_append, List.append_assoc, hlength]
        rfl
      · intro n hn
        rcases (hcompleted n).mp hn with hold | hlast
        · exact .inl hold
        · exact .inr ⟨hlast, not_false, haborted⟩
      · exact fun _ _ _ _ => (hcompleted _).mpr (.inr rfl)
    | false =>
      have hconclude : s.reports (s.worker.conclude outcome ts false) =
          { s with worker := { s.worker with point := .finished } } := by
        simp [reports, PollWorker.conclude, haborted]
      rw [hconclude]
      refine h.goesOnSilently ⟨results ++ [none], ?_, hsent⟩
        (iff_of_false hunarmed not_false) False.elim ?_
      · rw [List.length_append]
        exact Nat.le_of_eq hlength
      · rw [hlistening]
        exact fun hsome => absurd hsome Bool.false_ne_true

/-- Between two requests the worker goes anywhere but to a request. -/
theorem pauses (h : s.Inv k task) (hover : s.worker.point.IsOver) {point : WorkerPoint}
    (hpoint : point = .starting ∨ point = .asleep ∨ point = .finished) :
    Inv k task { s with worker := { s.worker with point } } := by
  have hform := h.form
  unfold InForm at hform
  have hcount : ∃ results, results.length = s.worker.issued ∧
      s.sent = stream s.worker.id s.worker.task.panel results := by
    cases hplace : s.worker.point with
    | resting | asleep =>
      rw [hplace] at hform
      exact hform
    | _ =>
      rw [hplace] at hover
      exact hover.elim
  have hunarmed : ¬s.worker.armed = true := by
    rw [h.armed_iff]
    exact fun hexposed => hexposed.not_over hover
  obtain ⟨results, hlength, hsent⟩ := hcount
  refine h.goesOnSilently ?_ ?_ ?_ fun _ hunderway => (hover.not_underway hunderway).elim
  · rcases hpoint with rfl | rfl | rfl
    · exact ⟨results, hlength, hsent⟩
    · exact ⟨results, hlength, hsent⟩
    · exact ⟨results, Nat.le_of_eq hlength, hsent⟩
  · rcases hpoint with rfl | rfl | rfl <;> exact iff_of_false hunarmed not_false
  · rcases hpoint with rfl | rfl | rfl <;> exact False.elim

theorem rest (h : s.Inv k task) (hpoint : s.worker.point = .resting) :
    Inv k task { s with worker := s.worker.rest } := by
  have hover : s.worker.point.IsOver := by
    rw [hpoint]
    trivial
  unfold PollWorker.rest
  split
  next => exact h.pauses hover (.inr (.inr rfl))
  next =>
    split
    next => exact h.pauses hover (.inl rfl)
    next => exact h.pauses hover (.inr (.inl rfl))

theorem wake (h : s.Inv k task) (hpoint : s.worker.point = .asleep) :
    Inv k task { s with worker := s.worker.wake } := by
  have hover : s.worker.point.IsOver := by
    rw [hpoint]
    trivial
  unfold PollWorker.wake
  split
  next => exact h.pauses hover (.inr (.inr rfl))
  next => exact h.pauses hover (.inl rfl)

theorem work (h : s.Inv k task) {r : Option PollMessage × PollWorker}
    (hmove : s.worker.Moves s.listening r) : (s.reports r).Inv k task := by
  have hsilent (w : PollWorker) : s.reports (none, w) = { s with worker := w } := by
    simp [reports]
  cases hmove with
  | begin hpoint =>
    rw [hsilent]
    exact h.begin hpoint
  | announce hpoint => exact h.announce hpoint
  | arrive outcome hpoint =>
    rw [hsilent]
    exact h.arrive hpoint outcome
  | conclude ts hpoint => exact h.conclude hpoint ts
  | rest hpoint =>
    rw [hsilent]
    exact h.rest hpoint
  | wake hpoint =>
    rw [hsilent]
    exact h.wake hpoint

theorem strike (h : s.Inv k task) : s.strike.Inv k task := by
  unfold StreamState.strike PollWorker.abort
  cases harmed : s.worker.armed with
  | true =>
    have hexposed := h.armed_iff.mp harmed
    have hunderway := hexposed.underway
    rw [if_pos rfl, if_pos rfl]
    exact { h with
      aborted_iff := iff_of_true rfl List.mem_cons_self
      armed_iff := iff_of_true rfl hexposed
      struck_le := by
        intro n hn
        rcases List.mem_cons.mp hn with rfl | hn
        · exact Nat.le_refl _
        · exact h.struck_le n hn
      -- the request that is struck has no result yet
      unstruck := by
        intro n hn hstruck
        rcases List.mem_cons.mp hstruck with rfl | hstruck
        · exact h.underway hunderway hn
        · exact h.unstruck n hn hstruck
      complete := fun hlistening n hended hstruck =>
        h.complete hlistening n hended (mt (List.mem_cons_of_mem _) hstruck) }
  | false =>
    rw [if_neg Bool.false_ne_true, if_neg Bool.false_ne_true]
    exact h

theorem flagged (h : s.Inv k task) {stopped refresh : Bool} {refreshing stopping : Nat}
    (hstopping : 0 < stopping → stopped = true) :
    Inv k task { s with
      worker := { s.worker with stopped, refresh }, refreshing, stopping } :=
  { h with stopping := hstopping }

theorem step (h : s.Inv k task) (hstep : StreamStep s t) : t.Inv k task := by
  cases hstep with
  | work hmove => exact h.work hmove
  | leave => exact { h with complete := nofun }
  | askRefresh hrunning =>
    unfold StreamState.askRefresh PollWorker.flagRefresh
    rw [if_neg (by simp [hrunning])]
    exact h.flagged h.stopping
  | strikeRefresh => exact h.strike.flagged h.strike.stopping
  | askStop => exact h.flagged fun _ => rfl
  | strikeStop hstopping =>
    exact h.strike.flagged fun _ => h.strike.stopping hstopping

theorem run (h : s.Inv k task) (hrun : StreamRun s t) : t.Inv k task := by
  induction hrun with
  | refl => exact h
  | tail _ hstep ih => exact ih.step hstep

end Inv

end StreamState
end Dashboard
