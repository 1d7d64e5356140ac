/-
  Dashboard.Proofs.Poll.Refresh
  ─────────────────────────────
  **WHICH REFRESHES REACH A RESULT.**

  A call for a refresh has two halves: it asks for another poll, and it strikes
  the request under way.  The worker may begin a request between the two.  That
  request answers the call, yet the call's second half strikes it: it is
  dropped, nothing is asked for any more, and the worker sleeps out its
  interval.

  The worker and any number of calls take indivisible steps in any order; who
  asked and who struck is written down (`RefreshStep`).  One invariant says how
  the flags of the worker stand to what is written down.

  Main results:
    Inv.step            — what every step preserves
    slept_completed_iff — which requests have a result when the worker sleeps
    late_strike_loses   — one that has none
-/
import Dashboard.Poll.Pool
import Mathlib.Logic.Relation

namespace Dashboard

/-! ## §1. Steps. -/

/-- A call that has struck a request, with the number of requests that had
begun when it asked. -/
structure Strike where
  asked : Nat
  request : Nat
  deriving DecidableEq, Repr

/-- A worker, the calls for a refresh, and what was reported.  A call is known
by the number of requests that had begun when it asked. -/
structure RefreshState where
  worker : PollWorker
  /-- All calls that have asked. -/
  asked : List Nat
  /-- Those that have not struck. -/
  halfway : List Nat
  strikes : List Strike
  sent : List PollMessage

namespace RefreshState

/-- A worker that has done nothing, and no calls. -/
def start (id : Nat) (task : PollTask) : RefreshState := ⟨.fresh id task, [], [], [], []⟩

/-- The worker goes on, perhaps with a report. -/
def reports (s : RefreshState) (r : Option PollMessage × PollWorker) : RefreshState :=
  { s with worker := r.2, sent := s.sent ++ r.1.toList }

/-- A call asks for a poll. -/
def ask (s : RefreshState) : RefreshState :=
  { s with
    worker := s.worker.flagRefresh
    asked := s.worker.issued :: s.asked, halfway := s.worker.issued :: s.halfway }

/-- A call strikes the request under way, if there is one. -/
def strike (s : RefreshState) (a : Nat) : RefreshState :=
  { s with
    worker := s.worker.abort
    halfway := s.halfway.erase a
    strikes := if s.worker.armed then ⟨a, s.worker.issued⟩ :: s.strikes else s.strikes }

/-- The request of a number was reported as completed. -/
def Completed (s : RefreshState) (n : Nat) : Prop :=
  ∃ m ∈ s.sent, m.request = n ∧ ∃ outcome ts, m.report = .completed outcome ts

end RefreshState

open RefreshState

/-- One indivisible step of the worker or of a call; nobody stops the worker. -/
inductive RefreshStep : RefreshState → RefreshState → Prop where
  | begin {s} : s.worker.point = .starting → RefreshStep s { s with worker := s.worker.begin }
  | announce {s} (listening : Bool) : s.worker.point = .sending →
      RefreshStep s (s.reports (s.worker.announce listening))
  | arrive {s} (outcome : Outcome) : s.worker.point = .fetching →
      RefreshStep s { s with worker := s.worker.arrive outcome }
  | conclude {s outcome} (ts : Int) (listening : Bool) : s.worker.point = .deciding outcome →
      RefreshStep s (s.reports (s.worker.conclude outcome ts listening))
  | rest {s} : s.worker.point = .resting → RefreshStep s { s with worker := s.worker.rest }
  | wake {s} : s.worker.point = .asleep → RefreshStep s { s with worker := s.worker.wake }
  | ask {s} : RefreshStep s s.ask
  | strike {s} (a : Nat) : a ∈ s.halfway → RefreshStep s (s.strike a)

/-- A run of such steps. -/
abbrev RefreshRun : RefreshState → RefreshState → Prop := Relation.ReflTransGen RefreshStep

namespace RefreshState

theorem reports_none (s : RefreshState) (w : PollWorker) :
    s.reports (none, w) = { s with worker := w } := by
  simp [reports]

/-- The steps of a pool are steps of its workers. -/
theorem step_of_advance (s : RefreshState) (script : Script) (ts : Int)
    (hgoing : s.worker.point ≠ .finished) :
    RefreshStep s (s.reports ((Pool.advance script ts s.worker).1,
      (Pool.advance script ts s.worker).2.1)) := by
  unfold Pool.advance
  split
  next hpoint =>
    rw [reports_none]
    exact .begin hpoint
  next hpoint => exact .announce true hpoint
  next hpoint =>
    split
    next =>
      rw [reports_none]
      exact .arrive (.error .cancelled) hpoint
    next =>
      rw [reports_none]
      exact .arrive _ hpoint
  next outcome hpoint => exact .conclude ts true hpoint
  next hpoint =>
    rw [reports_none]
    exact .rest hpoint
  next hpoint =>
    rw [reports_none]
    exact .wake hpoint
  next hpoint => exact absurd hpoint hgoing

/-- A pool's refresh is a call whose halves nothing comes between. -/
theorem run_refreshNow (s : RefreshState) (hrunning : s.worker.stopped = false) :
    RefreshRun s (s.ask.strike s.worker.issued) ∧
      (s.ask.strike s.worker.issued).worker = s.worker.refreshNow ∧
      (s.ask.strike s.worker.issued).halfway = s.halfway := by
  refine ⟨?_, ?_, ?_⟩
  · exact (Relation.ReflTransGen.single .ask).tail (.strike s.worker.issued List.mem_cons_self)
  · show s.worker.flagRefresh.abort = _
    unfold PollWorker.refreshNow
    rw [if_neg (by simp [hrunning])]
  · exact List.erase_cons_head _ _

end RefreshState

/-- A step at which no request begins while a call is halfway. -/
def CalmStep (s t : RefreshState) : Prop :=
  RefreshStep s t ∧ (s.halfway = [] ∨ t.worker.issued = s.worker.issued)

/-! ## §2. The flags of the worker. -/

namespace WorkerPoint

/-- A request can be struck. -/
def IsExposed : WorkerPoint → Prop
  | .sending | .fetching => True
  | _ => False

/-- A request is under way. -/
def IsUnderway : WorkerPoint → Prop
  | .sending | .fetching | .deciding _ => True
  | _ => False

/-- A request is over and none has begun since. -/
def IsOver : WorkerPoint → Prop
  | .resting | .asleep => True
  | _ => False

theorem IsExposed.not_over {p : WorkerPoint} (h : p.IsExposed) : ¬p.IsOver := by
  cases p <;> first | exact h.elim | exact id

end WorkerPoint

namespace RefreshState

variable {s t : RefreshState}

/-- How the worker's flags stand to what was written down. -/
structure Inv (s : RefreshState) : Prop where
  running : s.worker.stopped = false
  asked_le : ∀ a ∈ s.asked, a ≤ s.worker.issued
  halfway_asked : ∀ a ∈ s.halfway, a ∈ s.asked
  strikes_asked : ∀ x ∈ s.strikes, x.asked ∈ s.asked
  strikes_le : ∀ x ∈ s.strikes, x.request ≤ s.worker.issued
  sent_le : ∀ m ∈ s.sent, m.request ≤ s.worker.issued
  /-- While no refresh is wanted, a request has begun since every call. -/
  answered : s.worker.refresh = false → ∀ a ∈ s.asked, a < s.worker.issued
  /-- The latest request is aborted when a call has struck it. -/
  aborted_iff : s.worker.aborted = true ↔ ∃ x ∈ s.strikes, x.request = s.worker.issued
  armed : s.worker.armed = true → s.worker.point.IsExposed
  underway : s.worker.point.IsUnderway → ¬s.Completed s.worker.issued
  settled : s.worker.point.IsOver → (s.Completed s.worker.issued ↔ s.worker.aborted = false)
  /-- The calls that struck the request before a sleep had asked before it began. -/
  late : s.worker.point = .asleep →
    ∀ x ∈ s.strikes, x.request = s.worker.issued → x.asked < s.worker.issued

theorem inv_start (id : Nat) (task : PollTask) : (start id task).Inv where
  running := rfl
  asked_le := nofun
  halfway_asked := nofun
  strikes_asked := nofun
  strikes_le := nofun
  sent_le := nofun
  answered := fun _ => nofun
  aborted_iff := by simp [start, PollWorker.fresh]
  armed := nofun
  underway := nofun
  settled := nofun
  late := nofun

namespace Inv

theorem begin (h : s.Inv) : Inv { s with worker := s.worker.begin } := by
  have hbegin : s.worker.begin = { s.worker with
      refresh := false, armed := true, aborted := false, issued := s.worker.issued + 1
      point := .sending } := if_neg (by simp [h.running])
  rw [hbegin]
  have hunstruck : ¬∃ x ∈ s.strikes, x.request = s.worker.issued + 1 := by
    rintro ⟨x, hx, hrequest⟩
    have := h.strikes_le x hx
    omega
  exact {
    running := h.running
    asked_le := fun a ha => Nat.le_succ_of_le (h.asked_le a ha)
    halfway_asked := h.halfway_asked
    strikes_asked := h.strikes_asked
    strikes_le := fun x hx => Nat.le_succ_of_le (h.strikes_le x hx)
    sent_le := fun m hm => Nat.le_succ_of_le (h.sent_le m hm)
    answered := fun _ a ha => Nat.lt_succ_of_le (h.asked_le a ha)
    aborted_iff := iff_of_false Bool.false_ne_true hunstruck
    armed := fun _ => trivial
    underway := by
      rintro - ⟨m, hm, hrequest, -⟩
      have := h.sent_le m hm
      simp only at hrequest
      omega
    settled := nofun
    late := nofun }

/-- Where no request can be struck, the worker may go anywhere. -/
theorem unarmed (h : s.Inv) (hpoint : ¬s.worker.point.IsExposed) (point : WorkerPoint) :
    s.worker.armed = true → point.IsExposed :=
  fun harmed => absurd (h.armed harmed) hpoint

/-- A step of the worker that begins nothing leaves its numbers and flags, its
place aside. -/
theorem goesOn (h : s.Inv) {armed : Bool} {point : WorkerPoint} {sent : List PollMessage}
    (hsent : ∀ m ∈ sent, m.request ≤ s.worker.issued)
    (harmed : armed = true → point.IsExposed)
    (hunderway : point.IsUnderway → ¬{ s with sent }.Completed s.worker.issued)
    (hover : point.IsOver →
      ({ s with sent }.Completed s.worker.issued ↔ s.worker.aborted = false))
    (hlate : point = .asleep →
      ∀ x ∈ s.strikes, x.request = s.worker.issued → x.asked < s.worker.issued) :
    Inv { s with worker := { s.worker with armed, point }, sent } :=
  { h with
    sent_le := hsent
    armed := harmed
    underway := hunderway
    settled := hover
    late := hlate }

theorem announce (h : s.Inv) (hpoint : s.worker.point = .sending) (listening : Bool) :
    (s.reports (s.worker.announce listening)).Inv := by
  have hopen : ¬s.Completed s.worker.issued := h.underway (by rw [hpoint]; trivial)
  cases listening with
  | true =>
    refine h.goesOn ?_ (fun _ => trivial) ?_ nofun nofun
    · intro m hm
      rcases List.mem_append.mp hm with hm | hm
      · exact h.sent_le m hm
      · rw [List.mem_singleton.mp hm]
        exact Nat.le_refl _
    · -- the message says that the request is issued
      rintro - ⟨m, hm, hrequest, outcome, ts, hreport⟩
      rcases List.mem_append.mp hm with hm | hm
      · exact hopen ⟨m, hm, hrequest, outcome, ts, hreport⟩
      · rw [List.mem_singleton.mp hm] at hreport
        exact nomatch hreport
  | false =>
    refine h.goesOn ?_ nofun nofun nofun nofun
    intro m hm
    exact h.sent_le m (by simpa [PollWorker.announce] using hm)

theorem arrive (h : s.Inv) (hpoint : s.worker.point = .fetching) (outcome : Outcome) :
    Inv { s with worker := s.worker.arrive outcome } := by
  refine h.goesOn h.sent_le nofun (fun _ => ?_) nofun nofun
  exact h.underway (by rw [hpoint]; trivial)

theorem conclude (h : s.Inv) {outcome : Outcome} (hpoint : s.worker.point = .deciding outcome)
    (ts : Int) (listening : Bool) :
    (s.reports (s.worker.conclude outcome ts listening)).Inv := by
  have hopen : ¬s.Completed s.worker.issued := h.underway (by rw [hpoint]; trivial)
  have hunarmed := h.unarmed (by rw [hpoint]; exact id)
  cases haborted : s.worker.aborted with
  | true =>
    -- nothing is reported
    have hconclude : s.worker.conclude outcome ts listening =
        (none, { s.worker with point := .resting }) := if_pos haborted
    rw [hconclude]
    refine h.goesOn ?_ (hunarmed _) nofun (fun _ => ?_) nofun
    · simpa using h.sent_le
    · rw [haborted]
      exact iff_of_false (by simpa [Completed] using hopen) nofun
  | false =>
    cases listening with
    | true =>
      let m := s.worker.message (.completed outcome ts)
      have hconclude : s.worker.conclude outcome ts true =
          (some m, { s.worker with point := .resting }) := by
        simp [PollWorker.conclude, haborted, m]
      rw [hconclude]
      refine h.goesOn ?_ (hunarmed _) nofun (fun _ => ?_) nofun
      · intro m hm
        rcases List.mem_append.mp hm with hm | hm
        · exact h.sent_le m hm
        · rw [List.mem_singleton.mp hm]
          exact Nat.le_refl _
      · have hm : m ∈ s.sent ++ [m] := List.mem_append_right _ (List.mem_singleton_self m)
        exact iff_of_true ⟨m, hm, rfl, outcome, ts, rfl⟩ haborted
    | false =>
      have hconclude : s.worker.conclude outcome ts false =
          (none, { s.worker with point := .finished }) := by
        simp [PollWorker.conclude, haborted]
      rw [hconclude]
      refine h.goesOn ?_ (hunarmed _) nofun nofun nofun
      simpa using h.sent_le

theorem rest (h : s.Inv) (hpoint : s.worker.point = .resting) :
    Inv { s with worker := s.worker.rest } := by
  have hover := h.settled (by rw [hpoint]; trivial)
  have hunarmed := h.unarmed (by rw [hpoint]; exact id)
  cases hrefresh : s.worker.refresh with
  | true =>
    have hrest : s.worker.rest = { s.worker with point := .starting } := by
      simp [PollWorker.rest, h.running, hrefresh]
    rw [hrest]
    exact h.goesOn h.sent_le (hunarmed _) nofun nofun nofun
  | false =>
    have hrest : s.worker.rest = { s.worker with point := .asleep } := by
      simp [PollWorker.rest, h.running, hrefresh]
    rw [hrest]
    refine h.goesOn h.sent_le (hunarmed _) nofun (fun _ => hover) ?_
    -- no refresh is wanted, so a request has begun since every call
    intro _ x hx _
    exact h.answered hrefresh x.asked (h.strikes_asked x hx)

theorem wake (h : s.Inv) (hpoint : s.worker.point = .asleep) :
    Inv { s with worker := s.worker.wake } := by
  have hunarmed := h.unarmed (by rw [hpoint]; exact id)
  have hwake : s.worker.wake = { s.worker with point := .starting } := by
    simp [PollWorker.wake, h.running]
  rw [hwake]
  exact h.goesOn h.sent_le (hunarmed _) nofun nofun nofun

theorem ask (h : s.Inv) : s.ask.Inv := by
  have hflag : s.worker.flagRefresh = { s.worker with refresh := true } :=
    if_neg (by simp [h.running])
  unfold RefreshState.ask
  rw [hflag]
  exact { h with
    asked_le := fun a ha => by
      rcases List.mem_cons.mp ha with rfl | ha
      · exact Nat.le_refl _
      · exact h.asked_le a ha
    halfway_asked := fun a ha => by
      rcases List.mem_cons.mp ha with rfl | ha
      · exact List.mem_cons_self
      · exact List.mem_cons_of_mem _ (h.halfway_asked a ha)
    strikes_asked := fun x hx => List.mem_cons_of_mem _ (h.strikes_asked x hx)
    answered := nofun }

theorem strike (h : s.Inv) {a : Nat} (ha : a ∈ s.halfway) : (s.strike a).Inv := by
  unfold RefreshState.strike PollWorker.abort
  cases harmed : s.worker.armed with
  | true =>
    have hexposed := h.armed harmed
    rw [if_pos rfl, if_pos rfl]
    exact { h with
      halfway_asked := fun b hb => h.halfway_asked b (List.mem_of_mem_erase hb)
      strikes_asked := by
        intro x hx
        rcases List.mem_cons.mp hx with rfl | hx
        · exact h.halfway_asked a ha
        · exact h.strikes_asked x hx
      strikes_le := by
        intro x hx
        rcases List.mem_cons.mp hx with rfl | hx
        · exact Nat.le_refl _
        · exact h.strikes_le x hx
      aborted_iff := iff_of_true rfl ⟨_, List.mem_cons_self, rfl⟩
      armed := fun _ => hexposed
      -- a request that can be struck is not over
      settled := fun hover => (hexposed.not_over hover).elim
      late := by
        intro hasleep
        refine (hexposed.not_over ?_).elim
        rw [show s.worker.point = .asleep from hasleep]
        trivial }
  | false =>
    rw [if_neg Bool.false_ne_true, if_neg Bool.false_ne_true]
    exact { h with halfway_asked := fun b hb => h.halfway_asked b (List.mem_of_mem_erase hb) }

theorem step (h : s.Inv) (hstep : RefreshStep s t) : t.Inv := by
  cases hstep with
  | begin => exact h.begin
  | announce listening hpoint => exact h.announce hpoint listening
  | arrive outcome hpoint => exact h.arrive hpoint outcome
  | conclude ts listening hpoint => exact h.conclude hpoint ts listening
  | rest hpoint => exact h.rest hpoint
  | wake hpoint => exact h.wake hpoint
  | ask => exact h.ask
  | strike a ha => exact h.strike ha

theorem run (h : s.Inv) (hrun : RefreshRun s t) : t.Inv := by
  induction hrun with
  | refl => exact h
  | tail _ hstep ih => exact ih.step hstep

end Inv

/-! ## §3. Calm runs. -/

/-- Every call strikes the request that was the latest one when it asked. -/
structure Timely (s : RefreshState) : Prop where
  halfway : ∀ a ∈ s.halfway, a = s.worker.issued
  strikes : ∀ x ∈ s.strikes, x.asked = x.request

theorem timely_start (id : Nat) (task : PollTask) : (start id task).Timely := ⟨nofun, nofun⟩

theorem Timely.step (h : s.Timely) (hcalm : CalmStep s t) : t.Timely := by
  obtain ⟨hstep, hnone⟩ := hcalm
  -- a step of the worker, at which no call is halfway or no request begins
  have hworker : t.halfway = s.halfway → t.strikes = s.strikes → t.Timely := by
    intro hhalfway hstrikes
    refine ⟨?_, hstrikes ▸ h.strikes⟩
    intro a ha
    rw [hhalfway] at ha
    rcases hnone with hnone | hsame
    · rw [hnone] at ha
      exact nomatch ha
    · rw [hsame]
      exact h.halfway a ha
  cases hstep with
  | begin => exact hworker rfl rfl
  | announce => exact hworker rfl rfl
  | arrive => exact hworker rfl rfl
  | conclude => exact hworker rfl rfl
  | rest => exact hworker rfl rfl
  | wake => exact hworker rfl rfl
  | ask =>
    have hissued : s.ask.worker.issued = s.worker.issued := by
      show s.worker.flagRefresh.issued = _
      unfold PollWorker.flagRefresh
      split <;> rfl
    refine ⟨?_, h.strikes⟩
    rw [hissued]
    intro a ha
    rcases List.mem_cons.mp ha with rfl | ha
    · rfl
    · exact h.halfway a ha
  | strike a ha =>
    have hissued : (s.strike a).worker.issued = s.worker.issued := by
      show s.worker.abort.issued = _
      unfold PollWorker.abort
      split <;> rfl
    refine ⟨?_, ?_⟩
    · rw [hissued]
      intro b hb
      exact h.halfway b (List.mem_of_mem_erase hb)
    · intro x hx
      unfold RefreshState.strike at hx
      dsimp only at hx
      split at hx
      next =>
        rcases List.mem_cons.mp hx with rfl | hx
        · exact h.halfway a ha
        · exact h.strikes x hx
      next => exact h.strikes x hx

theorem Timely.run (h : s.Timely) (hrun : Relation.ReflTransGen CalmStep s t) : t.Timely := by
  induction hrun with
  | refl => exact h
  | tail _ hstep ih => exact ih.step hstep

/-! ## §4. Sleep. -/

/-- **Which requests have a result.**  When the worker sleeps, its latest
request was reported as completed exactly if it was not aborted, and exactly
if no call struck it that had asked before it began; hence whenever no request
ever begins while a call is halfway.  While it sleeps and no refresh is wanted,
a request has begun since every call. -/
theorem slept_completed_iff (id : Nat) (task : PollTask) (hrun : RefreshRun (start id task) s)
    (hasleep : s.worker.point = .asleep) :
    (s.Completed s.worker.issued ↔ s.worker.aborted = false) ∧
    (s.Completed s.worker.issued ↔
      ¬∃ x ∈ s.strikes, x.request = s.worker.issued ∧ x.asked < s.worker.issued) ∧
    (Relation.ReflTransGen CalmStep (start id task) s → s.Completed s.worker.issued) ∧
    (s.worker.refresh = false → ∀ a ∈ s.asked, a < s.worker.issued) := by
  have h : s.Inv := (inv_start id task).run hrun
  have hover : s.Completed s.worker.issued ↔ s.worker.aborted = false :=
    h.settled (by rw [hasleep]; trivial)
  have hlate : s.Completed s.worker.issued ↔
      ¬∃ x ∈ s.strikes, x.request = s.worker.issued ∧ x.asked < s.worker.issued := by
    rw [hover, ← Bool.not_eq_true, h.aborted_iff]
    refine not_congr ⟨?_, ?_⟩
    · rintro ⟨x, hx, hrequest⟩
      exact ⟨x, hx, hrequest, h.late hasleep x hx hrequest⟩
    · rintro ⟨x, hx, hrequest, -⟩
      exact ⟨x, hx, hrequest⟩
  refine ⟨hover, hlate, ?_, h.answered⟩
  intro hcalm
  have htimely := (timely_start id task).run hcalm
  rw [hlate]
  rintro ⟨x, hx, hrequest, hasked⟩
  have := htimely.strikes x hx
  omega

/-- A worker that polls every ten minutes. -/
def slowTask : PollTask := ⟨"p", "/slow", 600000, 7000⟩

/-- A refresh that aborts the first request: the second one has a result. -/
theorem second_request_completes :
    ∃ s, RefreshRun (start 1 slowTask) s ∧ s.worker.point = .asleep ∧ s.worker.issued = 2 ∧
      s.strikes = [⟨1, 1⟩] ∧ s.Completed 2 := by
  have r := Relation.ReflTransGen.single (RefreshStep.begin (s := start 1 slowTask) rfl)
  have r := (r.tail (.announce true rfl)).tail .ask
  have r := r.tail (.strike 1 List.mem_cons_self)
  have r := (r.tail (.arrive (.error .cancelled) rfl)).tail (.conclude 5 true rfl)
  have r := (r.tail (.rest rfl)).tail (.begin rfl)
  have r := ((r.tail (.announce true rfl)).tail (.arrive (.ok .null) rfl)).tail
    (.conclude 6 true rfl)
  have r : RefreshRun (start 1 slowTask) _ := r.tail (.rest rfl)
  obtain ⟨-, hlate, -⟩ := slept_completed_iff 1 slowTask r rfl
  refine ⟨_, r, rfl, rfl, rfl, hlate.mpr ?_⟩
  rintro ⟨x, hx, hrequest, -⟩
  rw [List.mem_singleton.mp hx] at hrequest
  exact absurd hrequest (by decide)

/-- A worker that begins between the two halves of a call: the call strikes
the request that answers it.  No call is left and none wanted, and the worker
sleeps without a result. -/
theorem late_strike_loses :
    ∃ s, RefreshRun (start 1 slowTask) s ∧ s.worker.point = .asleep ∧ s.worker.refresh = false ∧
      s.halfway = [] ∧ s.worker.issued = 1 ∧ s.worker.aborted = true ∧ ¬s.Completed 1 := by
  have r := Relation.ReflTransGen.single (RefreshStep.ask (s := start 1 slowTask))
  have r := (r.tail (.begin rfl)).tail (.announce true rfl)
  have r := r.tail (.strike 0 List.mem_cons_self)
  have r := (r.tail (.arrive (.error .cancelled) rfl)).tail (.conclude 5 true rfl)
  have r : RefreshRun (start 1 slowTask) _ := r.tail (.rest rfl)
  refine ⟨_, r, rfl, rfl, rfl, rfl, rfl, ?_⟩
  rintro ⟨m, hm, -, outcome, ts, hreport⟩
  rw [List.mem_singleton.mp hm] at hreport
  exact nomatch hreport

end RefreshState
end Dashboard
