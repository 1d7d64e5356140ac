/-
  Dashboard.Proofs.Poll.Applied
  ─────────────────────────────
  **QUALITY IS READ OFF THE POLLS THAT COUNTED.**

  A query keeps a result, a last success and a number of failures, each
  brought up to date when a completion counts.  All three can be read off the
  list of the polls that counted (`Query.Reflects`), and so can the quality
  that is derived from them; completions that did not count leave no trace.

  Main results:
    Reflects.complete  — a completion that counts adds a poll to the list
    quality_of_history — what is known of a panel, in every run
-/
import Dashboard.Poll.Quality
import Dashboard.Proofs.Poll.Tickets

namespace Dashboard

variable {α : Type}

/-! ## §1. Polls that counted. -/

/-- A poll that counted: what it gave, and when. -/
structure AppliedPoll (α : Type) where
  outcome : Except FetchError α
  ts : Int
  deriving DecidableEq

namespace AppliedPoll

/-- The payload of a poll that succeeded. -/
def success? (p : AppliedPoll α) : Option (Success α) :=
  match p.outcome with
  | .ok data => some ⟨data, p.ts⟩
  | .error _ => none

/-- The payload of the latest poll that succeeded. -/
def lastSuccess? (polls : List (AppliedPoll α)) : Option (Success α) :=
  (polls.filterMap success?).getLast?

/-- How many polls have failed since the latest success, or since the start. -/
def streak (polls : List (AppliedPoll α)) : Nat :=
  (polls.reverse.takeWhile fun p => p.success?.isNone).length

/-- The health of a panel with these polls, given what the widget reads from
the current payload. -/
def health (polls : List (AppliedPoll α)) (dataStatus : Option Health) (p : QualityPolicy) :
    Health :=
  match polls.getLast? with
  | none => .unknown
  | some last =>
    if last.success?.isSome then dataStatus.getD .ok
    else if max p.downAfterFailures 1 ≤ streak polls then .down
    else if polls.any fun poll => poll.success?.isSome then .degraded
    else .unknown

theorem lastSuccess?_concat (polls : List (AppliedPoll α)) (p : AppliedPoll α) :
    lastSuccess? (polls ++ [p]) = p.success?.or (lastSuccess? polls) := by
  unfold lastSuccess?
  rw [List.filterMap_append]
  cases hp : p.success? with
  | none => simp [hp]
  | some s => simp [hp]

theorem streak_concat (polls : List (AppliedPoll α)) (p : AppliedPoll α) :
    streak (polls ++ [p]) = if p.success?.isNone then streak polls + 1 else 0 := by
  unfold streak
  rw [List.reverse_append, List.reverse_singleton, List.singleton_append, List.takeWhile_cons]
  split <;> rfl

theorem isSome_lastSuccess? (polls : List (AppliedPoll α)) :
    (lastSuccess? polls).isSome = polls.any fun p => p.success?.isSome := by
  rw [Bool.eq_iff_iff, List.any_eq_true, lastSuccess?, List.getLast?_isSome, ne_eq,
    List.filterMap_eq_nil_iff]
  simp [Option.isSome_iff_ne_none]

end AppliedPoll

/-! ## §2. What a query keeps of them. -/

namespace Query

open AppliedPoll

/-- The number of failures is held within 32 bits. -/
def failureLimit : Nat := 0xFFFFFFFF

/-- A query knows these polls and no others. -/
structure Reflects (q : Query α) (polls : List (AppliedPoll α)) : Prop where
  lastSuccess : q.lastSuccess = lastSuccess? polls
  failures : q.failures = min (streak polls) failureLimit
  completed : q.hasCompleted = polls.getLast?.isSome
  ok : q.result.ok = (polls.getLast?.bind success?).isSome
  data : q.result.data = (polls.getLast?.bind success?).map (·.data)

variable {q : Query α} {polls : List (AppliedPoll α)}

theorem reflects_fresh (created : Int) : (fresh created : Query α).Reflects [] :=
  ⟨rfl, rfl, rfl, rfl, rfl⟩

/-- The number issued last says nothing of polls. -/
theorem Reflects.withIssued (h : q.Reflects polls) (n : Nat) :
    Reflects { q with issued := n } polls :=
  ⟨h.lastSuccess, h.failures, h.completed, h.ok, h.data⟩

theorem nextFailures_min (n : Nat) :
    nextFailures (min n failureLimit) = min (n + 1) failureLimit := by
  unfold nextFailures failureLimit
  omega

/-- A completion that counts is one more poll. -/
theorem Reflects.complete (h : q.Reflects polls) {n : Nat} (ha : q.accepts n = true)
    (outcome : Except FetchError α) (ts : Int) :
    (q.complete n outcome ts).2.Reflects (polls ++ [⟨outcome, ts⟩]) := by
  obtain ⟨-, hn⟩ := accepts_eq_true_iff.mp ha
  have hpositive : decide (0 < n) = true := decide_eq_true (by omega)
  unfold Query.complete
  rw [if_pos ha]
  cases outcome with
  | ok data =>
    refine ⟨?_, ?_, ?_, ?_, ?_⟩
    · rw [lastSuccess?_concat]
      rfl
    · rw [streak_concat]
      rfl
    · rw [List.getLast?_concat]
      exact hpositive
    · rw [List.getLast?_concat]
      rfl
    · rw [List.getLast?_concat]
      rfl
  | error e =>
    refine ⟨?_, ?_, ?_, ?_, ?_⟩
    · rw [lastSuccess?_concat]
      exact h.lastSuccess
    · rw [streak_concat]
      show nextFailures q.failures = min (streak polls + 1) failureLimit
      rw [h.failures, nextFailures_min]
    · rw [List.getLast?_concat]
      exact hpositive
    · rw [List.getLast?_concat]
      rfl
    · rw [List.getLast?_concat]
      rfl

/-- What a panel shows is the payload of the latest success, whatever failed
since. -/
theorem Reflects.source?_eq (h : q.Reflects polls) :
    q.source? = (lastSuccess? polls).map (·.data) := by
  unfold source?
  rw [h.data, h.lastSuccess]
  rcases List.eq_nil_or_concat polls with rfl | ⟨before, last, rfl⟩
  · rfl
  · rw [List.concat_eq_append, List.getLast?_concat, lastSuccess?_concat, Option.bind_some]
    -- what the latest poll gave stands in front of both sides
    cases last.success? <;> rfl

/-- A word as threshold is reached by the number of failures that is kept
exactly if it is reached by their true number. -/
theorem Reflects.le_failures_iff (h : q.Reflects polls) {p : QualityPolicy}
    (hword : p.downAfterFailures ≤ failureLimit) :
    max p.downAfterFailures 1 ≤ q.failures ↔ max p.downAfterFailures 1 ≤ streak polls := by
  have hone : 1 ≤ failureLimit := by decide
  rw [h.failures]
  omega

theorem Reflects.derive_eq (h : q.Reflects polls) (dataStatus : Option Health)
    {p : QualityPolicy} (hword : p.downAfterFailures ≤ failureLimit) :
    Quality.derive q dataStatus p =
      ⟨health polls dataStatus p, (lastSuccess? polls).map (·.ts)⟩ := by
  unfold Quality.derive health
  -- what the query keeps is put in terms of the polls; then both sides ask the same questions
  simp only [h.completed, h.ok, h.le_failures_iff hword, h.lastSuccess, Option.isSome_map,
    isSome_lastSuccess?]
  cases polls.getLast? <;> simp

end Query

/-! ## §3. Runs. -/

namespace LedgerQuery

open AppliedPoll Query

/-- The poll that counts by a call, if one does. -/
def pollOf (s : LedgerQuery α) : QueryCall α → List (AppliedPoll α)
  | .complete n outcome ts =>
    if (s.query.complete n outcome ts).1 = .applied then [⟨outcome, ts⟩] else []
  | .begin | .mark _ => []

/-- The polls that count in a run, in the order in which they did. -/
def history (s : LedgerQuery α) : List (QueryCall α) → List (AppliedPoll α)
  | [] => []
  | c :: rest => s.pollOf c ++ (s.after c).history rest

variable {s : LedgerQuery α} {polls : List (AppliedPoll α)}

theorem reflects_after (h : s.query.Reflects polls) (c : QueryCall α) :
    (s.after c).query.Reflects (polls ++ s.pollOf c) := by
  cases c with
  | begin =>
    rw [pollOf, List.append_nil]
    exact h.withIssued _
  | mark n =>
    rw [pollOf, List.append_nil]
    exact h.withIssued _
  | complete n outcome ts =>
    unfold after pollOf
    dsimp only
    split
    next q hq =>
      have ha : s.query.accepts n = true :=
        (complete_eq_applied_iff outcome ts).mp (by rw [hq])
      have hnext := h.complete ha outcome ts
      rw [hq] at hnext ⊢
      exact hnext
    -- a completion that does not count leaves the query as it was
    next q hq =>
      have hsame := s.query.complete_superseded n outcome ts (by rw [hq])
      rw [hq] at hsame ⊢
      obtain rfl : q = s.query := hsame
      rw [if_neg nofun, List.append_nil]
      exact h

theorem reflects_run (h : s.query.Reflects polls) (calls : List (QueryCall α)) :
    (s.run calls).query.Reflects (polls ++ s.history calls) := by
  -- along the calls, with the polls that counted so far
  induction calls generalizing s polls with
  | nil =>
    rw [history, List.append_nil]
    exact h
  | cons c rest ih =>
    rw [history, ← List.append_assoc]
    exact ih (reflects_after h c)

/-- **Quality is a function of the polls that counted.**  After any calls, with
whatever numbers and in whatever order: the last success is that of the latest
poll that succeeded, and its payload is what there is to show; the failures are
those since, as far as a word counts them; and the quality is UNKNOWN before
the first poll, after a success what the widget reads, and after a failure DOWN
once the failures in a row have reached the threshold, else DEGRADED if any
poll ever succeeded, else UNKNOWN, with the time of the last success. -/
theorem quality_of_history (created : Int) (calls : List (QueryCall α))
    (dataStatus : Option Health) (p : QualityPolicy)
    (hword : p.downAfterFailures ≤ failureLimit) :
    let q := ((start created).run calls).query
    let polls := (start created).history calls
    q.lastSuccess = lastSuccess? polls ∧
    q.failures = min (streak polls) failureLimit ∧
    q.source? = (lastSuccess? polls).map (·.data) ∧
    Quality.derive q dataStatus p =
      ⟨health polls dataStatus p, (lastSuccess? polls).map (·.ts)⟩ := by
  intro q polls
  have h : q.Reflects ([] ++ polls) :=
    reflects_run (s := start created) (reflects_fresh created) calls
  rw [List.nil_append] at h
  exact ⟨h.lastSuccess, h.failures, h.source?_eq, h.derive_eq dataStatus hword⟩

/-- A success, two failures, and between them the answer to a request that a
worker's has replaced. -/
def failingCalls : List (QueryCall Nat) :=
  [.begin, .complete 1 (.ok 10) 5, .begin, .mark 3, .complete 2 (.ok 20) 6,
    .complete 3 (.error .cancelled) 7, .begin, .complete 4 (.error (.status 503)) 8]

/-- The replaced request has left no trace: the panel is down after two
failures in a row, and shows the payload from before. -/
theorem quality_after_failures :
    let q := ((start 0).run failingCalls).query
    QualityPolicy.downAfterFailures ⟨2, 30000⟩ ≤ failureLimit ∧
      q.lastSuccess = some ⟨10, 5⟩ ∧ q.failures = 2 ∧ q.source? = some 10 ∧
      Quality.derive q (some .ok) ⟨2, 30000⟩ = ⟨.down, some 5⟩ := by
  have hword : QualityPolicy.downAfterFailures ⟨2, 30000⟩ ≤ failureLimit := by decide
  obtain ⟨hsuccess, hfailures, hsource, hquality⟩ :=
    quality_of_history 0 failingCalls (some .ok) ⟨2, 30000⟩ hword
  have hpolls : (start 0).history failingCalls =
      [⟨.ok 10, 5⟩, ⟨.error .cancelled, 7⟩, ⟨.error (.status 503), 8⟩] := by decide
  rw [hpolls] at hsuccess hfailures hsource hquality
  exact ⟨hword, hsuccess, hfailures, hsource, hquality⟩

end LedgerQuery
end Dashboard
