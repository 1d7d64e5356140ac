/-
  Dashboard.Poll.Worker
  ─────────────────────
  A worker that polls one endpoint for one panel.

  The worker polls at once, then again after every interval, and reports each
  request when it is issued and when it is completed.  Its owner may ask for a
  refresh, which aborts the request under way and starts another at once, or
  stop it.  An aborted request is never reported as completed.

  Every function here is one indivisible step: the worker and its owner may
  interleave between any two of them.
-/
import Dashboard.Poll.Fetch

namespace Dashboard

/-! ## §1. Messages. -/

/-- What is reported about a request. -/
inductive PollReport where
  | issued
  | completed (outcome : Outcome) (ts : Int)

/-- A report of a worker: for which panel, and which of its requests. -/
structure PollMessage where
  worker : Nat
  panel : String
  request : Nat
  report : PollReport

/-! ## §2. Workers. -/

/-- What a worker does next. -/
inductive WorkerPoint where
  /-- Begin a request. -/
  | starting
  /-- Report the request as issued. -/
  | sending
  /-- Wait for the answer. -/
  | fetching
  /-- Report the outcome, unless the request was aborted. -/
  | deciding (outcome : Outcome)
  /-- Look whether to go on at once. -/
  | resting
  /-- Sleep for the interval. -/
  | asleep
  /-- Nothing any more. -/
  | finished

/-- What a worker polls, and how often; times in milliseconds. -/
structure PollTask where
  panel : String
  endpoint : String
  interval : Nat
  timeout : Nat
  deriving DecidableEq, Repr

/-- A worker. -/
structure PollWorker where
  id : Nat
  task : PollTask
  /-- The owner wants no more polls. -/
  stopped : Bool
  /-- The owner wants a poll at once. -/
  refresh : Bool
  /-- A request is under way that the owner can abort. -/
  armed : Bool
  /-- The latest request was aborted. -/
  aborted : Bool
  /-- The number of the latest request. -/
  issued : Nat
  point : WorkerPoint

namespace PollWorker

/-- A worker that has done nothing yet. -/
def fresh (id : Nat) (task : PollTask) : PollWorker :=
  ⟨id, task, false, false, false, false, 0, .starting⟩

/-! ## §3. The worker's steps. -/

/-- Begin the next request, unless stopped. -/
def begin (w : PollWorker) : PollWorker :=
  if w.stopped then { w with point := .finished }
  else
    { w with
      refresh := false, armed := true, aborted := false, issued := w.issued + 1
      point := .sending }

/-- A message about the latest request. -/
def message (w : PollWorker) (report : PollReport) : PollMessage :=
  ⟨w.id, w.task.panel, w.issued, report⟩

/-- Report the request as issued; without anyone listening the work is over. -/
def announce (w : PollWorker) (listening : Bool) : Option PollMessage × PollWorker :=
  if listening then (some (w.message .issued), { w with point := .fetching })
  else (none, { w with armed := false, point := .finished })

/-- The answer is there. -/
def arrive (w : PollWorker) (outcome : Outcome) : PollWorker :=
  { w with armed := false, point := .deciding outcome }

/-- Report the outcome, unless the request was aborted. -/
def conclude (w : PollWorker) (outcome : Outcome) (ts : Int) (listening : Bool) :
    Option PollMessage × PollWorker :=
  if w.aborted then (none, { w with point := .resting })
  else if listening then
    (some (w.message (.completed outcome ts)), { w with point := .resting })
  else (none, { w with point := .finished })

/-- Go to sleep, unless the owner asked for something in the meantime. -/
def rest (w : PollWorker) : PollWorker :=
  if w.stopped then { w with point := .finished }
  else if w.refresh then { w with point := .starting }
  else { w with point := .asleep }

/-- The interval is over, or the owner has called. -/
def wake (w : PollWorker) : PollWorker :=
  { w with point := if w.stopped then .finished else .starting }

/-! ## §4. The owner's steps. -/

/-- Ask for a poll at once, unless stopped. -/
def flagRefresh (w : PollWorker) : PollWorker :=
  if w.stopped then w else { w with refresh := true }

/-- Ask for the end. -/
def flagStop (w : PollWorker) : PollWorker := { w with stopped := true }

/-- Abort the request under way, if there is one. -/
def abort (w : PollWorker) : PollWorker := if w.armed then { w with aborted := true } else w

/-- Ask for a poll at once and abort the request under way. -/
def refreshNow (w : PollWorker) : PollWorker :=
  if w.stopped then w else w.flagRefresh.abort

/-- Ask for the end and abort the request under way. -/
def stop (w : PollWorker) : PollWorker := w.flagStop.abort

end PollWorker
end Dashboard
