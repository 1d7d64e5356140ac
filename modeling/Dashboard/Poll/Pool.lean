/-
  Dashboard.Poll.Pool
  ───────────────────
  Workers at work: what they report, and when.

  The pool has a clock of its own that counts the milliseconds spent waiting.
  Each worker is due at some time; while the owner waits for a message, the
  worker that is due first makes its next step, and the clock goes on to that
  time.  Workers rest while nobody waits.  Requests are answered from a script.

  Each worker is a thread, which the system may refuse to start.
-/
import Dashboard.Poll.Worker

namespace Dashboard

/-- A worker and the time of its next step. -/
structure PooledWorker where
  worker : PollWorker
  due : Nat

/-- Which threads the system refuses to start, by the id of the worker, and
what it says. -/
abbrev Refusals := Nat → Option String

/-- No thread is refused. -/
def Refusals.none : Refusals := fun _ => Option.none

/-- Why a worker did not start. -/
inductive SpawnFailure where
  | refused (reason : String)
  /-- A thread is named for its panel.  A null character in the name stops the
  program. -/
  | unnameable
  deriving DecidableEq, Repr

/-- Workers in the order of their ids, the messages not yet received, where
requests are answered and which threads are refused. -/
structure Pool where
  workers : List PooledWorker
  lastId : Nat
  queue : List PollMessage
  script : Script
  clock : Nat
  refusals : Refusals

namespace Pool

/-- No workers. -/
def ofScript (script : Script) (refusals : Refusals) : Pool := ⟨[], 0, [], script, 0, refusals⟩

/-! ## §1. The owner's side. -/

/-- Why a worker would not start, if it would not. -/
def failure? (p : Pool) (id : Nat) (task : PollTask) : Option SpawnFailure :=
  if task.panel.toList.contains '\x00' then some .unnameable else (p.refusals id).map .refused

/-- Start a worker; gives its id, which no other worker of the pool has.  The id
is used up even if the worker does not start. -/
def spawn (p : Pool) (task : PollTask) : Except SpawnFailure Nat × Pool :=
  let id := p.lastId + 1
  match p.failure? id task with
  | some e => (.error e, { p with lastId := id })
  | none =>
    (.ok id, { p with
      workers := p.workers ++ [⟨.fresh id task, p.clock⟩], lastId := id })

/-- Do something to a worker; it notices at once. -/
def signal (p : Pool) (id : Nat) (f : PollWorker → PollWorker) : Pool :=
  { p with workers := p.workers.map fun s =>
      if s.worker.id = id then ⟨f s.worker, p.clock⟩ else s }

/-- Ask a worker to poll at once. -/
def refresh (p : Pool) (id : Nat) : Pool := p.signal id PollWorker.refreshNow

/-- Stop a worker. -/
def stop (p : Pool) (id : Nat) : Pool := p.signal id PollWorker.stop

/-! ## §2. The workers' side. -/

/-- The time of the next step after a step at a time. -/
def dueAfter (clock : Nat) (script : Script) (w : PollWorker) : Nat :=
  match w.point with
  | .fetching => clock + (script.delay w.task.timeout).1
  | .asleep => clock + w.task.interval
  | _ => clock

/-- The next step of a worker, with `ts` as the time that is reported. -/
def advance (script : Script) (ts : Int) (w : PollWorker) :
    Option PollMessage × PollWorker × Script :=
  match w.point with
  | .starting => (none, w.begin, script)
  | .sending =>
    let (m, w) := w.announce true
    (m, w, script.called)
  | .fetching =>
    -- an aborted call is answered without asking the script
    if w.aborted then (none, w.arrive (.error .cancelled), script)
    else
      let (outcome, script) := script.answer w.task.endpoint w.task.timeout
      (none, w.arrive outcome, script)
  | .deciding outcome =>
    let (m, w) := w.conclude outcome ts true
    (m, w, script)
  | .resting => (none, w.rest, script)
  | .asleep => (none, w.wake, script)
  | .finished => (none, w, script)

/-- A bound on the steps of a worker up to its next message or its end. -/
def rank (w : PollWorker) : Nat :=
  match w.point with
  | .finished => 0
  | .sending => 1
  | .starting => 2
  | .asleep => 3
  | .resting => 4
  | .deciding _ => 5
  | .fetching => 6

/-- Whether a worker has ended. -/
def isFinished (w : PollWorker) : Bool := rank w == 0

/-- The worker that is due first, of several the one started first. -/
def next? (p : Pool) : Option PooledWorker :=
  (p.workers.filter fun s => !isFinished s.worker).foldl
    (fun first s =>
      match first with
      | none => some s
      -- due at the same time, the earlier one goes first
      | some f => if s.due < f.due then some s else some f) none

/-- One step of the worker that is due first. -/
def step (p : Pool) (ts : Int) (s : PooledWorker) : Pool :=
  -- a worker that is due already does not turn the clock back
  let clock := max p.clock s.due
  let (message, w, script) := advance p.script ts s.worker
  { p with
    workers := p.workers.map fun t =>
      if t.worker.id = w.id then ⟨w, dueAfter clock script w⟩ else t
    queue := p.queue ++ message.toList
    script, clock }

/-- Let workers make at most `n` steps, until there is a message. -/
def work (ts : Int) : Nat → Pool → Pool
  | 0, p => p
  | n + 1, p =>
    if p.queue ≠ [] then p
    else
      match p.next? with
      | none => p
      | some s => work ts n (p.step ts s)

/-- Wait for the next message; none when every worker has ended. -/
def receive (p : Pool) (ts : Int) : Option PollMessage × Pool :=
  let p := work ts (p.workers.foldl (fun n s => n + rank s.worker) 0) p
  match p.queue with
  | [] => (none, p)
  | m :: rest => (some m, { p with queue := rest })

end Pool
end Dashboard
