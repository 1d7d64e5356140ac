/-
  Dashboard.Poll.Query
  ────────────────────
  What a panel knows from its polls: the latest result and the last good
  payload.

  Every poll has a number.  Only the completion of the number issued last
  counts, and only once; any other completion is superseded and changes
  nothing.

  Main results:
    complete_superseded — a superseded completion changes nothing
-/
import Dashboard.Poll.Fetch

namespace Dashboard

/-- A payload and when it came. -/
structure Success (α : Type) where
  data : α
  ts : Int
  deriving DecidableEq, Repr

/-- The result of the latest poll: a payload, a failure's wording, or neither
before the first one. -/
structure PollResult (α : Type) where
  ok : Bool
  data : Option α
  error : Option String
  ts : Int
  deriving DecidableEq, Repr

/-- Whether a completion counted. -/
inductive Applied where
  | applied
  | superseded
  deriving DecidableEq, Repr

/-- The state of a panel's polls. -/
structure Query (α : Type) where
  result : PollResult α
  lastSuccess : Option (Success α)
  issued : Nat
  completed : Nat
  failures : Nat
  deriving DecidableEq, Repr

namespace Query

variable {α : Type}

/-- Before the first poll. -/
def fresh (ts : Int) : Query α := ⟨⟨false, none, none, ts⟩, none, 0, 0, 0⟩

/-- Poll numbers are 64-bit words. -/
def numberLimit : Nat := 0x10000000000000000

/-- Issue the next number. -/
def begin (q : Query α) : Nat × Query α :=
  let n := (q.issued + 1) % numberLimit
  (n, { q with issued := n })

/-- Take note of a number issued elsewhere; the issued number never falls. -/
def markIssued (q : Query α) (n : Nat) : Query α := { q with issued := max q.issued n }

def hasCompleted (q : Query α) : Bool := 0 < q.completed

/-- Whether a number is issued and not completed. -/
def isInFlight (q : Query α) : Bool := q.completed < q.issued

/-- The latest payload, else the last good one. -/
def source? (q : Query α) : Option α := q.result.data.or (q.lastSuccess.map (·.data))

/-- Whether the completion of a number counts. -/
def accepts (q : Query α) (n : Nat) : Bool := n == q.issued && q.completed < n

/-- A success of the number `n`. -/
def succeed (q : Query α) (n : Nat) (data : α) (ts : Int) : Query α :=
  ⟨⟨true, some data, none, ts⟩, some ⟨data, ts⟩, q.issued, n, 0⟩

/-- The failure count is a 32-bit word that saturates. -/
def nextFailures (failures : Nat) : Nat := min (failures + 1) 0xFFFFFFFF

/-- A failure of the number `n`. -/
def fail (q : Query α) (n : Nat) (e : FetchError) (ts : Int) : Query α :=
  ⟨⟨false, none, some e.message, ts⟩, q.lastSuccess, q.issued, n, nextFailures q.failures⟩

/-- Complete a number. -/
def complete (q : Query α) (n : Nat) (outcome : Except FetchError α) (ts : Int) :
    Applied × Query α :=
  if q.accepts n then
    (.applied, match outcome with
      | .ok data => q.succeed n data ts
      | .error e => q.fail n e ts)
  else (.superseded, q)

theorem complete_superseded (q : Query α) (n : Nat) (outcome : Except FetchError α) (ts : Int)
    (h : (q.complete n outcome ts).1 = .superseded) : (q.complete n outcome ts).2 = q := by
  unfold complete at h ⊢
  split
  · rename_i h'
    simp [h'] at h
  · rfl

end Query
end Dashboard
