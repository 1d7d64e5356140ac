/-
  Dashboard.Poll.TtlCell
  ──────────────────────
  A cell that keeps one value for a while.

  A value younger than the time to live is served from the cell; otherwise a
  loader runs and its value is kept.  A failing loader leaves the cell as it
  was.  A value stamped in the future is not young.  Ages are whole
  milliseconds, and so is the time to live that they are compared with.

  A loader is a computation, since a host's loader makes a request.  One that
  counts how often it is run tells how often the cell asks it.
-/
import Dashboard.Time.Millis

namespace Dashboard

open Time

/-- A stored value and when it was stored. -/
structure TtlEntry (α : Type) where
  ts : Int
  value : α
  deriving DecidableEq, Repr

/-- A time to live and perhaps a value. -/
structure TtlCell (α : Type) where
  ttl : Duration
  entry : Option (TtlEntry α)
  deriving DecidableEq, Repr

namespace TtlCell

variable {α ε : Type}

/-- An empty cell. -/
def fresh (ttl : Duration) : TtlCell α := ⟨ttl, none⟩

/-- The time to live in whole milliseconds, at most the greatest time. -/
def ttlMs (c : TtlCell α) : Int := spanLimit c.ttl.wholeMillis

/-- Whether an entry is young enough. -/
def isYoung (c : TtlCell α) (e : TtlEntry α) (now : Int) : Bool :=
  0 ≤ elapsed e.ts now && elapsed e.ts now < c.ttlMs

/-- The value, if it is young enough. -/
def get (c : TtlCell α) (now : Int) : Option α :=
  (c.entry.filter fun e => c.isYoung e now).map (·.value)

/-- Store a value. -/
def set (c : TtlCell α) (value : α) (now : Int) : TtlCell α :=
  { c with entry := some ⟨now, value⟩ }

/-- When the stored value was stored, young or not. -/
def storedAt (c : TtlCell α) : Option Int := c.entry.map (·.ts)

/-- The value; where none is young enough, the loader runs. -/
def getOrLoad {m : Type → Type} [Monad m] (c : TtlCell α) (now : Int)
    (loader : m (Except ε α)) : m (Except ε α × TtlCell α) :=
  match c.get now with
  | some v => return (.ok v, c)
  | none => do
    match ← loader with
    | .ok v => return (.ok v, c.set v now)
    | .error e => return (.error e, c)

/-- A loader with a known outcome that counts how often it is run. -/
def counted (load : Except ε α) : StateM Nat (Except ε α) := do
  modify (· + 1)
  return load

/-- A young value is served, and the loader does not run. -/
theorem getOrLoad_of_young {m : Type → Type} [Monad m] {c : TtlCell α} {now : Int} {v : α}
    (h : c.get now = some v) (loader : m (Except ε α)) :
    c.getOrLoad now loader = pure (.ok v, c) := by
  unfold getOrLoad
  rw [h]

end TtlCell

/-- How long the status summary that all share is kept: eight seconds. -/
def statusTtl : Duration := .ofMillis 8000

end Dashboard
