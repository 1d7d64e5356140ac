/-
  Dashboard.Poll.Quality
  ──────────────────────
  How far a panel's data can be trusted: a health status and the time of the
  last good payload.

  While the latest poll succeeded, the status is what the widget reads from
  the payload.  After a failure it is DOWN once enough polls failed in a row,
  else DEGRADED when any poll ever succeeded, else UNKNOWN.
-/
import Dashboard.Poll.Query
import Dashboard.Time.Millis
import Dashboard.Widget.Health

namespace Dashboard

open Time

/-- When a panel is down, and when its data is stale (in milliseconds). -/
structure QualityPolicy where
  downAfterFailures : Nat
  staleAfterMs : Nat
  deriving DecidableEq, Repr

/-- Three failures in a row; thirty seconds. -/
def QualityPolicy.standard : QualityPolicy := ⟨3, 30000⟩

/-- The quality of a panel's data. -/
structure Quality where
  status : Health
  lastSuccessTs : Option Int
  deriving DecidableEq, Repr

namespace Quality

/-- Nothing known. -/
def unknown : Quality := ⟨.unknown, none⟩

/-- A text that tells qualities apart. -/
def token (q : Quality) : String :=
  match q.lastSuccessTs with
  | some ts => s!"{q.status.name}-{ts}"
  | none => s!"{q.status.name}-none"

/-- The time since the last success. -/
def ageMs (q : Quality) (now : Int) : Option Int := q.lastSuccessTs.map fun ts => elapsed ts now

/-- Whether the last success is too long ago; without one there is nothing to
be stale. -/
def isStale (q : Quality) (now : Int) (p : QualityPolicy) : Bool :=
  (q.ageMs now).any fun age => spanLimit p.staleAfterMs < age

/-- The quality of a panel's polls, given what the widget reads from the
current payload. -/
def derive {α : Type} (query : Query α) (dataStatus : Option Health) (p : QualityPolicy) :
    Quality :=
  let lastSuccessTs := query.lastSuccess.map (·.ts)
  let status :=
    if !query.hasCompleted then .unknown
    else if query.result.ok then dataStatus.getD .ok
    else if max p.downAfterFailures 1 ≤ query.failures then .down
    else if lastSuccessTs.isSome then .degraded
    else .unknown
  ⟨status, lastSuccessTs⟩

end Quality

/-- Passes on a quality only when it differs from the last one. -/
structure QualityReporter where
  lastToken : Option String
  deriving DecidableEq, Repr

namespace QualityReporter

/-- Nothing reported yet. -/
def fresh : QualityReporter := ⟨none⟩

/-- Report a quality; tells whether it is news. -/
def report (r : QualityReporter) (q : Quality) : Bool × QualityReporter :=
  if r.lastToken = some q.token then (false, r) else (true, ⟨some q.token⟩)

end QualityReporter
end Dashboard
