/-
  Dashboard.Widget.Health
  ───────────────────────
  The health of a service or of a panel's data.

  Main results:
    ofName_name — reading a status back from its name
-/
import Dashboard.Text.Blank
import Dashboard.Text.Lowercase

namespace Dashboard

open Text

/-- A health status. -/
inductive Health where
  | ok
  | degraded
  | down
  | unknown
  deriving DecidableEq, Repr, Inhabited

namespace Health

/-- The name of a status. -/
def name : Health → String
  | .ok => "OK"
  | .degraded => "DEGRADED"
  | .down => "DOWN"
  | .unknown => "UNKNOWN"

/-- The status of a name in letters of any case, blanks around it aside; every
other text is unknown. -/
def ofName (raw : String) : Health :=
  let s := asciiLower (trim raw)
  if s = "ok" then .ok
  else if s = "degraded" then .degraded
  else if s = "down" then .down
  else .unknown

/-- A missing name is unknown. -/
def ofName? (raw : Option String) : Health := (raw.map ofName).getD .unknown

def isOk : Health → Bool
  | .ok => true
  | _ => false

theorem ofName_name (h : Health) : ofName h.name = h := by
  cases h <;> decide +kernel

end Health
end Dashboard
