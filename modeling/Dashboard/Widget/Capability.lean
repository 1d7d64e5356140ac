/-
  Dashboard.Widget.Capability
  ───────────────────────────
  Which widgets the platform can serve.

  Every component that the status summary reports is a capability, healthy or
  not.  A widget says which overall statuses and capabilities it needs, a panel
  may add one more, and both are held against the latest snapshot.
-/
import Dashboard.Keyed
import Dashboard.Widget.Payload

namespace Dashboard

/-- The overall status and the capabilities known. -/
structure Capabilities where
  status : Health
  components : Keyed Health
  deriving DecidableEq, Repr

/-- What a widget needs; no status means any. -/
structure Requirements where
  status : List Health
  capabilities : List String
  deriving DecidableEq, Repr

/-- Whether a widget can be served. -/
inductive Gate where
  | enabled
  /-- All it needs is there, but some of it is not OK. -/
  | degraded (unhealthy : List String)
  | unavailable (reason : String)
  deriving DecidableEq, Repr

namespace Capabilities

/-- Nothing known yet. -/
def unknown : Capabilities := ⟨.unknown, []⟩

/-- The capabilities of a summary; of one name the last component counts. -/
def ofSummary (s : StatusSummary) : Capabilities :=
  ⟨s.overall, Keyed.ofList (s.components.map fun c => (c.name, c.status))⟩

/-- The capabilities of a payload. -/
def ofPayload (v : Json.Value) : Capabilities := ofSummary (.ofPayload v)

def has (c : Capabilities) (name : String) : Bool := c.components.contains name

/-- Whether a capability is there and not OK. -/
def isUnhealthy (c : Capabilities) (name : String) : Bool :=
  match c.components.get? name with
  | some h => !h.isOk
  | none => false

end Capabilities

/-- Needs nothing. -/
def Requirements.none : Requirements := ⟨[], []⟩

namespace Gate

def isEnabled : Gate → Bool
  | .enabled => true
  | _ => false

def isUnavailable : Gate → Bool
  | .unavailable _ => true
  | _ => false

/-- Hold needs, and further capabilities, against what is known. -/
def check (known : Capabilities) (needs : Requirements) (further : List String) : Gate :=
  let needed := needs.capabilities ++ further
  if needs.status = [] ∧ needed = [] then .enabled
  else
    let missing := needed.filter fun name => !known.has name
    let names := ", ".intercalate missing
    if missing ≠ [] then .unavailable s!"missing capability: {names}"
    else if needs.status ≠ [] ∧ !needs.status.contains known.status then
      .unavailable s!"platform status is {known.status.name}"
    else
      let unhealthy := needed.filter known.isUnhealthy
      if unhealthy = [] then .enabled else .degraded unhealthy

end Gate
end Dashboard
