/-
  Dashboard.Widget.Payload
  ────────────────────────
  What widgets read out of the payloads of services.

  Services do not agree on names, so a field is looked up under a list of
  keys in order:

      overall status     overall_status, overallStatus, status, state
      component list     components, items, services
      component name     name, component, id
      component status   status, state, health
      component reason   reason, message, detail
      bot list           items, bots, data, results
      bot total          total, count; else the length of the list
      bot state          state, status
      bot degraded       degraded, is_degraded, isDegraded

  Nothing here fails: what is missing or mistyped is empty.
-/
import Dashboard.Json.Value
import Dashboard.Widget.Health

namespace Dashboard

open Json Text

/-! ## §1. Lookups. -/

namespace Payload

/-- The first text among some keys, trimmed; none where nothing is left of it. -/
def firstText (m : Members) (keys : List String) : Option String :=
  (keys.findSome? fun key => (m.get? key).bind Value.text?).bind nonBlank?

/-- A decimal number below two to the power 64, with an optional plus. -/
def decimal? (s : String) : Option Nat :=
  let ds := match s.toList with
    | '+' :: rest => rest
    | cs => cs
  if ds ≠ [] ∧ ds.all Char.isDigit then
    let n := ds.foldl (fun n c => n * 10 + (c.toNat - 48)) 0
    if n < 0x10000000000000000 then some n else none
  else none

/-- A number, or a text that writes one. -/
def count? : Value → Option Nat
  | .number n => (Value.number n).nat?
  | .text s => decimal? (trim s)
  | _ => none

/-- The first usable number among some keys. -/
def firstCount (m : Members) (keys : List String) : Option Nat :=
  keys.findSome? fun key => (m.get? key).bind count?

/-- Whether a value says yes: true, the number one, or a text of either. -/
def isYes : Value → Bool
  | .bool b => b
  | .number (.integer n) => n == 1
  | .text s => asciiLower (trim s) == "true" || trim s == "1"
  | _ => false

/-- What the first present one of some keys says. -/
def firstFlag (m : Members) (keys : List String) : Bool :=
  ((keys.findSome? fun key => m.get? key).map isYes).getD false

/-- The first array among some keys. -/
def firstList (m : Members) (keys : List String) : Option (List Value) :=
  keys.findSome? fun key => (m.get? key).bind Value.items?

end Payload

/-! ## §2. The status summary. -/

/-- The health of one component. -/
structure ComponentHealth where
  name : String
  status : Health
  reason : Option String
  deriving DecidableEq, Repr

/-- The health of the platform and its components. -/
structure StatusSummary where
  overall : Health
  components : List ComponentHealth
  deriving DecidableEq, Repr

namespace StatusSummary

/-- Nothing known. -/
def unknown : StatusSummary := ⟨.unknown, []⟩

/-- The components that are not OK. -/
def degraded (s : StatusSummary) : List ComponentHealth :=
  s.components.filter fun c => !c.status.isOk

/-- A component, named by its own name or by its key. -/
def component? (key : Option String) : Value → Option ComponentHealth
  | .text status => key.map fun name => ⟨name, .ofName status, none⟩
  | .object m => do
    let fields : Members := m
    let name ← ((Payload.firstText fields ["name", "component", "id"]).or key).filter (· ≠ "")
    pure ⟨name, .ofName? (Payload.firstText fields ["status", "state", "health"]),
      Payload.firstText fields ["reason", "message", "detail"]⟩
  | _ => none

/-- A list of components, or components by name. -/
def componentList? : Value → Option (List ComponentHealth)
  | .list items => some (items.filterMap (component? none))
  | .object m => some (m.filterMap fun p => component? (some p.1) p.2)
  | _ => none

/-- The components under the first key that holds a list of them. -/
def componentsOf (m : Members) : List ComponentHealth :=
  (["components", "items", "services"].findSome? fun key =>
    (m.get? key).bind componentList?).getD []

/-- The summary of a payload. -/
def ofPayload (v : Value) : StatusSummary :=
  match v.members? with
  | none => unknown
  | some m =>
    ⟨.ofName? (Payload.firstText m ["overall_status", "overallStatus", "status", "state"]),
      componentsOf m⟩

end StatusSummary

/-! ## §3. The bots summary. -/

/-- One bot. -/
structure BotItem where
  state : Option String
  degraded : Bool
  deriving DecidableEq, Repr

/-- The number of bots and the bots of this page of the list. -/
structure BotsSummary where
  total : Nat
  items : List BotItem
  deriving DecidableEq, Repr

/-- A bot in one of the active states. -/
def BotItem.isActive (b : BotItem) : Bool :=
  match b.state with
  | some s => ["running", "active", "ok"].contains (asciiLower (trim s))
  | none => false

namespace BotsSummary

def activeCount (s : BotsSummary) : Nat := (s.items.filter (·.isActive)).length

def degradedCount (s : BotsSummary) : Nat := (s.items.filter (·.degraded)).length

/-- A bot of the list. -/
def item (m : Members) : BotItem :=
  ⟨Payload.firstText m ["state", "status"],
    Payload.firstFlag m ["degraded", "is_degraded", "isDegraded"]⟩

/-- The bots of a list; what is no object is passed over. -/
def itemsOf (values : List Value) : List BotItem :=
  values.filterMap fun v => v.members?.map item

/-- The summary of a payload. -/
def ofPayload (v : Value) : BotsSummary :=
  match v with
  | .list values => ⟨(itemsOf values).length, itemsOf values⟩
  | .object m =>
    let items := itemsOf ((Payload.firstList m ["items", "bots", "data", "results"]).getD [])
    ⟨(Payload.firstCount m ["total", "count"]).getD items.length, items⟩
  | _ => ⟨0, []⟩

end BotsSummary
end Dashboard
