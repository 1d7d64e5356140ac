/-
  Dashboard.Poll.Fetch
  ────────────────────
  One request for a panel's data, and who answers it.

  An upstream resolves endpoints against its base URL.  A script answers from
  queues: each endpoint has the answers that are left for it, the last of
  which repeats.
-/
import Dashboard.Json.Value
import Dashboard.Url.Resolution
import Dashboard.Text.Blank

namespace Dashboard

open Json

/-! ## §1. Outcomes. -/

/-- Why a request failed. -/
inductive FetchError where
  | transport (message : String)
  | status (code : Nat)
  | decode (message : String)
  | timeout (ms : Nat)
  | cancelled
  | invalidEndpoint (endpoint reason : String)
  deriving DecidableEq, Repr

/-- The wording of a failure. -/
def FetchError.message : FetchError → String
  | .transport message => message
  | .status code => s!"HTTP {code}"
  | .decode message => s!"invalid JSON payload: {message}"
  | .timeout ms => s!"request timed out after {ms}ms"
  | .cancelled => "request aborted"
  | .invalidEndpoint endpoint reason => s!"invalid endpoint '{endpoint}': {reason}"

def FetchError.isCancelled : FetchError → Bool
  | .cancelled => true
  | _ => false

/-- What a request gave. -/
abbrev Outcome := Except FetchError Value

/-! ## §2. Upstreams. -/

/-- A server that endpoints are resolved against. -/
structure Upstream where
  base : Url.Address
  deriving DecidableEq, Repr

namespace Upstream

/-- Drop the slashes at the end of a text. -/
def withoutEndSlashes (cs : List Char) : List Char :=
  (cs.reverse.dropWhile (· == '/')).reverse

/-- A trimmed base URL ends in exactly one slash, so that its path is kept. -/
def baseText (raw : String) : String :=
  String.ofList (withoutEndSlashes (Text.trimList raw.toList) ++ ['/'])

/-- The upstream at a base URL. -/
def ofBase (raw : String) : Except FetchError Upstream :=
  match Url.parse (baseText raw) with
  | .ok base => .ok ⟨base⟩
  | .error e => .error (.invalidEndpoint raw e.message)

/-- The URL of an endpoint; slashes at its front do not leave the base's path. -/
def resolve (u : Upstream) (endpoint : String) : Except FetchError Url.Address :=
  match Url.join u.base (String.ofList (endpoint.toList.dropWhile (· == '/'))) with
  | .ok url => .ok url
  | .error e => .error (.invalidEndpoint endpoint e.message)

end Upstream

/-! ## §3. Scripts. -/

/-- Answers by endpoint, how long each takes in milliseconds, and how many
requests were made. -/
structure Script where
  answers : Keyed (List Outcome)
  latency : Option Nat
  calls : Nat

namespace Script

/-- No answer. -/
def empty : Script := ⟨[], none, 0⟩

/-- Queue an answer. -/
def push (s : Script) (endpoint : String) (answer : Outcome) : Script :=
  { s with answers :=
      s.answers.insert endpoint ((s.answers.get? endpoint).getD [] ++ [answer]) }

/-- The next answer of an endpoint; one that was never heard of is not found. -/
def next (s : Script) (endpoint : String) : Outcome × Script :=
  match s.answers.get? endpoint with
  | none | some [] => (.error (.status 404), s)
  | some [answer] => (answer, s)
  | some (answer :: rest) => (answer, { s with answers := s.answers.insert endpoint rest })

/-- Count a request. -/
def called (s : Script) : Script := { s with calls := s.calls + 1 }

/-- How long a request takes, and whether it runs into its time limit. -/
def delay (s : Script) (timeout : Nat) : Nat × Bool :=
  match s.latency with
  | none => (0, false)
  | some ms => if timeout < ms then (timeout, true) else (ms, false)

/-- The answer to a request that nothing interrupts, once its delay is over. -/
def answer (s : Script) (endpoint : String) (timeout : Nat) : Outcome × Script :=
  if (s.delay timeout).2 then (.error (.timeout timeout), s) else s.next endpoint

/-- A whole request; an interrupted one is cancelled. -/
def fetch (s : Script) (endpoint : String) (timeout : Nat) (aborted : Bool) :
    Outcome × Script :=
  let s := s.called
  if aborted then (.error .cancelled, s) else s.answer endpoint timeout

end Script
end Dashboard
