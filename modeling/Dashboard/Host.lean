/-
  Dashboard.Host
  ──────────────
  The mounted panels of a page and the data they show.

  A host keeps, for each mounted panel, the state of its polls, the quality of
  its data and what it last reported about it.  With workers, a panel that has
  an endpoint is polled in the background and the host applies the messages of
  the panel's current worker; without, data moves only when the host polls.
  Each change of a panel's quality is queued as an event.  A panel whose worker
  does not start is not mounted.
-/
import Dashboard.Poll.Pool
import Dashboard.Poll.TtlCell
import Dashboard.Widget.Builtin

namespace Dashboard

open Json

/-! ## §1. Types. -/

/-- How a host polls; times in milliseconds. -/
structure HostSettings where
  interval : Nat
  timeout : Nat
  policy : QualityPolicy
  /-- Whether panels have workers. -/
  background : Bool
  deriving DecidableEq, Repr

/-- Ten seconds, seven seconds, and workers. -/
def HostSettings.standard : HostSettings := ⟨10000, 7000, .standard, true⟩

/-- A change of a panel's quality. -/
structure QualityEvent where
  panel : String
  quality : Quality
  deriving DecidableEq, Repr

/-- A mounted panel. -/
structure MountedPanel where
  panel : Panel
  endpoint : Option String
  interval : Nat
  query : Query Value
  reporter : QualityReporter
  quality : Quality
  mountedAt : Int
  /-- The id of the panel's worker. -/
  worker : Option Nat

/-- Why a panel was not mounted: its worker did not start. -/
structure HostError where
  panel : String
  failure : SpawnFailure
  deriving DecidableEq, Repr

/-- The wording of a failure. -/
def HostError.message (e : HostError) : String :=
  let reason := match e.failure with
    | .refused reason => reason
    | .unnameable => "thread name may not contain interior null bytes"
  s!"failed to start poll worker for panel '{e.panel}': {reason}"

/-- A host. -/
structure Host where
  registry : Registry
  settings : HostSettings
  pool : Pool
  mounted : Keyed MountedPanel
  capabilities : Capabilities
  filters : Filters
  events : List QualityEvent

namespace Host

/-- A host with nothing mounted. -/
def fresh (registry : Registry) (settings : HostSettings) (script : Script)
    (refusals : Refusals) : Host :=
  ⟨registry, settings, .ofScript script refusals, [], .unknown, .none, []⟩

/-- The mounted panel of an id. -/
def mounted? (h : Host) (id : String) : Option MountedPanel := h.mounted.get? id

def isMounted (h : Host) (id : String) : Bool := h.mounted.contains id

/-- The ids of the mounted panels, in order. -/
def mountedIds (h : Host) : List String := h.mounted.keys

/-- The widget that draws a panel. -/
def definition (h : Host) (p : Panel) : WidgetDefinition := h.registry.getOrPlaceholder p.widgetId

/-! ## §2. Mounting. -/

/-- What a panel is polled from: its own endpoint, or its widget's. -/
def endpointOf (h : Host) (p : Panel) : Option String :=
  p.endpointRef?.or (h.definition p).endpoint

/-- How often a panel is polled: its own interval if that is not zero, its
widget's, or the host's. -/
def intervalOf (h : Host) (p : Panel) : Nat :=
  ((p.refreshMs?.filter (0 < ·)).or (h.definition p).refreshMs).getD h.settings.interval

/-- Stop a panel's worker and forget the panel; tells whether it was mounted.
Messages of the worker that are still queued will be passed over. -/
def unmount (h : Host) (id : String) : Bool × Host :=
  match h.mounted? id with
  | none => (false, h)
  | some m =>
    let pool := match m.worker with
      | some worker => h.pool.stop worker
      | none => h.pool
    (true, { h with mounted := h.mounted.erase id, pool })

/-- Unmount all panels. -/
def unmountAll (h : Host) : Host := h.mountedIds.foldl (fun h id => (h.unmount id).2) h

/-- A worker for a panel, where it needs one. -/
def spawnWorker (h : Host) (p : Panel) : Except SpawnFailure (Option Nat) × Pool :=
  match h.endpointOf p, h.settings.background with
  | some endpoint, true =>
    let (id, pool) := h.pool.spawn ⟨p.id, endpoint, h.intervalOf p, h.settings.timeout⟩
    (id.map some, pool)
  | _, _ => (.ok none, h.pool)

/-- Mount a panel afresh.  What was mounted under its id is gone, also where the
new worker does not start. -/
def mountFresh (h : Host) (p : Panel) (now : Int) : Except HostError Unit × Host :=
  let h := (h.unmount p.id).2
  match h.spawnWorker p with
  | (.error e, pool) => (.error ⟨p.id, e⟩, { h with pool })
  | (.ok worker, pool) =>
    (.ok (), { h with
      pool
      mounted := h.mounted.insert p.id
        ⟨p, h.endpointOf p, h.intervalOf p, .fresh now, .fresh, .unknown, now, worker⟩ })

/-- Whether a mounted panel polls as another panel would. -/
def continues (h : Host) (m : MountedPanel) (p : Panel) : Bool :=
  m.panel.widgetId == p.widgetId && m.endpoint == h.endpointOf p && m.interval == h.intervalOf p

/-- Mount a panel, or replace its document where widget, endpoint and interval
are unchanged. -/
def mount (h : Host) (p : Panel) (now : Int) : Except HostError Unit × Host :=
  match (h.mounted? p.id).filter fun m => h.continues m p with
  | some m => (.ok (), { h with mounted := h.mounted.insert p.id { m with panel := p } })
  | none => h.mountFresh p now

/-- Mount panels one after another, up to the first that fails. -/
def mountAll (now : Int) : List Panel → Host → Except HostError Unit × Host
  | [], h => (.ok (), h)
  | p :: rest, h =>
    match h.mount p now with
    | (.ok (), h) => mountAll now rest h
    | (.error e, h) => (.error e, h)

/-- The ids of the mounted panels that are not among some. -/
def surplus (h : Host) (panels : List Panel) : List String :=
  h.mountedIds.filter fun id => !panels.any (·.id == id)

/-- Unmount the panels that are not among some. -/
def unmountOthers (h : Host) (panels : List Panel) : Host :=
  (h.surplus panels).foldl (fun h id => (h.unmount id).2) h

/-- Mount exactly some panels. -/
def sync (h : Host) (panels : List Panel) (now : Int) : Except HostError Unit × Host :=
  (h.unmountOthers panels).mountAll now panels

/-- Ask a panel's worker to poll at once; tells whether it has one. -/
def refreshNow (h : Host) (id : String) : Bool × Host :=
  match (h.mounted? id).bind (·.worker) with
  | some worker => (true, { h with pool := h.pool.refresh worker })
  | none => (false, h)

/-! ## §3. Quality. -/

/-- Give a panel a quality, and queue an event if it is news. -/
def recordQuality (h : Host) (id : String) (m : MountedPanel) (q : Quality) : Host :=
  let (news, reporter) := m.reporter.report q
  { h with
    mounted := h.mounted.insert id { m with quality := q, reporter }
    events := if news then h.events ++ [⟨m.panel.id, q⟩] else h.events }

/-- The quality of a panel's polls. -/
def derivedQuality (h : Host) (m : MountedPanel) : Quality :=
  .derive m.query (m.query.result.data.bind (h.definition m.panel).dataStatus)
    h.settings.policy

/-- Derive a panel's quality again. -/
def updateQuality (h : Host) (id : String) : Host :=
  match h.mounted? id with
  | none => h
  | some m => h.recordQuality id m (h.derivedQuality m)

/-- The quality of a mounted panel. -/
def quality? (h : Host) (id : String) : Option Quality := (h.mounted? id).map (·.quality)

/-- Whether the data of a mounted panel is stale. -/
def isStale (h : Host) (id : String) (now : Int) : Bool :=
  (h.quality? id).any fun q => q.isStale now h.settings.policy

/-- The queued events, oldest first; afterwards none are queued. -/
def drainEvents (h : Host) : List QualityEvent × Host := (h.events, { h with events := [] })

/-! ## §4. Data. -/

/-- Learn the capabilities from a status summary that was polled. -/
def learn (h : Host) (endpoint : Option String) (outcome : Outcome) : Host :=
  match endpoint, outcome with
  | some e, .ok payload =>
    if e = statusEndpoint then { h with capabilities := .ofPayload payload } else h
  | _, _ => h

/-- Apply a message; tells whether it counted.  A message of another worker
than the panel's current one does not. -/
def applyMessage (h : Host) (message : PollMessage) : Bool × Host :=
  match (h.mounted? message.panel).filter fun m => m.worker == some message.worker with
  | none => (false, h)
  | some m =>
    match message.report with
    | .issued =>
      (true, { h with mounted :=
        h.mounted.insert message.panel { m with query := m.query.markIssued message.request } })
    | .completed outcome ts =>
      match m.query.complete message.request outcome ts with
      -- the answer to a request that a later one has replaced
      | (.superseded, _) => (false, h)
      | (.applied, query) =>
        let h := { h with mounted := h.mounted.insert message.panel { m with query } }
        (true, (h.learn m.endpoint outcome).updateQuality message.panel)

/-- Apply a list of messages; gives how many counted. -/
def applyAll (h : Host) (messages : List PollMessage) : Nat × Host :=
  messages.foldl
    (fun (n, h) m =>
      let (counted, h) := h.applyMessage m
      (if counted then n + 1 else n, h)) (0, h)

/-- Apply all queued messages; gives how many counted. -/
def pump (h : Host) : Nat × Host :=
  ({ h with pool := { h.pool with queue := [] } } : Host).applyAll h.pool.queue

/-- Whether the poll of a number is over for a panel. -/
def hasSettled (h : Host) (id : String) (n : Nat) : Bool :=
  (h.mounted? id).any fun m => n ≤ m.query.completed

/-- Wait for and apply at most `limit` messages until the poll of a number is
over; gives how many counted. -/
def settleWithin (ts : Int) (id : String) (n : Nat) : Nat → Nat → Host → Nat × Host
  | 0, counted, h => (counted, h)
  | limit + 1, counted, h =>
    if h.hasSettled id n then (counted, h)
    else
      match h.pool.receive ts with
      | (none, pool) => (counted, { h with pool })
      | (some message, pool) =>
        let (applied, h) := ({ h with pool } : Host).applyMessage message
        settleWithin ts id n limit (if applied then counted + 1 else counted) h

/-- Wait until the poll of a number is over; gives how many messages counted.
Each worker sends two messages for a poll. -/
def settle (h : Host) (id : String) (n : Nat) (ts : Int) : Nat × Host :=
  settleWithin ts id n (2 * (n + 2) * (h.pool.workers.length + 1)) 0 h

/-- Poll one mounted panel. -/
def pollPanel (h : Host) (now : Int) (id : String) : Host :=
  match h.mounted? id with
  | none => h
  | some m =>
    match m.endpoint with
    | none => h
    | some endpoint =>
      let (number, query) := m.query.begin
      -- begun and completed in one go, so nothing can come in between
      let (outcome, script) := h.pool.script.fetch endpoint h.settings.timeout false
      let query := (query.complete number outcome now).2
      let h := { h with
        pool := { h.pool with script }
        mounted := h.mounted.insert id { m with query } }
      (h.learn (some endpoint) outcome).updateQuality id

/-- The ids of the mounted panels that have an endpoint. -/
def polledIds (h : Host) : List String :=
  (h.mounted.filter fun p => p.2.endpoint.isSome).map (·.1)

/-- Poll every mounted panel that has an endpoint once; gives how many. -/
def pollOnce (h : Host) (now : Int) : Nat × Host :=
  (h.polledIds.length, h.polledIds.foldl (fun h id => h.pollPanel now id) h)

/-- Ask for the status summary. -/
def loadSummary (timeout : Nat) : StateM Script (Except FetchError StatusSummary) := do
  let outcome ← modifyGet fun script => script.fetch statusEndpoint timeout false
  return outcome.map .ofPayload

/-- Learn the capabilities from the status summary that all hosts share,
fetching it when it is not young enough. -/
def refreshCapabilities (h : Host) (shared : TtlCell StatusSummary) (now : Int) :
    Except FetchError Capabilities × TtlCell StatusSummary × Host :=
  let ((summary, shared), script) :=
    (shared.getOrLoad now (loadSummary h.settings.timeout)).run h.pool.script
  let h := { h with pool := { h.pool with script } }
  match summary with
  | .error e => (.error e, shared, h)
  | .ok summary =>
    let known := Capabilities.ofSummary summary
    (.ok known, shared, { h with capabilities := known })

/-! ## §5. Drawing. -/

/-- What a mounted panel is drawn from. -/
def scene (h : Host) (m : MountedPanel) (now : Int) : WidgetScene :=
  let gate := Gate.check h.capabilities (h.definition m.panel).needs m.panel.capabilityGate?.toList
  ⟨m.panel, h.filters, h.capabilities, gate, m.query, m.quality,
    m.quality.isStale now h.settings.policy, now, m.mountedAt⟩

/-- What drawing a mounted panel comes to. -/
def drawing (h : Host) (m : MountedPanel) (now : Int) : Drawing :=
  (h.definition m.panel).render (h.scene m now)

/-- Take over the quality that the widget of a panel reported, if it did. -/
def takeReport (h : Host) (id : String) (m : MountedPanel) (reported : Option Quality) : Host :=
  match reported with
  | some q => h.recordQuality id m q
  | none => h

/-- Draw a mounted panel. -/
def render (h : Host) (id : String) (now : Int) : Option WidgetView × Host :=
  match h.mounted? id with
  | none => (none, h)
  | some m =>
    let drawing := h.drawing m now
    -- a poll is asked for while the widget is drawn, a report is taken over afterwards
    let h' := if drawing.refreshes then (h.refreshNow id).2 else h
    (some (drawing.view.behind (h.scene m now).gate), h'.takeReport id m drawing.reported)

end Host
end Dashboard
