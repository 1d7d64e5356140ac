/-
  Dashboard.Widget.Builtin
  ────────────────────────
  The built-in widgets.

  A widget that polls shows nothing but LOADING before its first completed
  poll, nothing but the failure while no poll ever succeeded, and afterwards
  the latest payload or the last good one, with a note when the latest poll
  failed and the times of the latest and the last good poll.  The links of the
  quick navigation are always there, so that widget reports itself as OK.
-/
import Dashboard.Widget.Registry

namespace Dashboard

open Json

/-- The endpoint of the status summary. -/
def statusEndpoint : String := "/api/status/summary"

/-- The endpoint of the bots. -/
def botsEndpoint : String := "/api/bots?page=1&page_size=50"

/-! ## §1. Health. -/

/-- The overall status of a status summary. -/
def summaryStatus (payload : Value) : Option Health :=
  some (StatusSummary.ofPayload payload).overall

/-- Degraded as soon as one bot is. -/
def botsStatus (payload : Value) : Option Health :=
  some (if 0 < (BotsSummary.ofPayload payload).degradedCount then .degraded else .ok)

/-! ## §2. Views. -/

namespace WidgetScene

/-- The status summary to show. -/
def summary (s : WidgetScene) : StatusSummary :=
  (s.query.source?.map StatusSummary.ofPayload).getD .unknown

/-- The overall status, and unless the panel is compact how many components
are not OK. -/
def statusView (s : WidgetScene) (title : String) : WidgetView :=
  let summary := s.summary
  let all := summary.components.length
  let degraded := summary.degraded.length
  let v : WidgetView :=
    { WidgetView.ofHeadline title summary.overall.name with status := some summary.overall }
  if s.panel.compactMode then v else v.withLines [s!"{all} components, {degraded} not OK"]

/-- The line of a component that is not OK. -/
def componentLine (badges : Bool) (c : ComponentHealth) : String :=
  c.name ++ (if badges then s!" [{c.status.name}]" else "")
    ++ (match c.reason with
      | some reason => " " ++ reason
      | none => "")

/-- The components that are not OK. -/
def componentsView (s : WidgetScene) (title : String) : WidgetView :=
  let summary := s.summary
  let degraded := summary.degraded
  let headline :=
    if degraded = [] then "No degraded components." else s!"{degraded.length} degraded"
  { WidgetView.ofHeadline title headline with
    status := some summary.overall
    lines := degraded.map (componentLine s.panel.showBadges) }

/-- The number of bots, and how many are active and degraded. -/
def botsView (s : WidgetScene) (title : String) (payload : Value) : WidgetView :=
  let bots := BotsSummary.ofPayload payload
  let filter := match s.filters.bot with
    | some bot => [s!"Filter: bot {bot}"]
    | none => []
  { WidgetView.ofHeadline title s!"Total {bots.total}" with
    status := some (if 0 < bots.degradedCount then .degraded else .ok)
    lines := filter ++ [s!"Active {bots.activeCount}", s!"Degraded {bots.degradedCount}"] }

end WidgetScene

/-- The links of the quick navigation. -/
def quickLinks : List NavLink :=
  [⟨"Bots", "/bots"⟩, ⟨"Markets", "/markets"⟩, ⟨"Portfolio", "/portfolio"⟩,
    ⟨"Commands", "/commands"⟩, ⟨"Analytics", "/analytics"⟩, ⟨"Modules", "/admin/modules"⟩]

/-! ## §3. Widgets. -/

namespace WidgetDefinition

def drawSystemStatus (s : WidgetScene) : Drawing :=
  let title := s.titleOr "System Status"
  .ofView (s.polledView title "STATUS" (s.statusView title))

def systemStatus : WidgetDefinition :=
  ⟨"system-status", "System Status", .status, ⟨3, 2⟩, ⟨2, 1⟩,
    "Overall dashboard and component status.", .none, some statusEndpoint, some 10000,
    summaryStatus, drawSystemStatus, false⟩

def drawDegradedComponents (s : WidgetScene) : Drawing :=
  let title := s.titleOr "Degraded Components"
  .ofView (s.polledView title "STATUS" (s.componentsView title))

def degradedComponents : WidgetDefinition :=
  ⟨"degraded-components", "Degraded Components", .status, ⟨6, 2⟩, ⟨3, 1⟩,
    "Lists non-OK components with reasons.", .none, some statusEndpoint, some 10000,
    summaryStatus, drawDegradedComponents, false⟩

def drawBotsOverview (s : WidgetScene) : Drawing :=
  let title := s.titleOr "Bots KPI"
  .ofView <| match s.query.source? with
    | some payload => s.polledView title "BOTS" (s.botsView title payload)
    | none =>
      (s.emptyView? title "BOTS").getD
        { WidgetView.ofHeadline title "UNKNOWN" with status := some .unknown }

def botsOverview : WidgetDefinition :=
  ⟨"bots-overview", "Bots KPI", .bots, ⟨3, 2⟩, ⟨2, 1⟩,
    "Summary of bot counts and degraded state.", .none, some botsEndpoint, some 10000,
    botsStatus, drawBotsOverview, false⟩

def drawQuickNav (s : WidgetScene) : Drawing :=
  ⟨{ WidgetView.ofHeadline (s.titleOr "Quick Links") "" with links := quickLinks },
    some ⟨.ok, some s.mountedAt⟩, false⟩

def quickNav : WidgetDefinition :=
  ⟨"quick-nav", "Quick Links", .utility, ⟨4, 1⟩, ⟨2, 1⟩,
    "One-click navigation links.", .none, none, none, noStatus, drawQuickNav, false⟩

/-- A widget that is known by name only. -/
def reservedFor (id title : String) (category : WidgetCategory) : WidgetDefinition :=
  ⟨id, title, category, ⟨3, 2⟩, ⟨2, 1⟩, "Not available in this build.", .none, none, none,
    noStatus, drawPlaceholder, true⟩

/-- All built-in widgets. -/
def builtin : List WidgetDefinition :=
  [systemStatus, degradedComponents, botsOverview, quickNav, placeholder,
    reservedFor "markets-overview" "Markets Overview" .markets,
    reservedFor "commands-summary" "Commands Summary" .ops,
    reservedFor "incident-feed" "Incident Feed" .ops]

end WidgetDefinition

/-- The registry of the built-in widgets. -/
def Registry.builtin : Registry := .ofList WidgetDefinition.builtin

end Dashboard
