/-
  Dashboard.Widget.View
  ─────────────────────
  What a widget draws from, and what it shows.

  A widget sees its panel, the filters, the capabilities, the state of its
  polls and the quality of its data.  Drawing gives a view; besides, it may
  report a quality of its own and ask for a poll at once.
-/
import Dashboard.Document.Workspace
import Dashboard.Filters
import Dashboard.Poll.Quality
import Dashboard.Widget.Capability

namespace Dashboard

open Json Time

/-! ## §1. Views. -/

/-- A labelled link. -/
structure NavLink where
  label : String
  href : String
  deriving DecidableEq, Repr

/-- The content of a drawn widget. -/
structure WidgetView where
  title : String
  status : Option Health
  headline : String
  lines : List String
  links : List NavLink
  notice : Option String
  deriving DecidableEq, Repr

namespace WidgetView

/-- A view with a headline alone. -/
def ofHeadline (title headline : String) : WidgetView := ⟨title, none, headline, [], [], none⟩

/-- The view with further lines. -/
def withLines (v : WidgetView) (lines : List String) : WidgetView :=
  { v with lines := v.lines ++ lines }

/-- The view behind a gate; a widget that cannot be served says why. -/
def behind (v : WidgetView) (gate : Gate) : WidgetView :=
  match gate with
  | .unavailable reason => { v with notice := some s!"Unavailable: {reason}" }
  | _ => v

end WidgetView

/-! ## §2. Drawing. -/

/-- Everything that a widget may look at when it is drawn; times in
milliseconds. -/
structure WidgetScene where
  panel : Panel
  filters : Filters
  capabilities : Capabilities
  gate : Gate
  query : Query Value
  quality : Quality
  stale : Bool
  now : Int
  mountedAt : Int

/-- What drawing a widget comes to. -/
structure Drawing where
  view : WidgetView
  /-- The quality that the widget reported last while it was drawn. -/
  reported : Option Quality
  /-- Whether it asked for a poll at once. -/
  refreshes : Bool

/-- A view alone. -/
def Drawing.ofView (view : WidgetView) : Drawing := ⟨view, none, false⟩

namespace WidgetScene

/-- The panel's title, or another one where the panel's is blank. -/
def titleOr (s : WidgetScene) (fallback : String) : String :=
  (s.panel.title.filter fun t => !Text.isBlankText t).getD fallback

/-- The view before there is anything to show. -/
def emptyView? (s : WidgetScene) (title label : String) : Option WidgetView :=
  if !s.query.hasCompleted then some (.ofHeadline title "LOADING")
  else if !s.query.result.ok && s.query.lastSuccess.isNone then
    some { WidgetView.ofHeadline title s!"{label} UNAVAILABLE" with
      notice := s.query.result.error }
  else none

/-- The line for capabilities that are there and not OK. -/
def gateLines (s : WidgetScene) : List String :=
  match s.gate with
  | .degraded unhealthy => ["Degraded capabilities: " ++ ", ".intercalate unhealthy]
  | _ => []

/-- The line for the last good poll. -/
def successLines (s : WidgetScene) : List String :=
  match s.query.lastSuccess with
  | some success => ["Last success: " ++ Instant.clock ⟨success.ts⟩]
  | none => []

/-- The note about a failed latest poll. -/
def failureNotice (s : WidgetScene) (label : String) : Option String :=
  if s.query.result.ok then none
  else
    let error := s.query.result.error.getD "request failed"
    some s!"{label} UNAVAILABLE ({error})"

/-- What all polled widgets show at their foot. -/
def withFooter (s : WidgetScene) (label : String) (v : WidgetView) : WidgetView :=
  { v.withLines (s.gateLines ++ ["Last refresh: " ++ Instant.clock ⟨s.query.result.ts⟩]
      ++ s.successLines) with
    notice := (s.failureNotice label).or v.notice }

/-- A polled widget: the empty view, or its content and the footer. -/
def polledView (s : WidgetScene) (title label : String) (content : WidgetView) : WidgetView :=
  (s.emptyView? title label).getD (s.withFooter label content)

end WidgetScene
end Dashboard
