/-
  Dashboard.Template
  ──────────────────
  The workspaces to start from.

  A template goes through the same migration and validation as an imported
  document, so a registry without some of its widgets repairs or refuses it;
  afterwards it counts as created and changed now.
-/
import Dashboard.Document.Encoding
import Dashboard.Document.Validation
import Dashboard.Text.Lowercase

namespace Dashboard

open Grid Json Time

/-- A workspace to start from. -/
structure Template where
  id : String
  name : String
  workspace : Workspace
  deriving Repr

namespace Template

/-! ## §1. Pieces. -/

/-- The time that the documents of templates carry. -/
def epoch : String := "2024-01-01T00:00:00.000Z"

/-- A panel without flags. -/
def panel (id widgetId title : String) (rect : Rect) : Panel :=
  { id, widgetId, title := some title, dataSpec := dataSpecFor widgetId
    viewSpec := viewSpecFor "default", frame := ⟨some rect, none⟩
    locked := false, pinned := false, guarded := false
    createdAt := epoch, updatedAt := epoch }

/-- A panel that polls at an interval of its own. -/
def polling (ms : Nat) (p : Panel) : Panel :=
  { p with dataSpec := Keyed.insert "refreshMs" (.ofNat ms) p.dataSpec }

/-- A panel with a flag of its view on. -/
def showing (flag : String) (p : Panel) : Panel :=
  { p with viewSpec := Keyed.insert flag (.bool true) p.viewSpec }

/-- A document of pages that opens at the first of the given id. -/
def document (id name defaultPageId : String) (pages : List Page) : Workspace :=
  ⟨id, name, pages, defaultPageId, epoch, epoch, schemaVersion⟩

/-! ## §2. The templates. -/

/-- For market data. -/
def marketdata : Template :=
  ⟨"marketdata", "Market Data Desk",
    document "tpl-marketdata" "Market Data Desk" "overview"
      [⟨"overview", "Overview", ⟨.grid,
        [{ showing "showBadges"
            (panel "md-status" "system-status" "System Status" ⟨0, 0, 3, 2⟩) with pinned := true },
          panel "md-markets" "markets-overview" "Markets" ⟨3, 0, 6, 3⟩,
          showing "compactMode"
            (panel "md-degraded" "degraded-components" "Degraded Components" ⟨9, 0, 3, 3⟩),
          panel "md-links" "quick-nav" "Quick Links" ⟨0, 2, 3, 1⟩],
        some ⟨12, 80, 12⟩, none, none⟩⟩]⟩

/-- For running bots. -/
def execution : Template :=
  ⟨"execution", "Execution Monitor",
    document "tpl-execution" "Execution Monitor" "bots"
      [⟨"bots", "Bots", .ofPanels
        [{ panel "ex-bots" "bots-overview" "Bots KPI" ⟨0, 0, 4, 2⟩ with pinned := true },
          panel "ex-status" "system-status" "System Status" ⟨4, 0, 3, 2⟩,
          panel "ex-commands" "commands-summary" "Commands" ⟨7, 0, 5, 2⟩]⟩,
      ⟨"health", "Health", .ofPanels
        [panel "ex-degraded" "degraded-components" "Degraded Components" ⟨0, 0, 6, 2⟩,
          panel "ex-links" "quick-nav" "Quick Links" ⟨6, 0, 4, 1⟩]⟩]⟩

/-- For incidents. -/
def incident : Template :=
  ⟨"incident", "Incident Response",
    document "tpl-incident" "Incident Response" "triage"
      [⟨"triage", "Triage", .ofPanels
        [{ polling 5000 (showing "showBadges"
            (panel "ir-status" "system-status" "System Status" ⟨0, 0, 3, 2⟩)) with
            pinned := true, guarded := true },
          { polling 5000
            (panel "ir-degraded" "degraded-components" "Degraded Components" ⟨3, 0, 9, 2⟩) with
            locked := true },
          panel "ir-feed" "incident-feed" "Incident Feed" ⟨0, 2, 8, 3⟩,
          panel "ir-links" "quick-nav" "Quick Links" ⟨8, 2, 4, 1⟩]⟩]⟩

/-- All templates. -/
def all : List Template := [marketdata, execution, incident]

/-- The template of an id in letters of any case, blanks around it aside. -/
def find? (id : String) : Option Template :=
  all.find? fun t => Text.sameAscii t.id (Text.trim id)

/-- A new document of the template. -/
def instantiate (t : Template) (o : ValidationOptions) (now : Instant) :
    Except ValidationError Validated :=
  (migrateAndValidate o now t.workspace.asValue).map fun v =>
    { v with workspace :=
        { v.workspace with createdAt := now.stamp, updatedAt := now.stamp, schemaVersion } }

end Template
end Dashboard
