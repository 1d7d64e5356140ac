/-
  Dashboard.Command.Report
  ────────────────────────
  The lines that commands print.

  Columns are filled with blanks up to a number of characters; a longer text
  is not cut.  Pixels are printed without a fraction.
-/
import Dashboard.Decimal.Whole
import Dashboard.Document.Arrangement
import Dashboard.Document.Validation
import Dashboard.Session
import Dashboard.Widget.View

namespace Dashboard.Command

open Grid

/-! ## §1. Pieces. -/

/-- A text filled with blanks to a number of characters. -/
def column (width : Nat) (s : String) : String :=
  s ++ String.ofList (List.replicate (width - s.length) ' ')

/-- The place and the size of a rectangle. -/
def rectText (r : Rect) : String := s!"{r.x},{r.y} {r.w}x{r.h}"

/-- The place and the size of a box in pixels. -/
def pixelText (b : PixelBox) : String :=
  let px := Decimal.wholeText
  s!"{px b.left},{px b.top} {px b.width}x{px b.height}"

/-! ## §2. Documents. -/

/-- What is said about a valid document: its outline, what was mended, and
which panels overlap. -/
def validationReport (v : Validated) : List String :=
  let w := v.workspace
  let overlaps (page : Page) : List String :=
    (overlappingPairs (page.layout.panels.map (·.gridRect))).filterMap fun (i, j) => do
      let p ← page.layout.panels[i]?
      let q ← page.layout.panels[j]?
      pure s!"overlap: page '{page.id}' panels '{p.id}' and '{q.id}'"
  [s!"ok: {w.id} '{w.name}' (schema {w.schemaVersion}, {w.pages.length} pages, {w.panelCount} panels)"]
    ++ v.warnings.map (fun warning => s!"warning: {warning}")
    ++ w.pages.flatMap overlaps

/-- What is said after a document was written in its current form. -/
def migrationLine (path : String) (m : Migration) : String :=
  if m.migrated then s!"{path}: schema {m.fromVersion} -> {m.toVersion}"
  else s!"{path}: already at schema {m.toVersion}"

/-! ## §3. Pages. -/

/-- A page in the list of pages; the active one has a star. -/
def pageLine (active : Option String) (p : Page) : String :=
  let mark := if active = some p.id then "*" else " "
  s!"{mark} {p.id} '{p.title}' ({p.layout.panels.length} panels)"

/-- A panel of a page that is laid out. -/
def placementLine (p : PanelPlacement) : String :=
  let flags := (if p.locked then " locked" else "") ++ (if 1 < p.level then " pinned" else "")
  s!"  {column 20 p.panelId} {column 22 p.widgetId} grid {column 10 (rectText p.rect)}"
    ++ s!" px {pixelText p.pixels}{flags}"

/-- A page that is laid out in a width. -/
def layoutLines (width : Float) (a : Arrangement) : List String :=
  let px := Decimal.wholeText
  s!"layout {px width}px wide, {px a.contentHeight}px tall:" :: a.paintOrder.map placementLine

/-- The document shown, its pages, and the layout of the active one. -/
def pageReport (s : Session) (width : Float) (w : Workspace) : List String :=
  let active := s.activePage?.map (·.id)
  [s!"{w.id} '{w.name}' [{s.mode.name}] updated {w.updatedAt}"]
    ++ w.pages.map (pageLine active)
    ++ ((s.arrangement? width).map (layoutLines width)).getD []

/-- What is said after a panel was added. -/
def additionLine (panelId widgetId : String) (rect : Option Rect) (keepDraft : Bool) : String :=
  let place := (rect.map fun r => s!" at {rectText r}").getD ""
  let draft := if keepDraft then " [draft]" else ""
  s!"added {panelId} ({widgetId}){place}{draft}"

/-! ## §4. Lists. -/

/-- A template in the list of templates. -/
def templateLine (t : Template) : String := s!"{column 12 t.id} {t.name}"

/-- A widget in the list of widgets. -/
def widgetLine (d : WidgetDefinition) : String :=
  s!"{column 22 d.id} {column 22 d.title} {column 8 d.category.name}"
    ++ s!" {d.standardSize.w}x{d.standardSize.h}  {d.description}"

/-- A drawn panel with the quality of its data. -/
def statusLines (panelId : String) (status : Health) (v : WidgetView) : List String :=
  [s!"{column 20 panelId} {column 9 status.name} {v.title}: {v.headline}"]
    ++ v.lines.map (fun line => s!"    {line}")
    ++ (v.notice.map fun notice => s!"    ! {notice}").toList

end Dashboard.Command
