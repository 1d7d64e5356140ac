/-
  Dashboard.Document.Encoding
  ───────────────────────────
  Documents as JSON.

  Absent fields and flags that are off are left out.  The same field tables
  serve two forms: `asValue` puts the members of each record in key order, as
  JSON data has them, and `asWritten` keeps the order of the tables, as the
  text of a document does.
-/
import Dashboard.Document.Workspace
import Dashboard.Json.Printer

namespace Dashboard

open Grid Json

/-! ## §1. Records. -/

/-- How the present fields of a record become a value. -/
abbrev Shape := Members → Value

/-- Members in key order. -/
def Shape.inKeyOrder : Shape := Value.ofMembers

/-- Members in the order of the field table. -/
def Shape.inFieldOrder : Shape := Value.object

/-- The present fields of a table. -/
def presentFields (fields : List (String × Option Value)) : Members :=
  fields.filterMap fun (k, v) => v.map fun v => (k, v)

/-- A flag that is written only when it is on. -/
def flagField (b : Bool) : Option Value := if b then some (.bool true) else none

/-- A word as a number. -/
def wordValue (n : UInt32) : Value := .ofNat n.toNat

/-! ## §2. Field tables. -/

def Grid.Rect.encode (shape : Shape) (r : Rect) : Value :=
  shape [("x", wordValue r.x), ("y", wordValue r.y), ("w", wordValue r.w),
    ("h", wordValue r.h)]

def Grid.Spec.encode (shape : Shape) (s : Spec) : Value :=
  shape [("columns", wordValue s.columns), ("rowHeight", wordValue s.rowHeight),
    ("gap", wordValue s.gap)]

def Frame.encode (shape : Shape) (f : Frame) : Value :=
  shape (presentFields
    [("grid", f.grid.map (·.encode shape)), ("freeform", f.freeform)])

def Panel.encode (shape : Shape) (p : Panel) : Value :=
  shape (presentFields
    [("id", some (.text p.id)), ("widgetId", some (.text p.widgetId)),
      ("title", p.title.map .text), ("dataSpec", some (.object p.dataSpec)),
      ("viewSpec", some (.object p.viewSpec)), ("frame", some (p.frame.encode shape)),
      ("locked", flagField p.locked), ("pinned", flagField p.pinned),
      ("protected", flagField p.guarded), ("createdAt", some (.text p.createdAt)),
      ("updatedAt", some (.text p.updatedAt))])

def Layout.encode (shape : Shape) (l : Layout) : Value :=
  shape (presentFields
    [("kind", some (.text l.kind.name)),
      ("panels", some (.list (l.panels.map (·.encode shape)))),
      ("gridSpec", l.gridSpec.map (·.encode shape)),
      ("freeformSpec", l.freeformSpec), ("splitSpec", l.splitSpec)])

def Page.encode (shape : Shape) (p : Page) : Value :=
  shape [("id", .text p.id), ("title", .text p.title), ("layout", p.layout.encode shape)]

def Workspace.encode (shape : Shape) (w : Workspace) : Value :=
  shape [("id", .text w.id), ("name", .text w.name),
    ("pages", .list (w.pages.map (·.encode shape))),
    ("defaultPageId", .text w.defaultPageId), ("createdAt", .text w.createdAt),
    ("updatedAt", .text w.updatedAt), ("schemaVersion", wordValue w.schemaVersion)]

/-! ## §3. The two forms. -/

/-- A panel as JSON data. -/
def Panel.asValue (p : Panel) : Value := p.encode .inKeyOrder

/-- A document as JSON data. -/
def Workspace.asValue (w : Workspace) : Value := w.encode .inKeyOrder

/-- A document's compact text. -/
def Workspace.compactText (w : Workspace) : String := (w.encode .inFieldOrder).compact

/-- A document's laid out text. -/
def Workspace.prettyText (w : Workspace) : String := (w.encode .inFieldOrder).pretty

end Dashboard
