/-
  Dashboard.Document.Workspace
  ────────────────────────────
  The workspace document: pages of panels on a grid.

  A workspace has pages, a page one layout, a layout its panels.  A panel
  names a widget and carries two specs that only the widget understands; they,
  and the records for the freeform and split layouts, are kept verbatim.  All
  timestamps are texts: what was stored is kept, what is stamped here is the
  text of a clock reading.
-/
import Dashboard.Grid.Rect
import Dashboard.Json.Value
import Dashboard.Time.Instant

namespace Dashboard

open Grid Json Time

/-! ## §1. The types. -/

/-- The schema version that this library writes. -/
def schemaVersion : UInt32 := 1

/-- The widget that stands in for every unknown one. -/
def placeholderWidget : String := "placeholder"

/-- How a page is laid out.  Only the grid is laid out by this library. -/
inductive LayoutKind where
  | grid
  | freeform
  | split
  deriving DecidableEq, Repr, Inhabited

/-- Where a panel stands. -/
structure Frame where
  grid : Option Rect
  freeform : Option Value
  deriving Repr, Inhabited

/-- A widget on a page. -/
structure Panel where
  id : String
  widgetId : String
  title : Option String
  dataSpec : Members
  viewSpec : Members
  frame : Frame
  locked : Bool
  pinned : Bool
  guarded : Bool
  createdAt : String
  updatedAt : String
  deriving Repr, Inhabited

/-- The panels of a page and how they are laid out. -/
structure Layout where
  kind : LayoutKind
  panels : List Panel
  gridSpec : Option Spec
  freeformSpec : Option Value
  splitSpec : Option Value
  deriving Repr, Inhabited

/-- One page. -/
structure Page where
  id : String
  title : String
  layout : Layout
  deriving Repr, Inhabited

/-- A dashboard workspace. -/
structure Workspace where
  id : String
  name : String
  pages : List Page
  defaultPageId : String
  createdAt : String
  updatedAt : String
  schemaVersion : UInt32
  deriving Repr, Inhabited

/-! ## §2. Layout kinds. -/

/-- The stored name of a layout kind. -/
def LayoutKind.name : LayoutKind → String
  | .grid => "grid"
  | .freeform => "freeform"
  | .split => "split"

/-- The layout kind of a stored name. -/
def LayoutKind.ofName? (s : String) : Option LayoutKind :=
  if s = "grid" then some .grid
  else if s = "freeform" then some .freeform
  else if s = "split" then some .split
  else none

/-! ## §3. Specs. -/

/-- The data spec of a panel that polls under a key. -/
def dataSpecFor (queryKey : String) : Members := [("queryKey", .text queryKey)]

/-- The view spec of a variant. -/
def viewSpecFor (variant : String) : Members := [("variant", .text variant)]

namespace Panel

/-- The rectangle of a panel whose frame has none. -/
def standardRect : Rect := ⟨0, 0, 3, 2⟩

/-- A new panel without title and flags. -/
def fresh (now : Instant) (id widgetId : String) (rect : Rect) : Panel :=
  { id, widgetId, title := none, dataSpec := dataSpecFor widgetId
    viewSpec := viewSpecFor "default", frame := ⟨some rect, none⟩
    locked := false, pinned := false, guarded := false
    createdAt := now.stamp, updatedAt := now.stamp }

/-- The rectangle that a panel is laid out at. -/
def gridRect (p : Panel) : Rect := p.frame.grid.getD standardRect

def isPlaceholder (p : Panel) : Bool := p.widgetId == placeholderWidget

/-- Put a panel's frame at a rectangle. -/
def withRect (p : Panel) (r : Rect) : Panel := { p with frame := { p.frame with grid := some r } }

/-- Stamp the panel as changed now. -/
def touch (now : Instant) (p : Panel) : Panel := { p with updatedAt := now.stamp }

/-- A text of the data spec. -/
def dataText? (p : Panel) (key : String) : Option String :=
  (p.dataSpec.get? key).bind Value.text?

def queryKey? (p : Panel) : Option String := p.dataText? "queryKey"

def endpointRef? (p : Panel) : Option String := p.dataText? "endpointRef"

def capabilityGate? (p : Panel) : Option String := p.dataText? "capabilityGate"

/-- The panel's own poll interval in milliseconds. -/
def refreshMs? (p : Panel) : Option Nat := (p.dataSpec.get? "refreshMs").bind Value.nat?

def variant? (p : Panel) : Option String := (p.viewSpec.get? "variant").bind Value.text?

/-- A flag of the view spec. -/
def viewFlag (p : Panel) (key : String) (standard : Bool) : Bool :=
  ((p.viewSpec.get? key).bind Value.bool?).getD standard

def compactMode (p : Panel) : Bool := p.viewFlag "compactMode" false

def showBadges (p : Panel) : Bool := p.viewFlag "showBadges" true

end Panel

/-! ## §4. Pages and workspaces. -/

namespace Layout

/-- A grid layout of panels. -/
def ofPanels (panels : List Panel) : Layout := ⟨.grid, panels, none, none, none⟩

/-- The stored grid, or a given one where none is stored. -/
def specOr (l : Layout) (standard : Spec) : Spec := l.gridSpec.getD standard

end Layout

namespace Page

/-- An empty grid page. -/
def fresh (id title : String) : Page := ⟨id, title, .ofPanels []⟩

/-- The panel of an id. -/
def panel? (p : Page) (id : String) : Option Panel := p.layout.panels.find? (·.id == id)

/-- The index of the panel of an id. -/
def panelIndex? (p : Page) (id : String) : Option Nat :=
  p.layout.panels.findIdx? (·.id == id)

/-- The page with other panels. -/
def withPanels (p : Page) (panels : List Panel) : Page :=
  { p with layout := { p.layout with panels } }

end Page

namespace Workspace

/-- The page of an id. -/
def page? (w : Workspace) (id : String) : Option Page := w.pages.find? (·.id == id)

/-- The page that the document names as its default, else the first one. -/
def defaultPage? (w : Workspace) : Option Page :=
  (w.page? w.defaultPageId).or w.pages.head?

/-- The requested page, else the default one. -/
def resolvePage? (w : Workspace) (requested : Option String) : Option Page :=
  (requested.bind w.page?).or w.defaultPage?

/-- The number of panels on all pages. -/
def panelCount (w : Workspace) : Nat :=
  w.pages.foldl (fun n p => n + p.layout.panels.length) 0

/-- Stamp the document as changed now. -/
def touch (now : Instant) (w : Workspace) : Workspace := { w with updatedAt := now.stamp }

end Workspace

/-! ## §5. Sameness. -/

/-- The same optional data. -/
def sameOptional : Option Value → Option Value → Bool
  | none, none => true
  | some a, some b => a.same b
  | _, _ => false

def Frame.same (a b : Frame) : Bool :=
  a.grid == b.grid && sameOptional a.freeform b.freeform

def Panel.same (a b : Panel) : Bool :=
  a.id == b.id && a.widgetId == b.widgetId && a.title == b.title
    && sameMembers a.dataSpec b.dataSpec && sameMembers a.viewSpec b.viewSpec
    && a.frame.same b.frame && a.locked == b.locked && a.pinned == b.pinned
    && a.guarded == b.guarded && a.createdAt == b.createdAt && a.updatedAt == b.updatedAt

/-- Two lists of one length, alike item by item. -/
def allSame {α : Type} (same : α → α → Bool) : List α → List α → Bool
  | [], [] => true
  | a :: as, b :: bs => same a b && allSame same as bs
  | _, _ => false

def Layout.same (a b : Layout) : Bool :=
  a.kind == b.kind && allSame Panel.same a.panels b.panels && a.gridSpec == b.gridSpec
    && sameOptional a.freeformSpec b.freeformSpec && sameOptional a.splitSpec b.splitSpec

def Page.same (a b : Page) : Bool :=
  a.id == b.id && a.title == b.title && a.layout.same b.layout

/-- The same content, whenever created and changed. -/
def Workspace.sameContent (a b : Workspace) : Bool :=
  a.id == b.id && a.name == b.name && allSame Page.same a.pages b.pages
    && a.defaultPageId == b.defaultPageId && a.schemaVersion == b.schemaVersion

end Dashboard
