/-
  Dashboard.Widget.Registry
  ─────────────────────────
  The widgets: what can be placed on a page, how large it starts, where its
  data comes from and how it is drawn.

  A reserved widget is known by its id but cannot be picked.  A registry keeps
  its definitions in the order of their ids; an id that it does not know is
  drawn as a placeholder.
-/
import Dashboard.Document.Validation
import Dashboard.Text.Lowercase
import Dashboard.Widget.View

namespace Dashboard

open Grid Json Text

/-! ## §1. Definitions. -/

/-- The groups of the catalog. -/
inductive WidgetCategory where
  | status
  | ops
  | bots
  | markets
  | utility
  deriving DecidableEq, Repr

/-- A widget. -/
structure WidgetDefinition where
  id : String
  title : String
  category : WidgetCategory
  standardSize : Size
  leastSize : Size
  description : String
  needs : Requirements
  /-- What is polled for its data; static widgets have none. -/
  endpoint : Option String
  /-- Its own poll interval in milliseconds. -/
  refreshMs : Option Nat
  /-- The health that the widget reads from a payload. -/
  dataStatus : Value → Option Health
  render : WidgetScene → Drawing
  reserved : Bool

namespace WidgetCategory

def name : WidgetCategory → String
  | .status => "Status"
  | .ops => "Ops"
  | .bots => "Bots"
  | .markets => "Markets"
  | .utility => "Utility"

/-- The category of a name in letters of any case, blanks around it aside. -/
def ofName? (raw : String) : Option WidgetCategory :=
  [status, ops, bots, markets, utility].find? fun c => sameAscii c.name (trim raw)

end WidgetCategory

/-! ## §2. Widgets. -/

/-- The note on an empty slot or a widget that is not there. -/
def WidgetScene.placeholderNotice (s : WidgetScene) : String :=
  if s.panel.isPlaceholder then "Empty slot. Pick a widget in edit mode."
  else s!"Widget '{s.panel.widgetId}' is not available in this build."

namespace WidgetDefinition

/-- No health to read. -/
def noStatus (_ : Value) : Option Health := none

def drawPlaceholder (s : WidgetScene) : Drawing :=
  .ofView { WidgetView.ofHeadline (s.titleOr "Placeholder") "Placeholder" with
    notice := some s.placeholderNotice }

def placeholder : WidgetDefinition :=
  ⟨placeholderWidget, "Placeholder", .utility, ⟨3, 1⟩, ⟨1, 1⟩,
    "Empty slot; pick a widget in edit mode.", .none, none, none, noStatus, drawPlaceholder, false⟩

/-- Whether a panel of the widget can be added. -/
def isPickable (d : WidgetDefinition) : Bool := !d.reserved && d.id != placeholderWidget

/-- Whether one text is a part of another. -/
def isPart (part whole : List Char) : Bool := part.isPrefixOf whole || match whole with
  | [] => false
  | _ :: rest => isPart part rest

/-- Whether a search finds the widget by title, id or description. -/
def isFoundBy (d : WidgetDefinition) (search : String) : Bool :=
  let wanted := lowerList (trimList search.toList)
  isPart wanted (lowerList d.title.toList) || isPart wanted d.id.toList
    || isPart wanted (lowerList d.description.toList)

end WidgetDefinition

/-! ## §3. Registries. -/

/-- The known widgets by id. -/
structure Registry where
  widgets : Keyed WidgetDefinition

namespace Registry

/-- No widget. -/
def empty : Registry := ⟨[]⟩

/-- Add or replace a definition. -/
def register (r : Registry) (d : WidgetDefinition) : Registry := ⟨r.widgets.insert d.id d⟩

/-- A registry of some definitions. -/
def ofList (ds : List WidgetDefinition) : Registry := ds.foldl register empty

def get? (r : Registry) (id : String) : Option WidgetDefinition := r.widgets.get? id

def contains (r : Registry) (id : String) : Bool := r.widgets.contains id

/-- The ids in order. -/
def ids (r : Registry) : List String := r.widgets.keys

/-- The widget of an id, or the placeholder. -/
def getOrPlaceholder (r : Registry) (id : String) : WidgetDefinition :=
  ((r.get? id).or (r.get? placeholderWidget)).getD .placeholder

/-- Whether a definition stands before another in a list by title. -/
def titleOrder (a b : WidgetDefinition) : Bool :=
  a.title < b.title || (a.title == b.title && !(b.id < a.id))

/-- All definitions by title. -/
def list (r : Registry) : List WidgetDefinition :=
  (r.widgets.map (·.2)).mergeSort titleOrder

/-- The widgets that can be added, by title, of a category and found by a
search, where one is given. -/
def catalog (r : Registry) (category : Option WidgetCategory) (search : Option String) :
    List WidgetDefinition :=
  r.list.filter fun d =>
    d.isPickable && (category.all fun c => d.category == c) && search.all d.isFoundBy

/-- Validation that knows exactly these widgets. -/
def validationOptions (r : Registry) (mode : ValidationMode) : ValidationOptions :=
  (ValidationOptions.ofMode mode).withWidgets r.ids

end Registry
end Dashboard
