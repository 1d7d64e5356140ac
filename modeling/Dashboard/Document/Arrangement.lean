/-
  Dashboard.Document.Arrangement
  ──────────────────────────────
  A page's panels as boxes on the screen.

  Placements stand in document order.  Pinned panels are painted above all
  others, and within a level later panels above earlier ones.
-/
import Dashboard.Document.Workspace
import Dashboard.Grid.Metrics
import Dashboard.Grid.Placement

namespace Dashboard

open Grid

/-- Where one panel is drawn. -/
structure PanelPlacement where
  panelId : String
  widgetId : String
  rect : Rect
  pixels : PixelBox
  level : Nat
  locked : Bool
  deriving Repr

/-- The placements of a page, and the height that shows them all. -/
structure Arrangement where
  placements : List PanelPlacement
  contentHeight : Float
  deriving Repr

/-- The level that panels are painted at. -/
def Panel.level (p : Panel) : Nat := if p.pinned then 2 else 1

/-- The placement of a panel. -/
def Panel.place (m : Metrics) (p : Panel) : PanelPlacement :=
  ⟨p.id, p.widgetId, p.gridRect, m.pixelBox p.gridRect, p.level, p.locked⟩

namespace Arrangement

/-- Place panels on a grid. -/
def ofPanels (m : Metrics) (panels : List Panel) : Arrangement :=
  ⟨panels.map (·.place m), m.contentHeight (panels.map (·.gridRect))⟩

/-- Placements in the order they are painted. -/
def paintOrder (a : Arrangement) : List PanelPlacement :=
  a.placements.mergeSort fun p q => p.level ≤ q.level

/-- The ids of each pair of panels that overlap. -/
def overlaps (a : Arrangement) : List (String × String) :=
  (overlappingPairs (a.placements.map (·.rect))).filterMap fun (i, j) => do
    let p ← a.placements[i]?
    let q ← a.placements[j]?
    pure (p.panelId, q.panelId)

/-- The placement of a panel. -/
def placement? (a : Arrangement) (panelId : String) : Option PanelPlacement :=
  a.placements.find? (·.panelId == panelId)

end Arrangement
end Dashboard
