/-
  Dashboard.Document.Path
  ───────────────────────
  Places in a JSON document, such as `$.pages[1].layout.panels[0].widgetId`.
-/

namespace Dashboard

/-- One step down into a document. -/
inductive Segment where
  | key (k : String)
  | index (i : Nat)
  deriving DecidableEq, Repr

/-- The text of a step. -/
def Segment.render : Segment → String
  | .key k => s!".{k}"
  | .index i => s!"[{i}]"

/-- The steps from the root to a place. -/
structure Path where
  segments : List Segment
  deriving DecidableEq, Repr

namespace Path

/-- The whole document. -/
def root : Path := ⟨[]⟩

/-- A member of the place. -/
def key (p : Path) (k : String) : Path := ⟨p.segments ++ [.key k]⟩

/-- An item of the place. -/
def index (p : Path) (i : Nat) : Path := ⟨p.segments ++ [.index i]⟩

/-- The text of a path. -/
def render (p : Path) : String := p.segments.foldl (fun s g => s ++ g.render) "$"

end Path
end Dashboard
