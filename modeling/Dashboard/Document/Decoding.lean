/-
  Dashboard.Document.Decoding
  ───────────────────────────
  Reading a document's fields from JSON data, type by type.

  A record is an object with the fields' names or an array with the fields in
  table order.  Unknown names are passed over; an array may end early where
  only optional fields are missing, and holds nothing after the last field.
  No rule across fields is checked here: that is validation.
-/
import Dashboard.Document.Workspace

namespace Dashboard

open Grid Json

/-! ## §1. Records. -/

/-- The value of each field of a record, where present. -/
def fieldValues? (names : List String) : Value → Option (List (Option Value))
  | .object m => some (names.map fun name => Keyed.get? name m)
  | .list items =>
    if items.length ≤ names.length then
      some (items.map some ++ List.replicate (names.length - items.length) none)
    else none
  | _ => none

/-- A field that must be there. -/
def required? {α : Type} (decode : Value → Option α) (v : Option Value) : Option α :=
  v.bind decode

/-- A field that may be missing or null. -/
def optional? {α : Type} (decode : Value → Option α) : Option Value → Option (Option α)
  | none | some .null => some none
  | some v => (decode v).map some

/-- A field that has a standard value when it is missing. -/
def defaulted? {α : Type} (standard : α) (decode : Value → Option α) :
    Option Value → Option α
  | none => some standard
  | some v => decode v

/-! ## §2. The types. -/

def Grid.Rect.ofValue? (v : Value) : Option Rect := do
  match ← fieldValues? ["x", "y", "w", "h"] v with
  | [x, y, w, h] =>
    pure ⟨← required? Value.word32? x, ← required? Value.word32? y,
      ← required? Value.word32? w, ← required? Value.word32? h⟩
  | _ => none

def Grid.Spec.ofValue? (v : Value) : Option Spec := do
  match ← fieldValues? ["columns", "rowHeight", "gap"] v with
  | [columns, rowHeight, gap] =>
    pure ⟨← required? Value.word32? columns, ← required? Value.word32? rowHeight,
      ← required? Value.word32? gap⟩
  | _ => none

/-- A layout kind by its name, or as an object of that name with null. -/
def LayoutKind.ofValue? : Value → Option LayoutKind
  | .text s => LayoutKind.ofName? s
  | .object [(s, .null)] => LayoutKind.ofName? s
  | _ => none

def Frame.ofValue? (v : Value) : Option Frame := do
  match ← fieldValues? ["grid", "freeform"] v with
  | [grid, freeform] =>
    pure ⟨← optional? Rect.ofValue? grid, ← optional? some freeform⟩
  | _ => none

def Panel.ofValue? (v : Value) : Option Panel := do
  match ← fieldValues? ["id", "widgetId", "title", "dataSpec", "viewSpec", "frame",
    "locked", "pinned", "protected", "createdAt", "updatedAt"] v with
  | [id, widgetId, title, dataSpec, viewSpec, frame, locked, pinned, guarded,
      createdAt, updatedAt] =>
    pure {
      id := ← required? Value.text? id
      widgetId := ← required? Value.text? widgetId
      title := ← optional? Value.text? title
      dataSpec := ← required? Value.members? dataSpec
      viewSpec := ← required? Value.members? viewSpec
      frame := ← required? Frame.ofValue? frame
      locked := ← defaulted? false Value.bool? locked
      pinned := ← defaulted? false Value.bool? pinned
      guarded := ← defaulted? false Value.bool? guarded
      createdAt := ← required? Value.text? createdAt
      updatedAt := ← required? Value.text? updatedAt }
  | _ => none

/-- A list whose items all decode. -/
def listOf? {α : Type} (decode : Value → Option α) (v : Value) : Option (List α) :=
  v.items?.bind fun items => items.mapM decode

def Layout.ofValue? (v : Value) : Option Layout := do
  match ← fieldValues? ["kind", "panels", "gridSpec", "freeformSpec", "splitSpec"] v with
  | [kind, panels, gridSpec, freeformSpec, splitSpec] =>
    pure {
      kind := ← required? LayoutKind.ofValue? kind
      panels := ← required? (listOf? Panel.ofValue?) panels
      gridSpec := ← optional? Spec.ofValue? gridSpec
      freeformSpec := ← optional? some freeformSpec
      splitSpec := ← optional? some splitSpec }
  | _ => none

def Page.ofValue? (v : Value) : Option Page := do
  match ← fieldValues? ["id", "title", "layout"] v with
  | [id, title, layout] =>
    pure ⟨← required? Value.text? id, ← required? Value.text? title,
      ← required? Layout.ofValue? layout⟩
  | _ => none

def Workspace.ofValue? (v : Value) : Option Workspace := do
  match ← fieldValues? ["id", "name", "pages", "defaultPageId", "createdAt", "updatedAt",
    "schemaVersion"] v with
  | [id, name, pages, defaultPageId, createdAt, updatedAt, version] =>
    pure {
      id := ← required? Value.text? id
      name := ← required? Value.text? name
      pages := ← required? (listOf? Page.ofValue?) pages
      defaultPageId := ← required? Value.text? defaultPageId
      createdAt := ← required? Value.text? createdAt
      updatedAt := ← required? Value.text? updatedAt
      schemaVersion := ← required? Value.word32? version }
  | _ => none

end Dashboard
