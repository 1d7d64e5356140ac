/-
  Dashboard.Document.Validation
  ─────────────────────────────
  From JSON data to a typed workspace.

  The document is walked depth first and the first fault ends the walk, with
  the place it was found at.  In safe mode a recoverable fault is repaired
  instead, most repairs leaving a warning:

      unknown widget                 the placeholder, with a warning
      missing or mistyped spec       the placeholder's spec
      missing or mistyped frame      the rectangle (0, 0, 3, 1)
      unknown layout kind            the grid, with a warning
      rectangle out of range         clamped into the grid, with a warning
      mistyped flag                  off, with a warning
      mistyped timestamp             now, with a warning

  A document newer than this library is refused in both modes.
-/
import Dashboard.Document.Migration
import Dashboard.Document.Path
import Dashboard.Json.Reader
import Dashboard.Text.Blank

namespace Dashboard

open Grid Json Time

/-! ## §1. Options. -/

/-- Whether faults end the walk or are repaired. -/
inductive ValidationMode where
  | strict
  | safe
  deriving DecidableEq, Repr, Inhabited

/-- The mode, the widgets that are known and the grid of pages without one. -/
structure ValidationOptions where
  mode : ValidationMode
  knownWidgets : List String
  gridDefaults : Spec
  deriving Repr

/-- The widgets that are known where no registry says otherwise. -/
def standardWidgets : List String :=
  ["system-status", "bots-overview", "degraded-components", "quick-nav",
    "markets-overview", "commands-summary", "incident-feed", placeholderWidget]

namespace ValidationOptions

/-- Standard widgets and grid in a mode. -/
def ofMode (mode : ValidationMode) : ValidationOptions := ⟨mode, standardWidgets, .standard⟩

/-- Other known widgets; the placeholder is always one. -/
def withWidgets (o : ValidationOptions) (ids : List String) : ValidationOptions :=
  { o with knownWidgets :=
      if ids.contains placeholderWidget then ids else ids ++ [placeholderWidget] }

/-- Another grid for pages without one. -/
def withGrid (o : ValidationOptions) (grid : Spec) : ValidationOptions :=
  { o with gridDefaults := grid }

/-- Whether a widget is accepted. -/
def knows (o : ValidationOptions) (id : String) : Bool :=
  o.knownWidgets.contains id || id == placeholderWidget

def isSafe (o : ValidationOptions) : Bool := o.mode == .safe

end ValidationOptions

/-- The rectangle of a panel that arrives without a usable one. -/
def repairRect : Rect := ⟨0, 0, 3, 1⟩

/-! ## §2. Faults and repairs. -/

/-- What is wrong at a place. -/
inductive Fault where
  | notAnObject (what : String)
  | blankText (key : String)
  | versionMissing
  | versionNotNatural
  | pagesNotAList
  | noPages
  | duplicatePage (id : String)
  | duplicatePanel (id : String)
  | timestampNotText (key : String)
  | layoutMissing
  | kindMissing
  | unknownKind (kind : String)
  | invalidGridSpec
  | panelsNotAList
  | unknownWidget (id : String)
  | titleNotText
  | recordMissing (key : String)
  | recordNotAnObject (key : String)
  | cellNotNatural (key : String)
  | spanZero (key : String)
  | tooWide (columns : UInt32)
  | flagNotBoolean (key : String)
  deriving DecidableEq, Repr

/-- The wording of a fault. -/
def Fault.message : Fault → String
  | .notAnObject what => s!"{what} must be an object"
  | .blankText key => s!"{key} must be a non-empty string"
  | .versionMissing => "schemaVersion is required"
  | .versionNotNatural => "schemaVersion must be a non-negative integer"
  | .pagesNotAList => "pages must be an array"
  | .noPages => "pages must not be empty"
  | .duplicatePage id => s!"duplicate page id '{id}'"
  | .duplicatePanel id => s!"duplicate panel id '{id}'"
  | .timestampNotText key => s!"{key} must be a timestamp string"
  | .layoutMissing => "layout is required"
  | .kindMissing => "kind must be one of grid, freeform, split"
  | .unknownKind kind => s!"unknown layout kind '{kind}'"
  | .invalidGridSpec => "gridSpec needs integer columns >= 1, rowHeight >= 1 and gap >= 0"
  | .panelsNotAList => "panels must be an array"
  | .unknownWidget id => s!"unknown widget '{id}'"
  | .titleNotText => "title must be a string"
  | .recordMissing key => s!"{key} is required"
  | .recordNotAnObject key => s!"{key} must be an object"
  | .cellNotNatural key => s!"{key} must be a non-negative integer"
  | .spanZero key => s!"{key} must be >= 1"
  | .tooWide columns => s!"x + w must not exceed {columns} columns"
  | .flagNotBoolean key => s!"{key} must be a boolean"

/-- A repair that is reported. -/
inductive Repair where
  | firstPageAsDefault (id : String)
  | timestampReset (key : String)
  | titleFromId (id : String)
  | kindToGrid (kind : String)
  | gridSpecDropped
  | widgetToPlaceholder (id : String)
  | titleDropped
  | frameReplaced
  | cellReset (key : String)
  | frameClamped (found : Rect) (columns : UInt32)
  | flagReset (key : String)
  deriving DecidableEq, Repr

/-- The wording of a repair. -/
def Repair.message : Repair → String
  | .firstPageAsDefault id => s!"Missing defaultPageId; using '{id}'"
  | .timestampReset key => s!"Invalid {key} reset to now"
  | .titleFromId id => s!"Missing page title; using '{id}'"
  | .kindToGrid kind => s!"Unknown layout kind '{kind}' converted to grid"
  | .gridSpecDropped => "Invalid gridSpec replaced by the default grid"
  | .widgetToPlaceholder id => s!"Unknown widget '{id}' converted to placeholder"
  | .titleDropped => "Non-string panel title dropped"
  | .frameReplaced => "Invalid grid frame replaced by the default frame"
  | .cellReset key => s!"Invalid frame {key} reset"
  | .frameClamped r columns =>
    s!"Frame \x7bx:{r.x},y:{r.y},w:{r.w},h:{r.h}\x7d clamped into a {columns}-column grid"
  | .flagReset key => s!"Non-boolean {key} reset to false"

/-- A repair and where it was made. -/
structure Warning where
  repair : Repair
  path : Path
  deriving DecidableEq, Repr

/-- The wording of a warning. -/
def Warning.message (w : Warning) : String := s!"{w.repair.message} (at {w.path.render})"

/-- Why a document is refused. -/
inductive ValidationError where
  | schema (fault : Fault) (path : Path)
  | unsupportedVersion (found : Nat)
  /-- The text is no JSON text. -/
  | corrupted
  deriving DecidableEq, Repr

/-- The wording of a refusal. -/
def ValidationError.message : ValidationError → String
  | .schema fault path => s!"{fault.message} (at {path.render})"
  | .unsupportedVersion found => unsupportedVersionMessage found
  | .corrupted => "workspace JSON is corrupted: the text is not JSON"

/-- Where a refused document is at fault. -/
def ValidationError.path? : ValidationError → Option Path
  | .schema _ path => some path
  | .unsupportedVersion _ => some (Path.root.key versionKey)
  | .corrupted => none

/-- A document that cannot be migrated is refused. -/
def ValidationError.ofMigration : MigrationError → ValidationError
  | .notAnObject => .schema (.notAnObject "workspace") .root
  | .invalidVersion _ => .schema .versionNotNatural (Path.root.key versionKey)
  | .unsupportedVersion found => .unsupportedVersion found

/-! ## §3. Checks. -/

/-- A check gives a value and the warnings on the way, or a refusal. -/
def Check (α : Type) : Type := Except ValidationError (α × List Warning)

namespace Check

/-- No warning. -/
def done {α : Type} (a : α) : Check α := .ok (a, [])

/-- One check after another: the first refusal ends both, warnings add up. -/
def andThen {α β : Type} (c : Check α) (f : α → Check β) : Check β :=
  match c with
  | .error e => .error e
  | .ok (a, ws) =>
    match f a with
    | .error e => .error e
    | .ok (b, more) => .ok (b, ws ++ more)

instance : Monad Check where
  pure := done
  bind := andThen

/-- A fault at a place. -/
def fail {α : Type} (path : Path) (fault : Fault) : Check α := .error (.schema fault path)

/-- A repaired value with its warning. -/
def repaired {α : Type} (path : Path) (repair : Repair) (a : α) : Check α :=
  .ok (a, [⟨repair, path⟩])

end Check

/-- A fault in strict mode, a repair with a warning in safe mode. -/
def ValidationOptions.mend {α : Type} (o : ValidationOptions) (path : Path) (fault : Fault)
    (repair : Repair) (a : α) : Check α :=
  if o.isSafe then Check.repaired path repair a else Check.fail path fault

/-- A fault in strict mode, a repair without a warning in safe mode. -/
def ValidationOptions.assume {α : Type} (o : ValidationOptions) (path : Path) (fault : Fault)
    (a : α) : Check α :=
  if o.isSafe then Check.done a else Check.fail path fault

/-! ## §4. Fields. -/

namespace Validation

/-- An object. -/
def object (v : Value) (path : Path) (what : String) : Check Members :=
  match v.members? with
  | some m => .done m
  | none => .fail path (.notAnObject what)

/-- A text that is not blank, under a key. -/
def filledText? (m : Members) (key : String) : Option String :=
  ((m.get? key).bind Value.text?).filter fun s => !Text.isBlankText s

/-- A text that must not be blank. -/
def requiredText (m : Members) (key : String) (path : Path) : Check String :=
  match filledText? m key with
  | some s => .done s
  | none => .fail (path.key key) (.blankText key)

/-- A timestamp: any text that is not empty; now where there is none. -/
def timestamp (o : ValidationOptions) (now : Instant) (m : Members) (key : String)
    (path : Path) : Check String :=
  match m.get? key with
  | none | some .null => .done now.stamp
  | some (.text s) =>
    if s ≠ "" then .done s
    else o.mend (path.key key) (.timestampNotText key) (.timestampReset key) now.stamp
  | some _ => o.mend (path.key key) (.timestampNotText key) (.timestampReset key) now.stamp

/-- A flag; off where there is none. -/
def flag (o : ValidationOptions) (m : Members) (key : String) (path : Path) : Check Bool :=
  match m.get? key with
  | none | some .null => .done false
  | some (.bool b) => .done b
  | some _ => o.mend (path.key key) (.flagNotBoolean key) (.flagReset key) false

/-- Data kept verbatim; null counts as absent. -/
def kept (m : Members) (key : String) : Option Value :=
  (m.get? key).filter fun v => !v.isNull

/-- A 32-bit word under a key. -/
def word? (m : Members) (key : String) : Option UInt32 := (m.get? key).bind Value.word32?

/-! ## §5. Panels. -/

/-- A spec; a given one in safe mode where there is none. -/
def spec (o : ValidationOptions) (m : Members) (key : String) (path : Path)
    (standard : Members) : Check Members :=
  match m.get? key with
  | some (.object s) => .done s
  | none | some .null => o.assume (path.key key) (.recordMissing key) standard
  | some _ => o.assume (path.key key) (.recordNotAnObject key) standard

/-- One edge of a rectangle. -/
def cell (o : ValidationOptions) (m : Members) (key : String) (path : Path)
    (standard : UInt32) : Check UInt32 :=
  match word? m key with
  | some n => .done n
  | none => o.mend (path.key key) (.cellNotNatural key) (.cellReset key) standard

/-- Why a rectangle does not fit a grid of `columns`, and at which key. -/
def misfit (r : Rect) (columns : UInt32) : String × Fault :=
  if r.w = 0 then ("w", .spanZero "w")
  else if r.h = 0 then ("h", .spanZero "h")
  else ("w", .tooWide columns)

/-- A rectangle on a grid of `columns`. -/
def rect (o : ValidationOptions) (v : Value) (path : Path) (columns : UInt32) : Check Rect :=
  match v.members? with
  | none => o.mend path (.notAnObject "grid") .frameReplaced repairRect
  | some m => do
    let x ← cell o m "x" path 0
    let y ← cell o m "y" path 0
    let w ← cell o m "w" path repairRect.w
    let h ← cell o m "h" path repairRect.h
    -- every edge is mended on its own before the whole is clamped
    let r : Rect := ⟨x, y, w, h⟩
    if r.fits columns then Check.done r
    else if o.isSafe then
      Check.repaired path (.frameClamped r columns) (r.clamped columns)
    else
      let (key, fault) := misfit r columns
      Check.fail (path.key key) fault

/-- The rectangle of a frame, if it has one. -/
def frameRect (o : ValidationOptions) (m : Members) (path : Path) (columns : UInt32) :
    Check (Option Rect) :=
  match m.get? "grid" with
  | none | some .null => .done none
  | some v => do
    let r ← rect o v (path.key "grid") columns
    Check.done (some r)

/-- The frame of a panel. -/
def frame (o : ValidationOptions) (m : Members) (path : Path) (columns : UInt32) :
    Check Frame :=
  let path := path.key "frame"
  let standard : Frame := ⟨some repairRect, none⟩
  match m.get? "frame" with
  | some (.object f) => do
    let grid ← frameRect o f path columns
    Check.done ⟨grid, kept f "freeform"⟩
  | none | some .null => o.assume path (.recordMissing "frame") standard
  | some _ => o.assume path (.recordNotAnObject "frame") standard

/-- The widget of a panel. -/
def widget (o : ValidationOptions) (m : Members) (path : Path) : Check String := do
  let id ← requiredText m "widgetId" path
  if o.knows id then Check.done id
  else
    o.mend (path.key "widgetId") (.unknownWidget id) (.widgetToPlaceholder id)
      placeholderWidget

/-- The title of a panel. -/
def panelTitle (o : ValidationOptions) (m : Members) (path : Path) : Check (Option String) :=
  match m.get? "title" with
  | none | some .null => .done none
  | some (.text s) => .done (some s)
  | some _ => o.mend (path.key "title") .titleNotText .titleDropped none

/-- A panel on a grid of `columns`. -/
def panel (o : ValidationOptions) (now : Instant) (v : Value) (path : Path)
    (columns : UInt32) : Check Panel := do
  let m ← object v path "panel"
  let id ← requiredText m "id" path
  let widgetId ← widget o m path
  let title ← panelTitle o m path
  let dataSpec ← spec o m "dataSpec" path (dataSpecFor placeholderWidget)
  let viewSpec ← spec o m "viewSpec" path (viewSpecFor placeholderWidget)
  let frame ← frame o m path columns
  let locked ← flag o m "locked" path
  let pinned ← flag o m "pinned" path
  let guarded ← flag o m "protected" path
  let createdAt ← timestamp o now m "createdAt" path
  let updatedAt ← timestamp o now m "updatedAt" path
  Check.done ⟨id, widgetId, title, dataSpec, viewSpec, frame, locked, pinned, guarded,
    createdAt, updatedAt⟩

/-- The panels of a list from an index on, each id once. -/
def panels (o : ValidationOptions) (now : Instant) (path : Path) (columns : UInt32) :
    Nat → List String → List Value → Check (List Panel)
  | _, _, [] => .done []
  | i, seen, v :: rest => do
    let p ← panel o now v (path.index i) columns
    -- no mode mends an id that is given twice
    if seen.contains p.id then Check.fail ((path.index i).key "id") (.duplicatePanel p.id)
    else
      let more ← panels o now path columns (i + 1) (p.id :: seen) rest
      Check.done (p :: more)

/-! ## §6. Pages. -/

/-- The layout kind. -/
def kind (o : ValidationOptions) (m : Members) (path : Path) : Check LayoutKind :=
  match (m.get? "kind").bind Value.text? with
  | some s =>
    match LayoutKind.ofName? s with
    | some k => .done k
    | none => o.mend (path.key "kind") (.unknownKind s) (.kindToGrid s) .grid
  | none => o.assume (path.key "kind") .kindMissing .grid

/-- A usable grid of a record. -/
def usableSpec? (v : Value) : Option Spec := do
  let m ← v.members?
  let columns ← word? m "columns"
  let rowHeight ← word? m "rowHeight"
  let gap ← word? m "gap"
  if 1 ≤ columns ∧ 1 ≤ rowHeight then pure ⟨columns, rowHeight, gap⟩ else none

/-- The grid of a page, if it has one. -/
def gridSpec (o : ValidationOptions) (m : Members) (path : Path) : Check (Option Spec) :=
  match kept m "gridSpec" with
  | none => .done none
  | some v =>
    match usableSpec? v with
    | some s => .done (some s)
    | none => o.mend (path.key "gridSpec") .invalidGridSpec .gridSpecDropped none

/-- The panels of a layout. -/
def panelList (o : ValidationOptions) (now : Instant) (m : Members) (path : Path)
    (columns : UInt32) : Check (List Panel) :=
  let path := path.key "panels"
  match m.get? "panels" with
  | some (.list items) => panels o now path columns 0 [] items
  | none | some .null => o.assume path .panelsNotAList []
  | some _ => .fail path .panelsNotAList

/-- The layout of a page. -/
def layout (o : ValidationOptions) (now : Instant) (v : Value) (path : Path) :
    Check Layout := do
  let m ← object v path "layout"
  let kind ← kind o m path
  let gridSpec ← gridSpec o m path
  -- the panels are held to the page's own grid, if it has a usable one
  let panels ← panelList o now m path (gridSpec.getD o.gridDefaults).columns
  Check.done ⟨kind, panels, gridSpec, kept m "freeformSpec", kept m "splitSpec"⟩

/-- The title of a page. -/
def pageTitle (o : ValidationOptions) (m : Members) (id : String) (path : Path) :
    Check String :=
  match filledText? m "title" with
  | some s => .done s
  | none => o.mend (path.key "title") (.blankText "title") (.titleFromId id) id

/-- A page. -/
def page (o : ValidationOptions) (now : Instant) (v : Value) (path : Path) : Check Page := do
  let m ← object v path "page"
  let id ← requiredText m "id" path
  let title ← pageTitle o m id path
  match m.get? "layout" with
  | none => Check.fail (path.key "layout") .layoutMissing
  | some v =>
    let layout ← layout o now v (path.key "layout")
    Check.done ⟨id, title, layout⟩

/-- The pages of a list from an index on, each id once. -/
def pages (o : ValidationOptions) (now : Instant) (path : Path) :
    Nat → List String → List Value → Check (List Page)
  | _, _, [] => .done []
  | i, seen, v :: rest => do
    let p ← page o now v (path.index i)
    if seen.contains p.id then Check.fail ((path.index i).key "id") (.duplicatePage p.id)
    else
      let more ← pages o now path (i + 1) (p.id :: seen) rest
      Check.done (p :: more)

/-! ## §7. The workspace. -/

/-- The schema version. -/
def version (m : Members) (path : Path) : Check UInt32 :=
  match m.get? versionKey with
  | none => .fail (path.key versionKey) .versionMissing
  | some v =>
    match v.nat? with
    | none => .fail (path.key versionKey) .versionNotNatural
    | some n =>
      if schemaVersion.toNat < n then .error (.unsupportedVersion n)
      else .done (UInt32.ofNat n)

/-- The pages of a workspace, at least one. -/
def pageList (o : ValidationOptions) (now : Instant) (m : Members) (path : Path) :
    Check (List Page) :=
  let path := path.key "pages"
  match (m.get? "pages").bind Value.items? with
  | none => .fail path .pagesNotAList
  | some [] => .fail path .noPages
  | some items => pages o now path 0 [] items

/-- The id of the default page. -/
def defaultPageId (o : ValidationOptions) (m : Members) (pages : List Page) (path : Path) :
    Check String :=
  match filledText? m "defaultPageId" with
  | some s => .done s
  | none =>
    let first := (pages.head?.map (·.id)).getD ""
    o.mend (path.key "defaultPageId") (.blankText "defaultPageId")
      (.firstPageAsDefault first) first

/-- A workspace. -/
def workspace (o : ValidationOptions) (now : Instant) (v : Value) : Check Workspace := do
  let path := Path.root
  let m ← object v path "workspace"
  let schemaVersion ← version m path
  let id ← requiredText m "id" path
  let name ← requiredText m "name" path
  let pages ← pageList o now m path
  let defaultPageId ← defaultPageId o m pages path
  let createdAt ← timestamp o now m "createdAt" path
  let updatedAt ← timestamp o now m "updatedAt" path
  Check.done ⟨id, name, pages, defaultPageId, createdAt, updatedAt, schemaVersion⟩

end Validation

/-! ## §8. Entry points. -/

/-- A validated document and the reports on the way. -/
structure Validated where
  workspace : Workspace
  warnings : List String
  deriving Repr

/-- Validate a document of the current version. -/
def validate (o : ValidationOptions) (now : Instant) (v : Value) :
    Except ValidationError Validated :=
  (Validation.workspace o now v).map fun (w, ws) => ⟨w, ws.map Warning.message⟩

/-- Migrate a document, then validate it. -/
def migrateAndValidate (o : ValidationOptions) (now : Instant) (v : Value) :
    Except ValidationError Validated := do
  let m ← (migrate now v).mapError .ofMigration
  let checked ← validate o now m.document
  pure { checked with warnings := m.warnings ++ checked.warnings }

/-- Read, migrate and validate the text of a document. -/
def parseAndValidate (o : ValidationOptions) (now : Instant) (text : String) :
    Except ValidationError Validated :=
  match readNormal text with
  | none => .error .corrupted
  | some v => migrateAndValidate o now v

end Dashboard
