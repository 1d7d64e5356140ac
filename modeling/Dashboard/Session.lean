/-
  Dashboard.Session
  ─────────────────
  Viewing and editing one workspace.

  A session shows the committed document, or while editing the draft.  Each
  edit of the draft is remembered in the history and written to the draft's
  slot; applying makes the draft the committed document, cancelling goes back
  to it.  The page, focus mode and the filters come from the route.

  An operation takes the clock reading and the fresh panel id it may need, and
  gives its result beside the session after it.

  Main results:
    editDraft_error — an edit that fails changes nothing
-/
import Dashboard.Document.Arrangement
import Dashboard.Grid.Gesture
import Dashboard.History
import Dashboard.Route
import Dashboard.Storage.Store
import Dashboard.Template
import Dashboard.Widget.Registry

namespace Dashboard

open Grid Json Time

/-! ## §1. Types. -/

/-- Why an operation is refused. -/
inductive SessionError where
  | noWorkspace
  | notEditing
  | panelNotFound (id : String)
  | pageNotFound (id : String)
  | panelLocked (id : String)
  | confirmationRequired (id : String)
  | unknownWidget (id : String)
  | unknownTemplate (id : String)
  | importFailed (e : ValidationError)
  | storage (e : StorageError)
  deriving Repr

/-- The wording of a refusal. -/
def SessionError.message : SessionError → String
  | .noWorkspace => "no workspace loaded; pick a template or import a file"
  | .notEditing => "workspace is not in edit mode"
  | .panelNotFound id => s!"panel '{id}' not found"
  | .pageNotFound id => s!"page '{id}' not found"
  | .panelLocked id => s!"panel '{id}' is locked"
  | .confirmationRequired id => s!"panel '{id}' is protected; confirm to remove it"
  | .unknownWidget id => s!"widget '{id}' is not available"
  | .unknownTemplate id => s!"unknown template '{id}'"
  | .importFailed e => s!"import failed: {e.message}"
  | .storage e => e.message

/-- How many snapshots are kept, and the grid of pages that have none. -/
structure SessionSettings where
  historyLimit : Nat
  grid : Spec
  deriving DecidableEq, Repr

/-- A hundred snapshots and the usual grid. -/
def SessionSettings.standard : SessionSettings := ⟨standardHistoryLimit, .standard⟩

/-- Whether the draft is shown and can be edited. -/
inductive Mode where
  | view
  | edit
  deriving DecidableEq, Repr

/-- The name of a mode. -/
def Mode.name : Mode → String
  | .view => "view"
  | .edit => "edit"

/-- A document to be written to a file. -/
structure ExportFile where
  name : String
  text : String
  deriving DecidableEq, Repr

/-- A session. -/
structure Session where
  store : Store
  registry : Registry
  settings : SessionSettings
  committed : Option Workspace
  draft : Option Workspace
  source : WorkspaceSource
  mode : Mode
  history : History Workspace
  activePageId : Option String
  focus : Bool
  filters : Filters
  warnings : List String

/-- The result of an operation and the session after it. -/
abbrev SessionResult (α : Type) := Except SessionError α × Session

/-! ## §2. Export names. -/

/-- A character that may stand in a file name. -/
def isFileNameChar (c : Char) : Bool := c.isAlphanum || c == '-' || c == '_' || c == '.'

/-- The name of the file that a workspace of an id is exported to. -/
def exportFileName (id : String) : String :=
  let safe := String.ofList (id.toList.map fun c => if isFileNameChar c then c else '_')
  s!"dashboard-workspace-{safe}.json"

namespace Session

/-! ## §3. Opening. -/

/-- Open a session on a store, at a route.  The filters of the route stand
above the stored ones and are written back with them.  Where only a draft is
left, the session opens on it. -/
def openAt (store : Store) (registry : Registry) (settings : SessionSettings) (route : Route)
    (now : Instant) : Session :=
  let store := { store with
    options := (registry.validationOptions .safe).withGrid settings.grid }
  let (loaded, store) := store.load now
  let filters := store.loadPreferences.mergedWith route.filters
  { store := (store.savePreferences filters).2
    registry, settings
    committed := loaded.committed
    draft := loaded.workspace
    source := loaded.source
    -- an unfinished first draft is opened where it was left
    mode := if loaded.committed.isNone && loaded.workspace.isSome then .edit else .view
    history := .empty settings.historyLimit
    -- the default page, unless the route names another one
    activePageId :=
      route.pageId.or ((loaded.committed.or loaded.workspace).map (·.defaultPageId))
    focus := route.focus
    filters
    warnings := loaded.issues.map SlotIssue.message }

/-! ## §4. What is shown. -/

/-- The document shown. -/
def workspace? (s : Session) : Option Workspace :=
  match s.mode with
  | .edit => s.draft
  | .view => s.committed

/-- The page shown. -/
def activePage? (s : Session) : Option Page :=
  s.workspace?.bind fun w => w.resolvePage? s.activePageId

def canUndo (s : Session) : Bool := s.mode == .edit && s.history.canUndo

def canRedo (s : Session) : Bool := s.mode == .edit && s.history.canRedo

/-- The route of what is shown. -/
def route (s : Session) : Route := ⟨s.activePage?.map (·.id), s.focus, s.filters⟩

/-- The page shown, laid out in a container of a width. -/
def arrangement? (s : Session) (width : Float) : Option Arrangement :=
  s.activePage?.map fun page =>
    .ofPanels (.ofSpec (page.layout.specOr s.settings.grid) width) page.layout.panels

/-- The warnings so far; afterwards there are none. -/
def takeWarnings (s : Session) : List String × Session := (s.warnings, { s with warnings := [] })

/-- The document shown, as a file. -/
def exportFile (s : Session) : Except SessionError ExportFile :=
  match s.workspace? with
  | none => .error .noWorkspace
  | some w => .ok ⟨exportFileName w.id, w.prettyText⟩

/-! ## §5. Navigation. -/

/-- Show a page. -/
def setActivePage (s : Session) (id : String) : SessionResult Unit :=
  match s.workspace? with
  | none => (.error .noWorkspace, s)
  | some w =>
    if (w.page? id).isNone then (.error (.pageNotFound id), s)
    else (.ok (), { s with activePageId := some id })

def setFocus (s : Session) (focus : Bool) : Session := { s with focus }

/-- Set the filters, then write them. -/
def setFilters (s : Session) (filters : Filters) : SessionResult Unit :=
  let (r, store) := s.store.savePreferences filters
  (r.mapError .storage, { s with filters, store })

/-! ## §6. Modes. -/

/-- Start editing, from the committed document where there is no draft. -/
def beginEdit (s : Session) : SessionResult Unit :=
  match s.draft.or s.committed with
  | none => (.error .noWorkspace, s)
  | some w => (.ok (), { s with draft := some w, mode := .edit })

/-- Change the mode. -/
def setMode (s : Session) (mode : Mode) : SessionResult Unit :=
  match mode with
  | .edit => s.beginEdit
  | .view => (.ok (), { s with mode := .view })

/-- The draft, while it is edited. -/
def editedDraft (s : Session) : Except SessionError Workspace :=
  if s.mode ≠ .edit then .error .notEditing
  else
    match s.draft with
    | none => .error .noWorkspace
    | some w => .ok w

/-- Make the draft the committed document. -/
def apply (s : Session) (now : Instant) : SessionResult Unit :=
  match s.editedDraft with
  | .error e => (.error e, s)
  | .ok draft =>
    match s.store.commit now draft with
    | (.error e, store) => (.error (.storage e), { s with store })
    | (.ok w, store) =>
      (.ok (), { s with
        store, draft := some w, committed := some w, mode := .view
        history := s.history.clear })

/-- Go back to the committed document. -/
def cancel (s : Session) : SessionResult Unit :=
  if s.mode ≠ .edit then (.error .notEditing, s)
  else
    let (r, store) := s.store.clearDraft
    -- a draft that stays behind is a warning, not a failure
    let warnings := match r with
      | .ok _ => s.warnings
      | .error e => s.warnings ++ [s!"Failed to clear draft: {e.message}"]
    (.ok (), { s with
      store, warnings, draft := s.committed, mode := .view, history := s.history.clear })

/-! ## §7. New documents. -/

/-- Commit a validated document in place of all others. -/
def install (s : Session) (now : Instant) (v : Validated) : SessionResult Unit :=
  match s.store.commit now v.workspace with
  | (.error e, store) => (.error (.storage e), { s with store })
  | (.ok w, store) =>
    (.ok (), { s with
      store, draft := some w, committed := some w, history := s.history.clear
      -- the page shown before is one of another document
      activePageId := w.defaultPage?.map (·.id)
      warnings := s.warnings ++ v.warnings })

/-- Start from a template. -/
def pickTemplate (s : Session) (now : Instant) (id : String) : SessionResult Unit :=
  match Template.find? id with
  | none => (.error (.unknownTemplate id), s)
  | some t =>
    match t.instantiate s.store.options now with
    | .error e => (.error (.importFailed e), s)
    | .ok v => s.install now v

/-- Start from the text of a document. -/
def importText (s : Session) (now : Instant) (text : String) : SessionResult Unit :=
  match parseAndValidate s.store.options now text with
  | .error e => (.error (.importFailed e), s)
  | .ok v => s.install now v

/-! ## §8. Editing. -/

/-- Write the draft to its slot; that this fails is a warning. -/
def flushDraft (s : Session) : Session :=
  match s.draft with
  | none => s
  | some w =>
    match s.store.saveDraft w with
    | (.ok _, store) => { s with store }
    | (.error e, store) =>
      { s with store, warnings := s.warnings ++ [s!"Failed to save draft: {e.message}"] }

/-- Edit the draft: the draft before goes to the history, the one after is
stamped and written to its slot.  An edit that fails changes nothing. -/
def editDraft {α : Type} (s : Session) (now : Instant)
    (edit : Workspace → Except SessionError (α × Workspace)) : SessionResult α :=
  match s.editedDraft with
  | .error e => (.error e, s)
  | .ok before =>
    match edit before with
    | .error e => (.error e, s)
    | .ok (a, after) =>
      (.ok a, ({ s with
        history := s.history.push before, draft := some (after.touch now) } :
          Session).flushDraft)

theorem editDraft_error {α : Type} {s : Session} {now : Instant}
    {edit : Workspace → Except SessionError (α × Workspace)} {e : SessionError}
    (h : (s.editDraft now edit).1 = .error e) : (s.editDraft now edit).2 = s := by
  unfold editDraft at h ⊢
  split
  · rfl
  · split
    · rfl
    · simp_all

/-- The page that is edited. -/
def editedPage (s : Session) : Except SessionError Page :=
  match s.editedDraft with
  | .error e => .error e
  | .ok w =>
    match w.resolvePage? s.activePageId with
    | none => .error .noWorkspace
    | some page => .ok page

/-- Change the first item that a test accepts. -/
def updateFirst {α β : Type} (test : α → Bool) (f : α → Except SessionError (β × α))
    (missing : SessionError) : List α → Except SessionError (β × List α)
  | [] => .error missing
  | a :: rest =>
    if test a then (f a).map fun (b, a) => (b, a :: rest)
    else (updateFirst test f missing rest).map fun (b, rest) => (b, a :: rest)

/-- Edit the panels of a page. -/
def onPanels {α : Type} (pageId : String)
    (edit : Page → Except SessionError (α × List Panel)) (w : Workspace) :
    Except SessionError (α × Workspace) :=
  (updateFirst (·.id == pageId)
    (fun page => (edit page).map fun (a, panels) => (a, page.withPanels panels))
    (.pageNotFound pageId) w.pages).map fun (a, pages) => (a, { w with pages })

/-- Edit one panel of a page. -/
def onPanel {α : Type} (pageId panelId : String) (edit : Panel → α × Panel) (w : Workspace) :
    Except SessionError (α × Workspace) :=
  onPanels pageId
    (fun page => updateFirst (·.id == panelId) (fun p => .ok (edit p))
      (.panelNotFound panelId) page.layout.panels) w

/-- Edit the panels of the page shown. -/
def editPanels {α : Type} (s : Session) (now : Instant)
    (edit : Page → Except SessionError (α × List Panel)) : SessionResult α :=
  match s.editedPage with
  | .error e => (.error e, s)
  | .ok page => s.editDraft now (onPanels page.id edit)

/-- The first free place on a page. -/
def firstFit (s : Session) (page : Page) (size : Size) : Rect :=
  findFreeSlot (page.layout.specOr s.settings.grid).columns size
    (page.layout.panels.map (·.gridRect))

/-- Append a panel made for the first free place. -/
def appendPanel (s : Session) (page : Page) (size : Size) (make : Rect → Panel) :
    String × List Panel :=
  let p := make (s.firstFit page size)
  (p.id, page.layout.panels ++ [p])

/-! ## §9. Panels. -/

/-- Add a panel of a widget; gives its id. -/
def addWidgetPanel (s : Session) (now : Instant) (newId widgetId : String) :
    SessionResult String :=
  match s.editedPage with
  | .error e => (.error e, s)
  | .ok _ =>
    match (s.registry.get? widgetId).filter (·.isPickable) with
    | none => (.error (.unknownWidget widgetId), s)
    | some d =>
      s.editPanels now fun page =>
        .ok (s.appendPanel page d.standardSize fun rect =>
          { Panel.fresh now newId d.id rect with title := some d.title })

/-- The size of an empty slot. -/
def placeholderSize : Size := ⟨3, 1⟩

/-- Add an empty slot; gives its id. -/
def addPlaceholderPanel (s : Session) (now : Instant) (newId : String) :
    SessionResult String :=
  s.editPanels now fun page =>
    .ok (s.appendPanel page placeholderSize fun rect =>
      { Panel.fresh now newId placeholderWidget rect with
        title := some "New Panel", viewSpec := viewSpecFor placeholderWidget })

/-- Remove a panel; a protected one only with a confirmation. -/
def removePanel (s : Session) (now : Instant) (id : String) (confirmed : Bool) :
    SessionResult Panel :=
  s.editPanels now fun page =>
    match page.panel? id with
    | none => .error (.panelNotFound id)
    | some p =>
      if p.guarded && !confirmed then .error (.confirmationRequired id)
      else .ok (p, page.layout.panels.eraseP (·.id == id))

/-- Copy a panel to the first free place; gives the id of the copy. -/
def duplicatePanel (s : Session) (now : Instant) (newId id : String) : SessionResult String :=
  s.editPanels now fun page =>
    match page.panel? id with
    | none => .error (.panelNotFound id)
    | some p =>
      .ok (s.appendPanel page ⟨p.gridRect.w, p.gridRect.h⟩ fun rect =>
        { p.withRect rect with
          id := newId, createdAt := now.stamp, updatedAt := now.stamp })

/-- Move the first panel of one id to the place of another. -/
def moveTo (source target : String) (panels : List Panel) :
    Except SessionError (List Panel) :=
  match panels.findIdx? (·.id == source) with
  | none => .error (.panelNotFound source)
  | some start =>
    let others := panels.eraseIdx start
    match others.findIdx? (·.id == target) with
    | none => .error (.panelNotFound target)
    | some place =>
      -- a panel from in front of the target goes behind it
      let place := if start ≤ place then place + 1 else place
      .ok (others.take place ++ panels[start]?.toList ++ others.drop place)

/-- Move a panel to the place of another. -/
def reorderPanels (s : Session) (now : Instant) (source target : String) :
    SessionResult Unit :=
  match s.editedPage with
  | .error e => (.error e, s)
  | .ok page =>
    if (page.panel? source).isNone then (.error (.panelNotFound source), s)
    else if (page.panel? target).isNone then (.error (.panelNotFound target), s)
    else if source = target then (.ok (), s)
    else
      s.editPanels now fun page =>
        (moveTo source target page.layout.panels).map fun panels => ((), panels)

/-- A panel of the page shown that is not locked. -/
def unlockedPanel (s : Session) (id : String) : Except SessionError (Page × Panel) :=
  match s.editedPage with
  | .error e => .error e
  | .ok page =>
    match page.panel? id with
    | none => .error (.panelNotFound id)
    | some p => if p.locked then .error (.panelLocked id) else .ok (page, p)

/-- Put a panel's frame at a rectangle, clamped into the grid; gives the
rectangle it has then. -/
def setPanelFrame (s : Session) (now : Instant) (id : String) (rect : Rect) :
    SessionResult Rect :=
  match s.unlockedPanel id with
  | .error e => (.error e, s)
  | .ok (page, p) =>
    let rect := rect.clamped (page.layout.specOr s.settings.grid).columns
    if p.frame.grid = some rect then (.ok rect, s)
    else s.editDraft now (onPanel page.id id fun p => (rect, (p.withRect rect).touch now))

/-- Pass on what a gesture did to a panel. -/
def applyFrameChange (s : Session) (now : Instant) (c : FrameChange) : SessionResult Rect :=
  s.setPanelFrame now c.panel c.rect

/-- The width of a rectangle grown by a number of columns, held within the
columns right of its left edge. -/
def grownWidth (columns : UInt32) (r : Rect) (delta : Int) : UInt32 :=
  let most : Int := max ((columns.toNat : Int) - r.x.toNat) 1
  UInt32.ofNat (max 1 (min ((r.w.toNat : Int) + delta) most)).toNat

/-- Widen or narrow a panel; gives its width then. -/
def resizePanelWidth (s : Session) (now : Instant) (id : String) (delta : Int) :
    SessionResult UInt32 :=
  match s.unlockedPanel id with
  | .error e => (.error e, s)
  | .ok (page, p) =>
    let w := grownWidth (page.layout.specOr s.settings.grid).columns p.gridRect delta
    if p.frame.grid.isSome && w == p.gridRect.w then (.ok w, s)
    else
      let (r, s) := s.setPanelFrame now id { p.gridRect with w }
      (r.map (·.w), s)

/-- Change a panel and stamp it; gives a flag of it. -/
def togglePanel (s : Session) (now : Instant) (id : String) (toggle : Panel → Bool × Panel) :
    SessionResult Bool :=
  match s.editedPage with
  | .error e => (.error e, s)
  | .ok page =>
    s.editDraft now (onPanel page.id id fun p =>
      let (flag, p) := toggle p
      (flag, p.touch now))

/-- Lock or unlock a panel; tells whether it is locked then. -/
def toggleLock (s : Session) (now : Instant) (id : String) : SessionResult Bool :=
  s.togglePanel now id fun p => (!p.locked, { p with locked := !p.locked })

/-- Pin or unpin a panel; tells whether it is pinned then. -/
def togglePin (s : Session) (now : Instant) (id : String) : SessionResult Bool :=
  s.togglePanel now id fun p => (!p.pinned, { p with pinned := !p.pinned })

/-- Protect a panel or not; tells whether it is protected then. -/
def toggleProtect (s : Session) (now : Instant) (id : String) : SessionResult Bool :=
  s.togglePanel now id fun p => (!p.guarded, { p with guarded := !p.guarded })

/-! ## §10. Undo and redo. -/

/-- Move along the history; tells whether there was anything to move to. -/
def travel (s : Session)
    (move : History Workspace → Workspace → Option (Workspace × History Workspace)) :
    SessionResult Bool :=
  match s.editedDraft with
  | .error e => (.error e, s)
  | .ok current =>
    match move s.history current with
    | none => (.ok false, s)
    | some (w, history) => (.ok true, ({ s with draft := some w, history } : Session).flushDraft)

/-- Take back the last edit. -/
def undo (s : Session) : SessionResult Bool := s.travel History.undo

/-- Redo the edit taken back last. -/
def redo (s : Session) : SessionResult Bool := s.travel History.redo

end Session
end Dashboard
