/-
  Dashboard.Command.Stored
  ────────────────────────
  The commands that work on the stored document.

  Each opens a session on a backend and ends with the backend as it is then:
  what was written stays written when a later step fails.
-/
import Dashboard.Command.Error
import Dashboard.Command.Report

namespace Dashboard.Command

open Time

/-! ## §1. Sessions. -/

/-- The lines of a report or a failure, and the backend afterwards. -/
abbrev Outcome := Except CommandError (List String) × Backend

/-- A session with the built-in widgets on a backend. -/
def openSession (c : Config) (now : Instant) (b : Backend) : Session :=
  .openAt ⟨b, c.storage.keys, .ofMode .safe⟩ .builtin c.sessionSettings .empty now

/-- End with a report. -/
def report (lines : List String) (s : Session) : Outcome := (.ok lines, s.store.backend)

/-- End with a failure. -/
def fail (e : CommandError) (s : Session) : Outcome := (.error e, s.store.backend)

/-- Go on after a step that succeeded. -/
def andThen {α : Type} (r : SessionResult α) (next : α → Session → Outcome) : Outcome :=
  match r with
  | (.ok a, s) => next a s
  | (.error e, s) => fail (.session e) s

/-- Open a session and show a page, if one is given. -/
def openOn (c : Config) (now : Instant) (page : Option String) (b : Backend) :
    SessionResult Unit :=
  let s := openSession c now b
  match page with
  | none => (.ok (), s)
  | some id => s.setActivePage id

/-! ## §2. New documents. -/

/-- Start from a template, unless a document is there already. -/
def init (c : Config) (now : Instant) (template : String) (force : Bool) (b : Backend) : Outcome :=
  let s := openSession c now b
  if (s.committed.isSome || s.draft.isSome) && !force then
    fail (.invalidArgument "a workspace already exists; pass --force to replace it") s
  else
    andThen (s.pickTemplate now template) fun _ s =>
      let name := (s.workspace?.map (·.name)).getD ""
      report [s!"initialized '{name}' from template {template}"] s

/-- Start from the text of a document. -/
def importText (c : Config) (now : Instant) (text : String) (b : Backend) : Outcome :=
  let s := (openSession c now b).takeWarnings.2
  andThen (s.importText now text) fun _ s =>
    let id := (s.workspace?.map (·.id)).getD ""
    report (s!"imported '{id}' ({s.warnings.length} warnings)"
      :: s.warnings.map fun warning => s!"warning: {warning}") s

/-! ## §3. The document. -/

/-- The document shown, as a file. -/
def exportFile (c : Config) (now : Instant) (b : Backend) :
    Except CommandError ExportFile × Backend :=
  let s := openSession c now b
  (s.exportFile.mapError .session, s.store.backend)

/-- Print the pages and the panels of one page. -/
def showPage (c : Config) (now : Instant) (page : Option String) (width : Float) (b : Backend) :
    Outcome :=
  andThen (openOn c now page b) fun _ s =>
    match s.workspace? with
    | none => fail (.session .noWorkspace) s
    | some w => report (pageReport s width w) s

/-- Say where a new panel is. -/
def reportAddition (panelId widget : String) (rect : Option Grid.Rect) (keepDraft : Bool)
    (s : Session) : Outcome :=
  report [additionLine panelId widget rect keepDraft] s

/-- Add a panel and commit the draft, unless it is to be kept. -/
def add (c : Config) (now : Instant) (newId widget : String) (page : Option String)
    (keepDraft : Bool) (b : Backend) : Outcome :=
  andThen (openOn c now page b) fun _ s =>
    andThen s.beginEdit fun _ s =>
      andThen (s.addWidgetPanel now newId widget) fun panelId s =>
        let rect := (s.activePage?.bind fun p => p.panel? panelId).map (·.gridRect)
        if keepDraft then reportAddition panelId widget rect keepDraft s
        else andThen (s.apply now) fun _ s => reportAddition panelId widget rect keepDraft s

/-! ## §4. Polling. -/

/-- The lines of one panel, and the host after it was drawn. -/
def drawPanel (now : Instant) (drawn : List String × Host) (panelId : String) :
    List String × Host :=
  let (lines, h) := drawn
  let status := ((h.quality? panelId).map (·.status)).getD .unknown
  match h.render panelId now.millis with
  | (some view, h) => (lines ++ statusLines panelId status view, h)
  | (none, h) => (lines, h)

/-- Poll a page once and draw it; the status summary that hosts share may be
fetched anew. -/
def pollPage (c : Config) (now : Instant) (answers : Script) (shared : TtlCell StatusSummary)
    (filters : Filters) (page : Page) :
    Except HostError (List String) × TtlCell StatusSummary :=
  let panels := page.layout.panels
  let h := Host.fresh .builtin { c.hostSettings with background := false } answers .none
  let (_, shared, h) := ({ h with filters } : Host).refreshCapabilities shared now.millis
  match h.sync panels now.millis with
  | (.error e, _) => (.error e, shared)
  | (.ok (), h) =>
    let (_, h) := h.pollOnce now.millis
    let (lines, _) := (panels.map (·.id)).foldl (drawPanel now)
      ([s!"page {page.id} ({panels.length} panels)"], h)
    (.ok lines, shared)

/-- Poll the panels of a page once. -/
def status (c : Config) (now : Instant) (answers : Option Script)
    (shared : TtlCell StatusSummary) (page : Option String) (base : String) (b : Backend) :
    Except CommandError (List String) × TtlCell StatusSummary × Backend :=
  match openOn c now page b with
  | (.error e, s) => (.error (.session e), shared, s.store.backend)
  | (.ok _, s) =>
    match s.activePage?, answers with
    | none, _ => (.error (.session .noWorkspace), shared, s.store.backend)
    | some _, none =>
      (.error (.fetch (.transport s!"no connection to {base}")), shared, s.store.backend)
    | some page, some answers =>
      let (lines, shared) := pollPage c now answers shared s.filters page
      (lines.mapError .host, shared, s.store.backend)

end Dashboard.Command
