/-
  Dashboard.Proofs.Command.Add
  ────────────────────────────
  **ON WHICH PAGE A NEW PANEL IS PUT.**

  A command that adds a panel opens a session.  The page that it is asked for
  is looked up in what the session shows, which is the committed document, but
  the panel is put into the draft.  There a page that is missing is replaced by
  the default page, so a page of the committed document alone is accepted and
  then the panel goes elsewhere.

  The command is followed step by step: what opening gives, what is refused,
  the one edit, and the commit.  Each write of it succeeds or none does.

  Main results:
    writable_or_readOnly — how writes to the program's own backends fail
    OpenDraft.opened     — the session that the command works on
    add_of_missing, add_of_unoffered, add_of_offered — the three ends
    add_as_asked_iff     — when the panel is put where it was asked for
-/
import Dashboard.Command.Run
import Dashboard.Proofs.Session.Shown
import Dashboard.Proofs.Session.Validity
import Dashboard.Proofs.Storage.Strict

namespace Dashboard

open Time

/-! ## §1. Writes. -/

/-- A medium in which a text is found can be written to. -/
theorem Medium.set_of_text? {m : Medium} {k stored : String} (h : m.text? k = some stored)
    (key text : String) : ∃ m', m.set key text = .ok m' := by
  cases m with
  | memory entries => exact ⟨_, rfl⟩
  | file path octets =>
      cases hread : StorageFile.readMap path octets with
      | error e =>
          rw [Medium.text?, Medium.get, hread] at h
          cases h
      | ok e =>
          -- the file is a map, so the write starts from its entries
          rw [Medium.set, StorageFile.mapToChange_of_readMap hread]
          exact ⟨_, rfl⟩

namespace Backend

/-- No write is set to fail. -/
def Writable (b : Backend) : Prop := ∀ key, b.faults .set key = none

/-- Each write is set to fail. -/
def ReadOnly (b : Backend) : Prop := ∀ key, ∃ e, b.faults .set key = some e

variable {b : Backend}

theorem ReadOnly.set (h : b.ReadOnly) (key text : String) :
    ∃ e, b.set key text = (.error e, b) := by
  obtain ⟨e, he⟩ := h key
  exact ⟨e, by rw [Backend.set, he]⟩

theorem Writable.after_set (h : b.Writable) (key text : String) :
    (b.set key text).2.Writable := by
  intro k
  rw [set_faults]
  exact h k

theorem Writable.set (h : b.Writable) {k stored : String} (hstored : b.medium.text? k = some stored)
    (key text : String) : (b.set key text).1 = .ok () := by
  obtain ⟨m, hm⟩ := Medium.set_of_text? hstored key text
  rw [Backend.set, h key, hm]
  rfl

/-- The slot under a key holds a text that strict mode reads as the document. -/
def Keeps (b : Backend) (o : ValidationOptions) (now : Instant) (key : String) (w : Workspace) :
    Prop :=
  ∃ text warnings, b.get key = .ok (some text) ∧
    parseAndValidate (o.inMode .strict) now text = .ok ⟨w, warnings⟩

/-- A strictly valid document that was written to a slot is kept there. -/
theorem keeps_of_written {o : ValidationOptions} {key : String} {w : Workspace}
    (hget : b.get key = .ok (some w.compactText)) (valid : w.StrictlyValid o)
    (current : w.schemaVersion = schemaVersion) (lossless : w.Lossless) (now : Instant) :
    b.Keeps o now key w :=
  ⟨w.compactText, [], hget, valid.parse current lossless now⟩

theorem Keeps.text? {o : ValidationOptions} {now : Instant} {key : String} {w : Workspace}
    (h : b.Keeps o now key w) : ∃ text, b.medium.text? key = some text := by
  obtain ⟨text, -, hget, -⟩ := h
  exact ⟨text, (get_eq_text.mp hget).2⟩

end Backend

namespace Store

variable {s : Store}

/-- A commit to a backend that can be written to. -/
theorem commit_writable (h : s.backend.Writable) {k stored : String}
    (hstored : s.backend.medium.text? k = some stored) (apart : s.keys.draft ≠ s.keys.committed)
    (now : Instant) (w : Workspace) :
    ∃ b, s.commit now w = (.ok (committedForm now w), { s with backend := b }) ∧
      b.medium.text? s.keys.committed = some (committedForm now w).compactText := by
  have hset := h.set hstored s.keys.committed (committedForm now w).compactText
  have hwrite : s.write s.keys.committed (committedForm now w).compactText
      = (.ok (), { s with backend :=
        (s.backend.set s.keys.committed (committedForm now w).compactText).2 }) := by
    rw [← hset]
    rfl
  refine ⟨((s.backend.set s.keys.committed (committedForm now w).compactText).2.remove
    s.keys.draft).2, ?_, ?_⟩
  · rw [commit, hwrite]
    rfl
  · -- dropping the draft leaves the committed slot alone
    rw [Backend.text?_remove_of_ne apart.symm]
    exact Backend.text?_set hset

/-- A commit to a backend that cannot be written to. -/
theorem commit_readOnly (h : s.backend.ReadOnly) (now : Instant) (w : Workspace) :
    ∃ e, s.commit now w = (.error e, s) := by
  obtain ⟨e, he⟩ := h.set s.keys.committed (committedForm now w).compactText
  exact ⟨e, by rw [commit, write, he]⟩

end Store

/-! ## §2. The draft's slot. -/

namespace Session

/-- A flush writes the draft to its slot, and notes where that fails. -/
theorem flushDraft_of_draft {s : Session} {w : Workspace} (h : s.draft = some w) :
    ∃ warnings, s.flushDraft = { s with store := (s.store.saveDraft w).2, warnings } := by
  unfold flushDraft
  rw [h]
  dsimp only
  split
  next store hsave => exact ⟨s.warnings, by rw [hsave]⟩
  next e store hsave => exact ⟨_, by rw [hsave]⟩

/-- An accepted edit gives the next draft and writes it to its slot. -/
theorem Repaneled.flushed {s s' : Session} {now : Instant} {page : Page} {panels : List Panel}
    {draft : Workspace} (h : s.Repaneled now page panels s') (hdraft : s.draft = some draft) :
    ∃ w, s'.editedDraft = .ok w ∧ Workspace.SameAround page panels w draft ∧
      s'.store = (s.store.saveDraft w).2 := by
  obtain ⟨w, before, after, hmode, hw, -, hpages, -⟩ := h
  cases hw.symm.trans hdraft
  obtain ⟨warnings, hflush⟩ := flushDraft_of_draft (s := { s with
    history := s.history.push draft
    draft := some (({ draft with pages := before ++ page.withPanels panels :: after } :
      Workspace).touch now) }) rfl
  rw [hflush]
  refine ⟨_, editedDraft_of_draft hmode rfl, ?_, rfl⟩
  exact ⟨rfl, rfl, rfl, rfl, rfl, before, after, hpages, rfl⟩

theorem apply_of_commit {s : Session} {now : Instant} {w w' : Workspace} {store : Store}
    (h : s.editedDraft = .ok w) (hcommit : s.store.commit now w = (.ok w', store)) :
    ∃ s', s.apply now = (.ok (), s') ∧ s'.store = store := by
  unfold apply
  rw [h]
  dsimp only
  rw [hcommit]
  exact ⟨_, rfl, rfl⟩

theorem apply_of_commit_error {s : Session} {now : Instant} {w : Workspace} {e : StorageError}
    {store : Store} (h : s.editedDraft = .ok w)
    (hcommit : s.store.commit now w = (.error e, store)) :
    s.apply now = (.error (.storage e), { s with store }) := by
  unfold apply
  rw [h]
  dsimp only
  rw [hcommit]

end Session

namespace Command

variable {c : Config} {now : Instant} {b : Backend} {base draft : Workspace}

/-- Writes to the program's own backends succeed under each key, or under none. -/
theorem writable_or_readOnly (f : Files) (c : Config) (home : String) :
    (backendOf f c home).Writable ∨ (backendOf f c home).ReadOnly := by
  unfold backendOf
  split
  next path _ _ =>
    -- the schedule of a file does not look at the key
    cases hfault : faultsAt f path .set "" with
    | none => exact Or.inl fun _ => hfault
    | some e => exact Or.inr fun _ => ⟨e, hfault⟩
  next => exact Or.inl fun _ => rfl

/-! ## §3. The session. -/

/-- How a configuration has documents validated. -/
abbrev optionsOf (c : Config) : ValidationOptions := sessionOptions .builtin c.sessionSettings

/-- A committed document and a draft are stored, both strictly valid; the draft
has a content of its own and is not older. -/
structure OpenDraft (c : Config) (now : Instant) (b : Backend) (base draft : Workspace) :
    Prop where
  committed : b.Keeps (optionsOf c) now c.storage.keys.committed base
  drafted : b.Keeps (optionsOf c) now c.storage.keys.draft draft
  own : draft.sameContent base = false
  notOlder : Rfc3339.isBefore draft.updatedAt base.updatedAt = false

/-- A session that shows the committed document and has the draft beside it,
after the filters were written. -/
structure Opened (c : Config) (b : Backend) (base draft : Workspace) (s : Session) : Prop where
  registry : s.registry = .builtin
  keys : s.store.keys = c.storage.keys
  backend : ∃ text, s.store.backend = (b.set c.storage.keys.preferences text).2
  mode : s.mode = .view
  committed : s.committed = some base
  draft : s.draft = some draft

/-- **The session that the command works on.** -/
theorem OpenDraft.opened (h : OpenDraft c now b base draft) :
    Opened c b base draft (openSession c now b) := by
  obtain ⟨t, ws, hget, hparse⟩ := h.committed
  obtain ⟨t', ws', hget', hparse'⟩ := h.drafted
  let store : Store :=
    { (⟨b, c.storage.keys, .ofMode .safe⟩ : Store) with options := optionsOf c }
  have hbase := Store.readSlot_of_strict (s := store) rfl hget hparse
  have hdraft := Store.readSlot_of_strict (s := store) rfl hget' hparse'
  obtain ⟨issues, hload⟩ := Store.load_of_draft hbase hdraft h.own h.notOlder
  -- neither document is dropped by the choice, and only the filters are written
  rw [openSession, Session.openAt_of_load hload]
  exact ⟨rfl, rfl, ⟨_, rfl⟩, rfl, rfl, rfl⟩

/-- The draft is well formed, so it has a page for every request. -/
theorem OpenDraft.exists_page (h : OpenDraft c now b base draft) (requested : Option String) :
    ∃ page, draft.resolvePage? requested = some page := by
  obtain ⟨t, ws, -, hparse⟩ := h.drafted
  have hvalid := validFor_of_strict_parse hparse (parse_safe_of_strict hparse)
  exact Workspace.exists_resolvePage? hvalid.nonempty requested

/-! ## §4. What is refused. -/

/-- A session whose draft is edited on a page. -/
def editedOn (s : Session) (draft : Workspace) (p : String) : Session :=
  { s with activePageId := some p, draft := some draft, mode := .edit }

/-- The definition under an id that can be picked. -/
def offered? (widget : String) : Option WidgetDefinition :=
  (Registry.builtin.get? widget).filter (·.isPickable)

theorem id_of_offered {widget : String} {d : WidgetDefinition} (h : offered? widget = some d) :
    d.id = widget := by
  obtain ⟨hget, hpickable⟩ := Option.filter_eq_some_iff.mp h
  exact (Registry.named_ofList (by decide) widget d hget hpickable).1

/-- The page is looked up in the committed document. -/
theorem openOn_of_openDraft (h : OpenDraft c now b base draft) (p : String) :
    openOn c now (some p) b =
      if (base.page? p).isNone then (.error (.pageNotFound p), openSession c now b)
      else (.ok (), { openSession c now b with activePageId := some p }) := by
  have hopened := h.opened
  -- in view mode the committed document is the one that is shown
  have hshown : (openSession c now b).workspace? = some base := by
    rw [Session.workspace?, hopened.mode]
    exact hopened.committed
  show (openSession c now b).setActivePage p = _
  rw [Session.setActivePage, hshown]

/-- A page that is not shown is refused. -/
theorem add_of_missing (h : OpenDraft c now b base draft) {p : String} (hp : base.page? p = none)
    (newId widget : String) :
    add c now newId widget (some p) false b
      = (.error (.session (.pageNotFound p)), (openSession c now b).store.backend) := by
  rw [add, openOn_of_openDraft h, hp]
  rfl

/-- A page that is shown is the one that is asked for in the draft. -/
theorem add_of_shown (h : OpenDraft c now b base draft) {p : String} {shown : Page}
    (hp : base.page? p = some shown) (newId widget : String) :
    add c now newId widget (some p) false b =
      andThen ((editedOn (openSession c now b) draft p).addWidgetPanel now newId widget)
        fun panelId s =>
          let rect := (s.activePage?.bind fun page => page.panel? panelId).map (·.gridRect)
          andThen (s.apply now) fun _ s => reportAddition panelId widget rect false s := by
  have hedit : ({ openSession c now b with activePageId := some p } : Session).beginEdit
      = (.ok (), editedOn (openSession c now b) draft p) := by
    rw [Session.beginEdit]
    dsimp only
    rw [h.opened.draft]
    rfl
  rw [add, openOn_of_openDraft h, hp]
  show andThen (({ openSession c now b with activePageId := some p } : Session).beginEdit) _ = _
  rw [hedit]
  rfl

theorem editedPage_editedOn {p : String} {page : Page}
    (hpage : draft.resolvePage? (some p) = some page) (s : Session) :
    (editedOn s draft p).editedPage = .ok page :=
  Session.editedPage_eq_ok_iff.mpr ⟨draft, rfl, rfl, hpage⟩

/-- The panel of a widget for the first free place of a page. -/
def newPanel (s : Session) (now : Instant) (newId : String) (d : WidgetDefinition) (page : Page) :
    Panel :=
  { Panel.fresh now newId d.id (s.firstFit page d.standardSize) with title := some d.title }

theorem addWidgetPanel_of_editedPage {s : Session} {page : Page} (hregistry : s.registry = .builtin)
    (hpage : s.editedPage = .ok page) (now : Instant) (newId widget : String) :
    s.addWidgetPanel now newId widget = match offered? widget with
      | none => (.error (.unknownWidget widget), s)
      | some d => s.editPanels now fun page =>
          .ok (newId, page.layout.panels ++ [newPanel s now newId d page]) := by
  rw [Session.addWidgetPanel, hpage, hregistry]
  rfl

/-- A widget that cannot be picked is refused. -/
theorem add_of_unoffered (h : OpenDraft c now b base draft) {p widget : String} {shown : Page}
    (hp : base.page? p = some shown) (hwidget : offered? widget = none) (newId : String) :
    add c now newId widget (some p) false b
      = (.error (.session (.unknownWidget widget)), (openSession c now b).store.backend) := by
  obtain ⟨page, hpage⟩ := h.exists_page (some p)
  have hregistry : (editedOn (openSession c now b) draft p).registry = .builtin := h.opened.registry
  rw [add_of_shown h hp,
    addWidgetPanel_of_editedPage hregistry (editedPage_editedOn hpage _), hwidget]
  rfl

/-! ## §5. The panel. -/

/-- Both documents' slots hold what they held. -/
structure KeepsSlots (keys : StorageKeys) (b b' : Backend) : Prop where
  committed : b'.medium.text? keys.committed = b.medium.text? keys.committed
  draft : b'.medium.text? keys.draft = b.medium.text? keys.draft

/-- Writing the filters keeps the documents' slots. -/
theorem Opened.keepsSlots {s : Session} (h : Opened c b base draft s)
    (apart : c.storage.keys.Apart) : KeepsSlots c.storage.keys b s.store.backend := by
  obtain ⟨text, htext⟩ := h.backend
  constructor
  · rw [htext, Backend.text?_set_of_ne apart.committed_preferences]
  · rw [htext, Backend.text?_set_of_ne apart.draft_preferences]

/-- A session between the edit and the commit: the next draft has one more panel
on a page, and was written after the filters. -/
structure Placed (c : Config) (b : Backend) (draft w : Workspace) (page : Page) (panel : Panel)
    (s : Session) : Prop where
  edited : s.editedDraft = .ok w
  same : Workspace.SameAround page (page.layout.panels ++ [panel]) w draft
  keys : s.store.keys = c.storage.keys
  backend : ∃ text, s.store.backend
    = ((b.set c.storage.keys.preferences text).2.set c.storage.keys.draft w.compactText).2

/-- The edit puts a panel of the widget on the page that the draft shows for the
page asked for. -/
theorem OpenDraft.placed (h : OpenDraft c now b base draft) {p widget : String} {page : Page}
    {d : WidgetDefinition} (hpage : draft.resolvePage? (some p) = some page)
    (hwidget : offered? widget = some d) (newId : String) :
    ∃ w panel s, (editedOn (openSession c now b) draft p).addWidgetPanel now newId widget
        = (.ok newId, s) ∧ panel.widgetId = widget ∧ Placed c b draft w page panel s := by
  obtain ⟨text, hbackend⟩ := h.opened.backend
  generalize hs : editedOn (openSession c now b) draft p = s
  have hregistry : s.registry = .builtin := by rw [← hs]; exact h.opened.registry
  have hshown : s.editedPage = .ok page := by rw [← hs]; exact editedPage_editedOn hpage _
  have hkeys : s.store.keys = c.storage.keys := by rw [← hs]; exact h.opened.keys
  have hwritten : s.store.backend = (b.set c.storage.keys.preferences text).2 := by
    rw [← hs]
    exact hbackend
  obtain ⟨s', hadd, hafter⟩ : ∃ s', s.addWidgetPanel now newId widget = (.ok newId, s') ∧
      s.Repaneled now page (page.layout.panels ++ [newPanel s now newId d page]) s' := by
    rw [addWidgetPanel_of_editedPage hregistry hshown, hwidget]
    exact Session.editPanels_of_ok hshown rfl now
  obtain ⟨w, hedited, hsame, hstore⟩ := hafter.flushed (by rw [← hs]; rfl)
  refine ⟨w, newPanel s now newId d page, s', hadd, id_of_offered hwidget,
    hedited, hsame, ?_, text, ?_⟩
  · rw [hstore]
    exact hkeys
  · rw [hstore, ← hwritten, ← hkeys]
    rfl

/-- The committed slot holds the draft, committed, with one more panel of a
widget on a page of an id; its panels before stand where they stood. -/
def AddsOn (keys : StorageKeys) (now : Instant) (draft : Workspace) (widget p : String)
    (b : Backend) : Prop :=
  ∃ w page panel, Workspace.SameAround page (page.layout.panels ++ [panel]) w draft ∧
    page.id = p ∧ panel.widgetId = widget ∧
    b.medium.text? keys.committed = some (Store.committedForm now w).compactText

namespace Placed

variable {w : Workspace} {page : Page} {panel : Panel} {s : Session}

/-- The commit succeeds where the storage can be written to. -/
theorem apply_writable (h : Placed c b draft w page panel s) (apart : c.storage.keys.Apart)
    (hb : b.Writable) {stored : String}
    (hstored : b.medium.text? c.storage.keys.committed = some stored) (now : Instant) :
    ∃ s', s.apply now = (.ok (), s') ∧
      AddsOn c.storage.keys now draft panel.widgetId page.id s'.store.backend := by
  obtain ⟨text, hwritten⟩ := h.backend
  -- the two writes before the commit are to other slots
  have hstored' : s.store.backend.medium.text? c.storage.keys.committed = some stored := by
    rw [hwritten, Backend.text?_set_of_ne apart.draft_committed.symm,
      Backend.text?_set_of_ne apart.committed_preferences, hstored]
  have hwritable : s.store.backend.Writable := by
    rw [hwritten]
    exact (hb.after_set _ _).after_set _ _
  have hapart : s.store.keys.draft ≠ s.store.keys.committed := by
    rw [h.keys]
    exact apart.draft_committed
  obtain ⟨b', hcommit, htext⟩ := Store.commit_writable hwritable hstored' hapart now w
  obtain ⟨s', happly, hstore⟩ := Session.apply_of_commit h.edited hcommit
  refine ⟨s', happly, w, page, panel, h.same, rfl, rfl, ?_⟩
  rw [hstore, ← htext, h.keys]

/-- The commit fails where the storage cannot be written to, and then nothing
was written before it. -/
theorem apply_readOnly (h : Placed c b draft w page panel s) (hb : b.ReadOnly) (now : Instant) :
    ∃ e s', s.apply now = (.error e, s') ∧ s'.store.backend = b := by
  obtain ⟨text, hwritten⟩ := h.backend
  obtain ⟨e, hset⟩ := hb.set c.storage.keys.preferences text
  obtain ⟨e', hset'⟩ := hb.set c.storage.keys.draft w.compactText
  -- both writes before the commit failed, and left the backend as it was
  rw [hset, hset'] at hwritten
  have hreadOnly : s.store.backend.ReadOnly := by
    rw [hwritten]
    exact hb
  obtain ⟨e'', hcommit⟩ := Store.commit_readOnly hreadOnly now w
  exact ⟨_, _, Session.apply_of_commit_error h.edited hcommit, hwritten⟩

end Placed

/-- **The panel goes on the page that the draft shows** for the page asked for. -/
theorem add_of_offered (apart : c.storage.keys.Apart) (h : OpenDraft c now b base draft)
    {p widget : String} {shown page : Page} {d : WidgetDefinition} (hp : base.page? p = some shown)
    (hpage : draft.resolvePage? (some p) = some page) (hwidget : offered? widget = some d)
    (newId : String) :
    (b.Writable → ∃ lines b', add c now newId widget (some p) false b = (.ok lines, b') ∧
      AddsOn c.storage.keys now draft widget page.id b') ∧
    (b.ReadOnly → ∃ e, add c now newId widget (some p) false b = (.error e, b)) := by
  obtain ⟨w, panel, s, hadd, rfl, hplaced⟩ := h.placed hpage hwidget newId
  rw [add_of_shown h hp, hadd]
  dsimp only [andThen]
  constructor
  · intro hb
    obtain ⟨stored, hstored⟩ := h.committed.text?
    obtain ⟨s', happly, hadds⟩ := hplaced.apply_writable apart hb hstored now
    rw [happly]
    exact ⟨_, _, rfl, hadds⟩
  · intro hb
    obtain ⟨e, s', happly, hkept⟩ := hplaced.apply_readOnly hb now
    rw [happly]
    exact ⟨_, congrArg (Prod.mk _) hkept⟩

/-! ## §6. The page asked for. -/

/-- The command does what it is asked for: it fails and keeps both documents,
or adds one panel of the widget to the page. -/
inductive AsAsked (keys : StorageKeys) (now : Instant) (draft : Workspace) (widget p : String)
    (b : Backend) : Outcome → Prop
  | failed {e : CommandError} {b' : Backend} (kept : KeepsSlots keys b b') :
      AsAsked keys now draft widget p b (.error e, b')
  | added {lines : List String} {b' : Backend} (added : AddsOn keys now draft widget p b') :
      AsAsked keys now draft widget p b (.ok lines, b')

/-- The page is one of the committed document and none of the draft, and else
the panel could be added. -/
structure Strays (base draft : Workspace) (widget p : String) (b : Backend) : Prop where
  shown : ∃ page, base.page? p = some page
  missing : draft.page? p = none
  offered : ∃ d, offered? widget = some d
  writable : b.Writable

/-- A panel is added to a page of the draft only. -/
theorem AddsOn.page?_ne_none {keys : StorageKeys} {widget p : String}
    (h : AddsOn keys now draft widget p b) : draft.page? p ≠ none := by
  obtain ⟨w, page, panel, hsame, rfl, -, -⟩ := h
  obtain ⟨before, after, hpages, -⟩ := hsame.pages
  intro hnone
  have hmem : page ∈ draft.pages := by
    rw [hpages]
    exact List.mem_append_right _ List.mem_cons_self
  exact List.find?_eq_none.mp hnone page hmem (by simp)

/-- A stray panel is added to the draft's default page. -/
theorem add_of_strays (apart : c.storage.keys.Apart) (h : OpenDraft c now b base draft)
    {p widget : String} (hstrays : Strays base draft widget p b) (newId : String) :
    ∃ page lines b', draft.defaultPage? = some page ∧ page.id ≠ p ∧
      add c now newId widget (some p) false b = (.ok lines, b') ∧
      AddsOn c.storage.keys now draft widget page.id b' := by
  obtain ⟨⟨shown, hp⟩, hmissing, ⟨d, hwidget⟩, hwritable⟩ := hstrays
  obtain ⟨page, hpage⟩ := h.exists_page (some p)
  obtain ⟨lines, b', hadd, hadds⟩ := (add_of_offered apart h hp hpage hwidget newId).1 hwritable
  refine ⟨page, lines, b', ?_, ?_, hadd, hadds⟩
  · rw [Workspace.resolvePage?, Option.bind_some, hmissing, Option.none_or] at hpage
    exact hpage
  · rintro rfl
    exact hadds.page?_ne_none hmissing

theorem not_asAsked_of_strays (apart : c.storage.keys.Apart) (h : OpenDraft c now b base draft)
    {p widget : String} (hstrays : Strays base draft widget p b) (newId : String) :
    ¬AsAsked c.storage.keys now draft widget p b (add c now newId widget (some p) false b) := by
  obtain ⟨page, lines, b', -, -, hadd, -⟩ := add_of_strays apart h hstrays newId
  rw [hadd]
  -- the report would have to be one of a panel on a page that the draft has not
  rintro (_ | hadded)
  exact hadded.page?_ne_none hstrays.missing

/-- Where the panel does not stray, the command does what it is asked for. -/
theorem add_as_asked (apart : c.storage.keys.Apart) (hb : b.Writable ∨ b.ReadOnly)
    (h : OpenDraft c now b base draft) {p widget : String}
    (hstrays : ¬Strays base draft widget p b) (newId : String) :
    AsAsked c.storage.keys now draft widget p b (add c now newId widget (some p) false b) := by
  cases hp : base.page? p with
  | none =>
      rw [add_of_missing h hp]
      exact .failed (h.opened.keepsSlots apart)
  | some shown =>
      cases hwidget : offered? widget with
      | none =>
          rw [add_of_unoffered h hp hwidget]
          exact .failed (h.opened.keepsSlots apart)
      | some d =>
          obtain ⟨page, hpage⟩ := h.exists_page (some p)
          obtain ⟨hwrite, hread⟩ := add_of_offered apart h hp hpage hwidget newId
          rcases hb with hb | hb
          · obtain ⟨lines, b', hadd, hadds⟩ := hwrite hb
            -- the draft has the page asked for, or the panel would stray
            obtain ⟨own, hown⟩ : ∃ own, draft.page? p = some own :=
              Option.ne_none_iff_exists'.mp fun hnone =>
                hstrays ⟨⟨shown, hp⟩, hnone, ⟨d, hwidget⟩, hb⟩
            rw [Workspace.resolvePage?, Option.bind_some, hown, Option.some_or] at hpage
            cases hpage
            have hid : page.id = p := by simpa using List.find?_some hown
            rw [hadd]
            exact .added (hid ▸ hadds)
          · obtain ⟨e, hadd⟩ := hread hb
            rw [hadd]
            exact .failed ⟨rfl, rfl⟩

/-- **When a panel is put where it was asked for.**  Let a committed document
and a draft be stored where the program keeps its documents, be it possible to
write there or not.  The command that adds a panel to a page fails and keeps
both, or adds it there, unless the page is one of the committed document that
the draft has not; then it adds the panel to the draft's default page. -/
theorem add_as_asked_iff (f : Files) (home : String) (apart : c.storage.keys.Apart)
    (h : OpenDraft c now (backendOf f c home) base draft) (newId widget p : String) :
    let b := backendOf f c home
    (AsAsked c.storage.keys now draft widget p b (add c now newId widget (some p) false b) ↔
      ¬Strays base draft widget p b) ∧
    (Strays base draft widget p b → ∃ page lines b', draft.defaultPage? = some page ∧
      page.id ≠ p ∧ add c now newId widget (some p) false b = (.ok lines, b') ∧
      AddsOn c.storage.keys now draft widget page.id b') := by
  intro b
  have hb := writable_or_readOnly f c home
  refine ⟨⟨?_, fun hnot => add_as_asked apart hb h hnot newId⟩,
    fun hstrays => add_of_strays apart h hstrays newId⟩
  intro hasked hstrays
  exact not_asAsked_of_strays apart h hstrays newId hasked

/-- A committed document of two pages. -/
def twoPageDesk : Workspace :=
  ⟨"desk", "Desk", [.fresh "a" "A", .fresh "b" "B"], "a", "2024-01-01T00:00:00.000Z",
    "2024-01-01T00:00:00.000Z", schemaVersion⟩

/-- A draft of it without the second page. -/
def onePageDesk : Workspace :=
  { twoPageDesk with pages := [.fresh "a" "A"], updatedAt := "2024-01-02T00:00:00.000Z" }

/-- Both in memory. -/
def bothDesks : Backend :=
  ⟨.memory [(StorageKeys.standard.committed, twoPageDesk.compactText),
    (StorageKeys.standard.draft, onePageDesk.compactText)], .none⟩

theorem apart_standard : Config.standard.storage.keys.Apart := ⟨by decide, by decide, by decide⟩

theorem openDraft_bothDesks : OpenDraft .standard ⟨0⟩ bothDesks twoPageDesk onePageDesk where
  committed := Backend.keeps_of_written rfl (Workspace.strictlyValid_iff.mpr (by decide)) rfl
    (Workspace.lossless_of_plain (by decide)) _
  drafted := Backend.keeps_of_written rfl (Workspace.strictlyValid_iff.mpr (by decide)) rfl
    (Workspace.lossless_of_plain (by decide)) _
  own := by decide
  notOlder := by decide +kernel

/-- A disk with a storage file that holds both. -/
def deskDisk : Files :=
  ⟨[("s.json", StorageFile.writeMap
    [(StorageKeys.standard.committed, twoPageDesk.compactText),
      (StorageKeys.standard.draft, onePageDesk.compactText)])], []⟩

/-- The file is read as it was written. -/
theorem get_deskDisk (key : String) :
    (backendOf deskDisk .standard "s.json").get key = bothDesks.get key := by
  have hread := StorageFile.readMap_writeMap "s.json"
    (e := [(StorageKeys.standard.committed, twoPageDesk.compactText),
      (StorageKeys.standard.draft, onePageDesk.compactText)])
    (List.pairwise_pair.mpr (by decide))
  show (Medium.file "s.json" (some (StorageFile.writeMap _))).get key = _
  rw [Medium.get, hread]
  rfl

theorem openDraft_deskDisk :
    OpenDraft .standard ⟨0⟩ (backendOf deskDisk .standard "s.json") twoPageDesk onePageDesk where
  committed := by
    obtain ⟨text, warnings, hget, hparse⟩ := openDraft_bothDesks.committed
    exact ⟨text, warnings, (get_deskDisk _).trans hget, hparse⟩
  drafted := by
    obtain ⟨text, warnings, hget, hparse⟩ := openDraft_bothDesks.drafted
    exact ⟨text, warnings, (get_deskDisk _).trans hget, hparse⟩
  own := openDraft_bothDesks.own
  notOlder := openDraft_bothDesks.notOlder

/-- A panel is added to the page that both documents have. -/
theorem common_page_gets_panel :
    AsAsked Config.standard.storage.keys ⟨0⟩ onePageDesk "quick-nav" "a"
      (backendOf deskDisk .standard "s.json")
      (add .standard ⟨0⟩ "new" "quick-nav" (some "a") false
        (backendOf deskDisk .standard "s.json")) := by
  have hfound : onePageDesk.page? "a" ≠ none := by decide
  exact (add_as_asked_iff deskDisk "s.json" apart_standard openDraft_deskDisk "new"
    "quick-nav" "a").1.mpr fun hstrays => hfound hstrays.missing

/-- **The draft's pages count.**  The second page is one of the committed
document, and the panel for it is added elsewhere. -/
theorem committed_page_misses_panel :
    ¬ ∀ (f : Files) (c : Config) (home : String) (now : Instant) (base draft : Workspace)
        (newId widget p : String), c.storage.keys.Apart →
        OpenDraft c now (backendOf f c home) base draft →
        AsAsked c.storage.keys now draft widget p (backendOf f c home)
          (add c now newId widget (some p) false (backendOf f c home)) := by
  intro h
  have hasked := h deskDisk .standard "s.json" ⟨0⟩ twoPageDesk onePageDesk "new" "quick-nav" "b"
    apart_standard openDraft_deskDisk
  have hstrays : Strays twoPageDesk onePageDesk "quick-nav" "b"
      (backendOf deskDisk .standard "s.json") :=
    ⟨⟨_, rfl⟩, rfl, Option.isSome_iff_exists.mp (by decide), fun _ => rfl⟩
  exact not_asAsked_of_strays apart_standard openDraft_deskDisk hstrays "new" hasked

end Command

end Dashboard
