/-
  Dashboard.Proofs.Session.Validity
  ─────────────────────────────────
  **SESSIONS KEEP DOCUMENTS VALID.**

  A run opens a session and goes on with operations, while the backend may do
  whatever it likes: fail, recover, or be written to by others.  Everything
  that the session keeps stays strictly valid, the committed document, the
  draft and each snapshot of the history alike, and in edit mode there is
  always a page to work on.

  The invariant needs nothing of the store but its options, so it is a weaker
  one than that of a session which its store can give back.

  Main results:
    Sound.perform           — what one operation preserves
    Run.sound               — what a run preserves
    run_stays_valid         — documents, page and answers along a run
    nameless_widget_refused — why widgets need names
-/
import Dashboard.Proofs.Session.Lifetime
import Dashboard.Proofs.Session.Refusals

namespace Dashboard

open Grid Json Time

/-! ## §1. Strict validity. -/

/-- A text that is read as the data of the document gives it back as well. -/
theorem Workspace.StrictlyValid.parse {o : ValidationOptions} {w : Workspace}
    (h : w.StrictlyValid o) (current : w.schemaVersion = Dashboard.schemaVersion) {text : String}
    (hread : readNormal text = some w.asValue) (now : Instant) :
    parseAndValidate (o.inMode .strict) now text = .ok ⟨w, []⟩ := by
  unfold parseAndValidate
  rw [hread]
  exact migrateAndValidate_asValue _ now current (strictlyValid_iff.mp h)

/-- A document with pages shows one of them, whichever is requested. -/
theorem Workspace.exists_resolvePage? {w : Workspace} (h : w.pages ≠ [])
    (requested : Option String) : ∃ page, w.resolvePage? requested = some page := by
  obtain ⟨first, hfirst⟩ : ∃ first, w.pages.head? = some first := by
    cases hpages : w.pages with
    | nil => exact absurd hpages h
    | cons first rest => exact ⟨first, rfl⟩
  have hsome : (w.resolvePage? requested).isSome = true := by
    simp [resolvePage?, defaultPage?, hfirst]
  exact Option.isSome_iff_exists.mp hsome

namespace Session

variable {registry : Registry} {settings : SessionSettings} {now : Instant} {s s' : Session}

/-! ## §2. The invariant. -/

/-- The documents that a session keeps: the committed one, the draft, and the
snapshots of the history. -/
def documents (s : Session) : List Workspace :=
  s.committed.toList ++ s.draft.toList ++ s.history.past ++ s.history.future

theorem mem_documents {w : Workspace} : w ∈ s.documents ↔
    s.committed = some w ∨ s.draft = some w ∨ w ∈ s.history.past ∨ w ∈ s.history.future := by
  simp [documents]

/-- A session whose documents are all well formed, with a draft to edit. -/
structure Sound (registry : Registry) (settings : SessionSettings) (s : Session) : Prop where
  sameRegistry : s.registry = registry
  sameSettings : s.settings = settings
  options : s.store.options = sessionOptions registry settings
  valid : ∀ w ∈ s.documents, w.ValidFor (sessionOptions registry settings)
  drafted : s.mode = .edit → s.draft.isSome = true

theorem Sound.draft_valid (h : s.Sound registry settings) {w : Workspace}
    (hw : s.draft = some w) : w.ValidFor (sessionOptions registry settings) :=
  h.valid w (mem_documents.mpr (Or.inr (Or.inl hw)))

/-- Each document was there before, or is well formed. -/
theorem Sound.rebuild (h : s.Sound registry settings) (hregistry : s'.registry = s.registry)
    (hsettings : s'.settings = s.settings) (hoptions : s'.store.options = s.store.options)
    (hdocs : ∀ w ∈ s'.documents,
      w ∈ s.documents ∨ w.ValidFor (sessionOptions registry settings))
    (hdrafted : s'.mode = .edit → s'.draft.isSome = true) : s'.Sound registry settings := by
  refine ⟨hregistry.trans h.sameRegistry, hsettings.trans h.sameSettings,
    hoptions.trans h.options, ?_, hdrafted⟩
  intro w hw
  rcases hdocs w hw with hold | hvalid
  · exact h.valid w hold
  · exact hvalid

/-- Neither the backend nor the page, the filters and the warnings count. -/
theorem Sound.same (h : s.Sound registry settings) (hregistry : s'.registry = s.registry)
    (hsettings : s'.settings = s.settings) (hoptions : s'.store.options = s.store.options)
    (hcommitted : s'.committed = s.committed) (hdraft : s'.draft = s.draft)
    (hhistory : s'.history = s.history) (hmode : s'.mode = .edit → s.mode = .edit) :
    s'.Sound registry settings := by
  refine h.rebuild hregistry hsettings hoptions ?_ ?_
  · intro w hw
    left
    rwa [documents, hcommitted, hdraft, hhistory] at hw
  · intro hedit
    rw [hdraft]
    exact h.drafted (hmode hedit)

/-- A new draft with its history, written to its slot. -/
theorem Sound.flushed (h : s.Sound registry settings) {w : Workspace}
    {history : History Workspace}
    (hw : w ∈ s.documents ∨ w.ValidFor (sessionOptions registry settings))
    (hhistory : ∀ v, v ∈ history.past ∨ v ∈ history.future → v ∈ s.documents) :
    ({ s with history, draft := some w } : Session).flushDraft.Sound registry settings := by
  obtain ⟨b, warnings, hflush⟩ := flushDraft_backend { s with history, draft := some w }
  rw [hflush]
  refine h.rebuild rfl rfl rfl ?_ fun _ => rfl
  intro v hv
  rcases mem_documents.mp hv with hc | hd | hhist
  · exact Or.inl (mem_documents.mpr (Or.inl hc))
  · cases hd
    exact hw
  · exact Or.inl (hhistory v hhist)

/-! ## §3. One operation. -/

theorem Sound.edited (h : s.Sound registry settings)
    (hedited : s.Edited (sessionOptions registry settings) now s') :
    s'.Sound registry settings := by
  cases hedited with
  | unchanged => exact h
  | edited before after editing valid version =>
      have hbefore := (editedDraft_eq_ok editing).2
      have hafter := valid (h.draft_valid hbefore)
      refine h.flushed (Or.inr ?_) ?_
      · exact Workspace.WellFormed.restamp hafter hafter.version now.stamp_ne_empty
      -- of the old snapshots some are left, and the draft joins them
      intro v hv
      rcases hv with hpast | hfuture
      · rcases List.mem_cons.mp (List.mem_of_mem_take hpast) with rfl | hpast
        · exact mem_documents.mpr (Or.inr (Or.inl hbefore))
        · exact mem_documents.mpr (Or.inr (Or.inr (Or.inl hpast)))
      · cases hfuture

theorem Sound.travelled (h : s.Sound registry settings)
    {move : History Workspace → Workspace → Option (Workspace × History Workspace)}
    (hmove : History.Exchanges move) : (s.travel move).2.Sound registry settings := by
  unfold travel
  split
  next => exact h
  next current hcurrent =>
    split
    next => exact h
    next w history hw =>
      obtain ⟨hmem, hrest⟩ := hmove s.history current w history hw
      have hsnapshot : ∀ v, v ∈ s.history.past ∨ v ∈ s.history.future → v ∈ s.documents := by
        intro v hv
        exact mem_documents.mpr (Or.inr (Or.inr hv))
      refine h.flushed (Or.inl (hsnapshot w hmem)) ?_
      intro v hv
      rcases hrest v hv with rfl | hold
      · exact mem_documents.mpr (Or.inr (Or.inl (editedDraft_eq_ok hcurrent).2))
      · exact hsnapshot v hold

/-- A document that is committed, where that succeeds. -/
theorem Sound.committed (h : s.Sound registry settings) {w : Workspace}
    (hw : w.ValidFor (sessionOptions registry settings)) {b : Backend}
    (hregistry : s'.registry = s.registry) (hsettings : s'.settings = s.settings)
    (hstore : s'.store = { s.store with backend := b })
    (hcommitted : s'.committed = some (Store.committedForm now w))
    (hdraft : s'.draft = some (Store.committedForm now w)) (hpast : s'.history.past = [])
    (hfuture : s'.history.future = []) : s'.Sound registry settings := by
  have hform := (hw.committedForm now).valid
  refine h.rebuild hregistry hsettings (by rw [hstore]) ?_ (by simp [hdraft])
  intro v hv
  right
  rcases mem_documents.mp hv with hc | hd | hp | hf
  · cases hcommitted.symm.trans hc
    exact hform
  · cases hdraft.symm.trans hd
    exact hform
  · simp [hpast] at hp
  · simp [hfuture] at hf

theorem Sound.installed (h : s.Sound registry settings) {v : Validated}
    (hv : v.workspace.ValidFor (sessionOptions registry settings)) :
    (s.install now v).2.Sound registry settings := by
  unfold install
  rcases Store.commit_cases s.store now v.workspace with ⟨e, hcommit⟩ | ⟨b, hcommit⟩
  · rw [hcommit]
    exact h
  · rw [hcommit]
    exact h.committed hv rfl rfl rfl rfl rfl rfl rfl

theorem Sound.applied (h : s.Sound registry settings) :
    (s.apply now).2.Sound registry settings := by
  unfold apply
  split
  next => exact h
  next draft hdraft =>
    have hvalid := h.draft_valid (editedDraft_eq_ok hdraft).2
    rcases Store.commit_cases s.store now draft with ⟨e, hcommit⟩ | ⟨b, hcommit⟩
    · rw [hcommit]
      exact h
    · rw [hcommit]
      exact h.committed hvalid rfl rfl rfl rfl rfl rfl rfl

theorem Sound.cancelled (h : s.Sound registry settings) : s.cancel.2.Sound registry settings := by
  unfold cancel
  split
  next => exact h
  next =>
    refine h.rebuild rfl rfl rfl ?_ nofun
    intro w hw
    left
    rcases mem_documents.mp hw with hc | hd | hp | hf
    · exact mem_documents.mpr (Or.inl hc)
    -- the draft is the committed document, and the history is empty
    · exact mem_documents.mpr (Or.inl hd)
    · cases hp
    · cases hf

theorem Sound.begun (h : s.Sound registry settings) : s.beginEdit.2.Sound registry settings := by
  unfold beginEdit
  split
  next => exact h
  next w hw =>
    refine h.rebuild rfl rfl rfl ?_ fun _ => rfl
    intro v hv
    left
    rcases mem_documents.mp hv with hc | hd | hhist
    · exact mem_documents.mpr (Or.inl hc)
    · cases hd
      rcases Option.or_eq_some_iff.mp hw with hdraft | ⟨-, hcommitted⟩
      · exact mem_documents.mpr (Or.inr (Or.inl hdraft))
      · exact mem_documents.mpr (Or.inl hcommitted)
    · exact mem_documents.mpr (Or.inr (Or.inr hhist))

/-- **What one operation preserves.** -/
theorem Sound.perform (wide : 1 ≤ settings.grid.columns) (named : registry.Named)
    (h : s.Sound registry settings) (a : Action) (admissible : a.Admissible s now) :
    (s.perform now a).Sound registry settings := by
  have hgrid : (sessionOptions registry settings).gridDefaults = s.settings.grid := by
    rw [h.sameSettings]
    rfl
  have hwide : 1 ≤ s.settings.grid.columns := h.sameSettings.symm ▸ wide
  have hnamed : s.registry.Named := h.sameRegistry.symm ▸ named
  have hknows : ∀ id d, s.registry.get? id = some d →
      (sessionOptions registry settings).knows id = true := by
    intro id d hd
    rw [h.sameRegistry] at hd
    exact Registry.knows_of_get? hd settings
  cases a with
  | setActivePage id =>
      show (s.setActivePage id).2.Sound registry settings
      unfold setActivePage
      split
      next => exact h
      next =>
        split
        next => exact h
        next => exact h.same rfl rfl rfl rfl rfl rfl fun hmode => hmode
  -- the documents and the mode are left as they are
  | setFocus focus => exact h.same rfl rfl rfl rfl rfl rfl fun hmode => hmode
  | setFilters filters => exact h.same rfl rfl rfl rfl rfl rfl fun hmode => hmode
  | takeWarnings => exact h.same rfl rfl rfl rfl rfl rfl fun hmode => hmode
  | beginEdit => exact h.begun
  | setMode mode =>
      cases mode with
      | view => exact h.same rfl rfl rfl rfl rfl rfl nofun
      | edit => exact h.begun
  | apply => exact h.applied
  | cancel => exact h.cancelled
  | pickTemplate id =>
      show (s.pickTemplate now id).2.Sound registry settings
      unfold pickTemplate
      rw [h.options]
      split
      next => exact h
      next t ht =>
        split
        next => exact h
        next v hv => exact h.installed (Template.validFor_of_instantiate ht wide hv)
  | importText text =>
      obtain ⟨strict, hstrict⟩ : ∃ v, parseAndValidate (s.store.options.inMode .strict) now text
        = .ok v := admissible
      show (s.importText now text).2.Sound registry settings
      unfold importText
      rw [h.options] at hstrict ⊢
      split
      next => exact h
      next v hv => exact h.installed (validFor_of_strict_parse hstrict hv)
  -- the edits of panels
  | addWidgetPanel newId widgetId =>
      exact h.edited (edited_addWidgetPanel hgrid hwide hnamed hknows admissible widgetId)
  | addPlaceholderPanel newId => exact h.edited (edited_addPlaceholderPanel hgrid hwide admissible)
  | removePanel id confirmed => exact h.edited (edited_removePanel id confirmed)
  | duplicatePanel newId id => exact h.edited (edited_duplicatePanel hgrid hwide admissible id)
  | reorderPanels source target => exact h.edited (edited_reorderPanels source target)
  | setPanelFrame id rect => exact h.edited (edited_setPanelFrame hgrid hwide id rect)
  | applyFrameChange c => exact h.edited (edited_setPanelFrame hgrid hwide c.panel c.rect)
  | resizePanelWidth id delta => exact h.edited (edited_resizePanelWidth hgrid hwide id delta)
  | toggleLock id | togglePin id | toggleProtect id =>
      refine h.edited (edited_togglePanel id (fun _ => rfl) ?_)
      exact fun p columns hp => ⟨hp.id, hp.widgetId, hp.frame, hp.createdAt, hp.updatedAt⟩
  -- the moves along the history
  | undo => exact h.travelled History.exchanges_undo
  | redo => exact h.travelled History.exchanges_redo

/-! ## §4. Runs. -/

/-- The id that is drawn for a new panel. -/
def newPanelId (token : String) : String := "panel-" ++ token

theorem filled_newPanelId (token : String) : Text.Filled (newPanelId token) := by
  show Text.isBlankList (newPanelId token).toList = false
  rw [newPanelId, String.toList_append]
  rfl

/-- What a run asks of the arguments of an operation: an id drawn for a new
panel is not in use yet, and an imported text is one that strict validation
accepts. -/
def Action.Proper (s : Session) (now : Instant) : Action → Prop
  | .importText text =>
    ∃ v, parseAndValidate (s.store.options.inMode .strict) now text = .ok v
  | .addWidgetPanel newId _ | .addPlaceholderPanel newId | .duplicatePanel newId _ =>
    (∃ token, newId = newPanelId token) ∧
      ∀ w ∈ s.draft, ∀ page ∈ w.pages, newId ∉ page.layout.panels.map (·.id)
  | _ => True

theorem Action.Proper.admissible {a : Action} (h : a.Proper s now) : a.Admissible s now := by
  cases a with
  | importText text => exact h
  | addWidgetPanel newId _ | addPlaceholderPanel newId | duplicatePanel newId _ =>
      obtain ⟨⟨token, rfl⟩, unused⟩ := h
      exact ⟨filled_newPanelId token, unused⟩
  | _ => trivial

/-- The sessions that a run comes through: opened on valid documents, then
worked with at any times.  Before each operation the backend may have become
any other one. -/
inductive Run (registry : Registry) (settings : SessionSettings) : Session → Prop
  | opened (store : Store) (route : Route) (now : Instant)
      (valid : ∀ w ∈ (openAt store registry settings route now).documents,
        w.StrictlyValid (sessionOptions registry settings)) :
      Run registry settings (openAt store registry settings route now)
  | backend {s : Session} (h : Run registry settings s) (b : Backend) :
      Run registry settings { s with store := { s.store with backend := b } }
  | acted {s : Session} (h : Run registry settings s) (now : Instant) (a : Action)
      (proper : a.Proper s now) : Run registry settings (s.perform now a)

theorem sound_openAt {store : Store} {route : Route}
    (valid : ∀ w ∈ (openAt store registry settings route now).documents,
      w.StrictlyValid (sessionOptions registry settings)) :
    (openAt store registry settings route now).Sound registry settings := by
  refine ⟨rfl, rfl, ?_, ?_, ?_⟩
  · -- neither the load nor the writing of the filters changes the options
    show (({ store with options := sessionOptions registry settings } : Store).load now).2.options
      = _
    rcases Store.load_store { store with options := sessionOptions registry settings } now
      with hload | hload
    · rw [hload]
    · rw [hload]
      rfl
  · intro w hw
    exact Workspace.strictlyValid_iff.mp (valid w hw)
  · -- a session is opened on its draft only where there is one
    unfold openAt
    dsimp only
    split
    next hdraft =>
      intro _
      exact ((Bool.and_eq_true _ _).mp hdraft).2
    next => exact nofun

/-- **What a run preserves.** -/
theorem Run.sound (wide : 1 ≤ settings.grid.columns) (named : registry.Named)
    (h : Run registry settings s) : s.Sound registry settings := by
  induction h with
  | opened store route now valid => exact sound_openAt valid
  | backend _ b ih => exact ih.same rfl rfl rfl rfl rfl rfl fun hmode => hmode
  | acted _ now a proper ih => exact ih.perform wide named a proper.admissible

/-! ## §5. What a run can rely on. -/

/-- In edit mode there is a draft, and one of its pages is shown. -/
theorem Sound.shown (h : s.Sound registry settings) (hmode : s.mode = .edit) :
    ∃ w page, s.draft = some w ∧ s.activePage? = some page := by
  obtain ⟨w, hw⟩ := Option.isSome_iff_exists.mp (h.drafted hmode)
  obtain ⟨page, hpage⟩ := Workspace.exists_resolvePage? (h.draft_valid hw).nonempty s.activePageId
  refine ⟨w, page, hw, ?_⟩
  simp [activePage?, workspace?, hmode, hw, hpage]

/-- Where a page is shown, no operation misses a workspace. -/
theorem attempt_ne_missing {page : Page} (hpage : s.activePage? = some page) (now : Instant)
    (a : Action) : (s.attempt now a).1 ≠ .error .noWorkspace := by
  intro h
  have hrefused : (∀ filters, a ≠ .setFilters filters) → False := by
    intro other
    have hnone := (careful_attempt s now a other _ h).missing rfl
    rw [hpage] at hnone
    cases hnone
  cases a with
  | setFilters filters =>
      -- filters are refused by the backend only
      change ((s.store.savePreferences filters).1.mapError SessionError.storage)
        = .error .noWorkspace at h
      cases hsave : (s.store.savePreferences filters).1 with
      | ok _ => rw [hsave] at h; cases h
      | error e => rw [hsave] at h; cases h
  | _ => exact hrefused nofun

/-- **Sessions keep documents valid.**  Take a grid with a column, a registry
whose widgets can be picked under names only, and a session opened on strictly
valid documents.  After every run the committed document, the draft and each
snapshot are strictly valid, as data and as a text that is read as the data;
and in edit mode a page of the draft is shown, so that nothing is refused for
want of a workspace. -/
theorem run_stays_valid (wide : 1 ≤ settings.grid.columns) (ds : List WidgetDefinition)
    (hregistry : registry = Registry.ofList ds)
    (filled : ∀ d ∈ ds, d.isPickable = true → Text.Filled d.id)
    (h : Run registry settings s) :
    (∀ w ∈ s.documents, w.StrictlyValid (sessionOptions registry settings) ∧
      ∀ text, w.schemaVersion = schemaVersion → readNormal text = some w.asValue → ∀ now,
        parseAndValidate ((sessionOptions registry settings).inMode .strict) now text
          = .ok ⟨w, []⟩) ∧
    (s.mode = .edit → (∃ w page, s.draft = some w ∧ s.activePage? = some page) ∧
      (∀ now a, (s.attempt now a).1 ≠ .error .noWorkspace) ∧
      s.exportFile ≠ .error .noWorkspace) := by
  have named : registry.Named := hregistry ▸ Registry.named_ofList filled
  have hsound := h.sound wide named
  constructor
  · intro w hw
    have hstrict := Workspace.strictlyValid_iff.mpr (hsound.valid w hw)
    exact ⟨hstrict, fun text current hread now => hstrict.parse current hread now⟩
  · intro hmode
    obtain ⟨w, page, hw, hpage⟩ := hsound.shown hmode
    refine ⟨⟨w, page, hw, hpage⟩, attempt_ne_missing hpage, ?_⟩
    unfold exportFile workspace?
    rw [hmode, hw]
    exact nofun

theorem run_editedDesk (registry : Registry) (settings : SessionSettings) :
    Run registry settings (editedDesk registry settings) := by
  have hopened : Run registry settings (onMemory registry settings .standard) :=
    .opened _ _ _ nofun
  exact (hopened.acted ⟨0⟩ (.pickTemplate "execution") trivial).acted ⟨0⟩ .beginEdit trivial

/-- An empty slot is added to a desk whose storage is full, and copied, and the
copy is taken back. -/
def triedDesk : Session :=
  ((fullDesk.perform ⟨1000⟩ (.addPlaceholderPanel (newPanelId "1"))).perform ⟨2000⟩
    (.duplicatePanel (newPanelId "2") (newPanelId "1"))).perform ⟨3000⟩ .undo

/-- The committed document, the draft, and a snapshot on either side of it. -/
theorem triedDesk_stays_valid :
    triedDesk.documents.length = 4 ∧
      (∀ w ∈ triedDesk.documents, w.StrictlyValid (sessionOptions .builtin .standard)) ∧
      ∃ w page, triedDesk.draft = some w ∧ triedDesk.activePage? = some page := by
  obtain ⟨hlength, hmode, hunused, hunused'⟩ :
      triedDesk.documents.length = 4 ∧ triedDesk.mode = .edit ∧
      (∀ w ∈ fullDesk.draft, ∀ page ∈ w.pages,
        newPanelId "1" ∉ page.layout.panels.map (·.id)) ∧
      ∀ w ∈ (fullDesk.perform ⟨1000⟩ (.addPlaceholderPanel (newPanelId "1"))).draft,
        ∀ page ∈ w.pages, newPanelId "2" ∉ page.layout.panels.map (·.id) := by
    decide +kernel
  have hfull : Run .builtin .standard fullDesk := (run_editedDesk .builtin .standard).backend _
  have hrun : Run .builtin .standard triedDesk :=
    ((hfull.acted ⟨1000⟩ (.addPlaceholderPanel (newPanelId "1")) ⟨⟨"1", rfl⟩, hunused⟩).acted
      ⟨2000⟩ (.duplicatePanel (newPanelId "2") (newPanelId "1")) ⟨⟨"2", rfl⟩, hunused'⟩).acted
      ⟨3000⟩ .undo trivial
  obtain ⟨hvalid, hedit⟩ :=
    run_stays_valid (by decide) WidgetDefinition.builtin rfl (by decide) hrun
  exact ⟨hlength, fun w hw => (hvalid w hw).1, (hedit hmode).1⟩

/-- **Names count.**  A widget that is registered without a name can be picked,
and then strict validation refuses the draft. -/
theorem nameless_widget_refused :
    ¬ ∀ (registry : Registry) (settings : SessionSettings) (s : Session),
      1 ≤ settings.grid.columns → Run registry settings s →
        ∀ w ∈ s.documents, w.StrictlyValid (sessionOptions registry settings) := by
  intro h
  obtain ⟨hunused, hinvalid⟩ :
      (∀ w ∈ (editedDesk nameless .standard).draft, ∀ page ∈ w.pages,
        newPanelId "1" ∉ page.layout.panels.map (·.id)) ∧
      ¬ ∀ w ∈ ((editedDesk nameless .standard).perform ⟨0⟩
        (.addWidgetPanel (newPanelId "1") "")).documents,
          w.ValidFor (sessionOptions nameless .standard) := by
    decide +kernel
  have hrun : Run nameless .standard ((editedDesk nameless .standard).perform ⟨0⟩
      (.addWidgetPanel (newPanelId "1") "")) :=
    (run_editedDesk nameless .standard).acted ⟨0⟩ (.addWidgetPanel (newPanelId "1") "")
      ⟨⟨"1", rfl⟩, hunused⟩
  apply hinvalid
  intro w hw
  exact Workspace.strictlyValid_iff.mp (h nameless .standard _ (by decide) hrun w hw)

end Session

end Dashboard
