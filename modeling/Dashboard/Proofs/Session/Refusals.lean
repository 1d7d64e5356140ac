/-
  Dashboard.Proofs.Session.Refusals
  ─────────────────────────────────
  **A REFUSED OPERATION CHANGES NOTHING.**

  The checks of an operation stand in front of its first change, an edit works
  on a copy of the draft, and a new committed document is written before the
  session shows it.  So whatever is refused, and for whatever reason, leaves
  the whole session as it was, with its store, its history and its warnings.

  Setting filters is the one exception: there the session changes first and is
  written afterwards.

  Main results:
    Careful.editDraft       — an edit of the draft
    careful_attempt         — every operation but one
    setFilters_of_error     — the exception
    refused_changes_nothing — all together
-/
import Dashboard.Proofs.Session.Actions
import Dashboard.Proofs.Session.Lifetime

namespace Dashboard.Session

open Grid Json Time

/-! ## §1. Operations and their answers. -/

/-- A result without the value that an accepted operation gives. -/
def SessionResult.settled {α : Type} (r : SessionResult α) : SessionResult Unit :=
  (r.1.map fun _ => (), r.2)

/-- An operation with its answer. -/
def attempt (s : Session) (now : Instant) : Action → SessionResult Unit
  | .setActivePage id => s.setActivePage id
  | .setFocus focus => (.ok (), s.setFocus focus)
  | .setFilters filters => s.setFilters filters
  | .takeWarnings => (.ok (), s.takeWarnings.2)
  | .beginEdit => s.beginEdit
  | .setMode mode => s.setMode mode
  | .apply => s.apply now
  | .cancel => s.cancel
  | .pickTemplate id => s.pickTemplate now id
  | .importText text => s.importText now text
  | .addWidgetPanel newId widgetId => SessionResult.settled (s.addWidgetPanel now newId widgetId)
  | .addPlaceholderPanel newId => SessionResult.settled (s.addPlaceholderPanel now newId)
  | .removePanel id confirmed => SessionResult.settled (s.removePanel now id confirmed)
  | .duplicatePanel newId id => SessionResult.settled (s.duplicatePanel now newId id)
  | .reorderPanels source target => s.reorderPanels now source target
  | .setPanelFrame id rect => SessionResult.settled (s.setPanelFrame now id rect)
  | .applyFrameChange c => SessionResult.settled (s.applyFrameChange now c)
  | .resizePanelWidth id delta => SessionResult.settled (s.resizePanelWidth now id delta)
  | .toggleLock id => SessionResult.settled (s.toggleLock now id)
  | .togglePin id => SessionResult.settled (s.togglePin now id)
  | .toggleProtect id => SessionResult.settled (s.toggleProtect now id)
  | .undo => SessionResult.settled s.undo
  | .redo => SessionResult.settled s.redo

/-- Trying an operation does what performing it does. -/
theorem attempt_snd (s : Session) (now : Instant) (a : Action) :
    (s.attempt now a).2 = s.perform now a := by
  cases a <;> rfl

/-! ## §2. Careful results. -/

variable {s : Session} {now : Instant} {α β : Type}

/-- What a refusal means: the session is as before, and a workspace is only
missed where no page is shown. -/
structure Refusal (s : Session) (e : SessionError) (s' : Session) : Prop where
  unchanged : s' = s
  missing : e = .noWorkspace → s.activePage? = none

/-- A result that refuses without a change, or accepts. -/
def Careful (s : Session) (r : SessionResult α) : Prop :=
  ∀ e, r.1 = .error e → s.Refusal e r.2

/-- Who accepts does not refuse. -/
theorem Careful.ok (a : α) (s' : Session) : s.Careful (.ok a, s') := by
  intro e h
  cases h

/-- A refusal before the first change. -/
theorem Careful.error {e : SessionError} (h : e = .noWorkspace → s.activePage? = none) :
    s.Careful (α := α) (.error e, s) := by
  intro e' he
  cases he
  exact ⟨rfl, h⟩

/-- A refusal for any other reason. -/
theorem Careful.refuse {e : SessionError} (h : e ≠ .noWorkspace) :
    s.Careful (α := α) (.error e, s) :=
  .error fun he => absurd he h

/-- What becomes of the value of an accepted operation does not matter. -/
theorem Careful.map {r : SessionResult α} (h : s.Careful r) (f : α → β) :
    s.Careful (r.1.map f, r.2) := by
  intro e he
  obtain ⟨answer, s'⟩ := r
  cases answer with
  | ok a => cases he
  | error e' =>
      cases he
      exact h e rfl

theorem Careful.settled {r : SessionResult α} (h : s.Careful r) :
    s.Careful (SessionResult.settled r) := h.map _

/-! ## §3. Edits of the draft. -/

/-- A draft is only missed where no page is shown. -/
theorem editedDraft_eq_error {e : SessionError} (h : s.editedDraft = .error e) :
    e = .noWorkspace → s.activePage? = none := by
  unfold editedDraft at h
  split at h
  next =>
    cases h
    exact nofun
  next hmode =>
    split at h
    next hdraft =>
      intro _
      simp [activePage?, workspace?, not_not.mp hmode, hdraft]
    next => cases h

/-- A page to edit is only missed where no page is shown. -/
theorem editedPage_eq_error {e : SessionError} (h : s.editedPage = .error e) :
    e = .noWorkspace → s.activePage? = none := by
  unfold editedPage at h
  split at h
  next e' he =>
    cases h
    exact editedDraft_eq_error he
  next w hw =>
    obtain ⟨hmode, hdraft⟩ := editedDraft_eq_ok hw
    split at h
    next hpage =>
      intro _
      simp [activePage?, workspace?, hmode, hdraft, hpage]
    next => cases h

/-- **An edit of the draft**, by whatever changes it: a refusal leaves the
session as it was. -/
theorem Careful.editDraft {edit : Workspace → Except SessionError (α × Workspace)}
    (hedit : ∀ w, edit w ≠ .error .noWorkspace) : s.Careful (s.editDraft now edit) := by
  intro e he
  refine ⟨editDraft_error he, ?_⟩
  unfold Session.editDraft at he
  split at he
  next e' hdraft =>
    cases he
    exact editedDraft_eq_error hdraft
  next w _ =>
    split at he
    next e' hrefused =>
      cases he
      intro hmissing
      exact absurd (hmissing ▸ hrefused) (hedit w)
    next => cases he

/-- A change of the value does not change a refusal. -/
theorem error_of_map {f : α → β} {x : Except SessionError α} {e : SessionError}
    (h : x.map f = .error e) : x = .error e := by
  cases x with
  | error e' =>
      cases h
      rfl
  | ok a => cases h

/-- An update of the first match misses no workspace if the update itself
misses none. -/
theorem updateFirst_ne_missing {test : α → Bool} {f : α → Except SessionError (β × α)}
    {none : SessionError} (hnone : none ≠ .noWorkspace) (hf : ∀ a, f a ≠ .error .noWorkspace)
    (l : List α) : updateFirst test f none l ≠ .error .noWorkspace := by
  induction l with
  | nil =>
      intro h
      exact hnone (Except.error.inj h)
  | cons a rest ih =>
      intro h
      rw [updateFirst] at h
      split at h
      next => exact hf a (error_of_map h)
      next => exact ih (error_of_map h)

/-- An edit of the panels of a page misses no workspace: it has one. -/
theorem onPanels_ne_missing {pageId : String}
    {edit : Page → Except SessionError (α × List Panel)}
    (hedit : ∀ page, edit page ≠ .error .noWorkspace) (w : Workspace) :
    onPanels pageId edit w ≠ .error .noWorkspace := by
  intro h
  refine updateFirst_ne_missing ?_ ?_ w.pages (error_of_map h)
  · intro hnone
    cases hnone
  · intro page hpage
    exact hedit page (error_of_map hpage)

/-- An edit of the panels of the shown page refuses without a change. -/
theorem Careful.editPanels {edit : Page → Except SessionError (α × List Panel)}
    (hedit : ∀ page, edit page ≠ .error .noWorkspace) : s.Careful (s.editPanels now edit) := by
  unfold Session.editPanels
  split
  next e he => exact .error (editedPage_eq_error he)
  next => exact .editDraft (onPanels_ne_missing hedit)

/-- An edit of one panel refuses without a change. -/
theorem Careful.onPanel {pageId panelId : String} {edit : Panel → α × Panel} :
    s.Careful (s.editDraft now (Session.onPanel pageId panelId edit)) := by
  refine .editDraft (onPanels_ne_missing fun page => ?_)
  refine updateFirst_ne_missing ?_ ?_ page.layout.panels
  · exact nofun
  · exact fun _ => nofun

/-! ## §4. The operations on panels. -/

/-- A widget that is not known is refused before anything is placed. -/
theorem careful_addWidgetPanel (newId widgetId : String) :
    s.Careful (s.addWidgetPanel now newId widgetId) := by
  unfold addWidgetPanel
  split
  next e he => exact .error (editedPage_eq_error he)
  next =>
    split
    next => exact .refuse nofun
    next => exact .editPanels fun _ => nofun

/-- A panel that is missing, or protected and not confirmed, is refused. -/
theorem careful_removePanel (id : String) (confirmed : Bool) :
    s.Careful (s.removePanel now id confirmed) := by
  refine .editPanels fun page => ?_
  split
  next => exact nofun
  next => split <;> exact nofun

theorem careful_duplicatePanel (newId id : String) :
    s.Careful (s.duplicatePanel now newId id) := by
  refine .editPanels fun page => ?_
  split <;> exact nofun

/-- Moving a panel among others misses no workspace. -/
theorem moveTo_ne_missing (source target : String) (panels : List Panel) :
    moveTo source target panels ≠ .error .noWorkspace := by
  intro h
  unfold moveTo at h
  split at h
  next => cases h
  next =>
    dsimp only at h
    split at h <;> cases h

/-- Panels that are not there are refused before the list is touched. -/
theorem careful_reorderPanels (source target : String) :
    s.Careful (s.reorderPanels now source target) := by
  unfold reorderPanels
  split
  next e he => exact .error (editedPage_eq_error he)
  next =>
    split
    next => exact .refuse nofun
    split
    next => exact .refuse nofun
    split
    next => exact .ok _ _
    refine .editPanels fun page => ?_
    cases hmove : moveTo source target page.layout.panels with
    | error e =>
        intro h
        cases h
        exact moveTo_ne_missing _ _ _ hmove
    | ok panels => exact nofun

/-- A panel to edit misses no workspace where a page is shown. -/
theorem unlockedPanel_eq_error {id : String} {e : SessionError}
    (h : s.unlockedPanel id = .error e) : e = .noWorkspace → s.activePage? = none := by
  unfold unlockedPanel at h
  split at h
  next e' he =>
    cases h
    exact editedPage_eq_error he
  next =>
    split at h
    next =>
      cases h
      exact nofun
    next =>
      split at h
      next =>
        cases h
        exact nofun
      next => cases h

/-- A frame is refused before the draft is copied. -/
theorem careful_setPanelFrame (id : String) (rect : Rect) :
    s.Careful (s.setPanelFrame now id rect) := by
  unfold setPanelFrame
  split
  next e he => exact .error (unlockedPanel_eq_error he)
  next =>
    dsimp only
    split
    next => exact .ok _ _
    next => exact .onPanel

theorem careful_resizePanelWidth (id : String) (delta : Int) :
    s.Careful (s.resizePanelWidth now id delta) := by
  unfold resizePanelWidth
  split
  next e he => exact .error (unlockedPanel_eq_error he)
  next =>
    dsimp only
    split
    next => exact .ok _ _
    next => exact (careful_setPanelFrame id _).map _

/-- All three flags alike. -/
theorem careful_togglePanel (id : String) (toggle : Panel → Bool × Panel) :
    s.Careful (s.togglePanel now id toggle) := by
  unfold togglePanel
  split
  next e he => exact .error (editedPage_eq_error he)
  next => exact .onPanel

/-- Undo and redo refuse where there is no draft to edit, and nowhere else. -/
theorem careful_travel
    (move : History Workspace → Workspace → Option (Workspace × History Workspace)) :
    s.Careful (s.travel move) := by
  unfold travel
  split
  next e he => exact .error (editedDraft_eq_error he)
  next => split <;> exact .ok _ _

/-! ## §5. Documents and modes. -/

/-- A commit fails and leaves the store as it was, or gives the committed form
and changes the backend alone. -/
theorem Store.commit_cases (s : Store) (now : Instant) (w : Workspace) :
    (∃ e, s.commit now w = (.error e, s)) ∨
      ∃ b, s.commit now w = (.ok (Store.committedForm now w), { s with backend := b }) := by
  unfold Store.commit
  dsimp only
  split
  next e s' hwrite =>
    have hbackend : (s.backend.set s.keys.committed
        (Store.committedForm now w).compactText).1 = .error e := congrArg Prod.fst hwrite
    have hstore : ({ s with backend := (s.backend.set s.keys.committed
        (Store.committedForm now w).compactText).2 } : Store) = s' := congrArg Prod.snd hwrite
    left
    exact ⟨e, by rw [← hstore, Backend.set_error hbackend]⟩
  next s' hwrite =>
    have hstore : ({ s with backend := (s.backend.set s.keys.committed
        (Store.committedForm now w).compactText).2 } : Store) = s' := congrArg Prod.snd hwrite
    right
    rw [← hstore]
    exact ⟨_, rfl⟩

theorem careful_setActivePage (id : String) : s.Careful (s.setActivePage id) := by
  unfold setActivePage
  split
  next hnone => exact .error fun _ => by simp [activePage?, hnone]
  next =>
    split
    next => exact .refuse nofun
    next => exact .ok _ _

theorem careful_beginEdit : s.Careful s.beginEdit := by
  unfold beginEdit
  split
  next hnone =>
    refine .error fun _ => ?_
    obtain ⟨hdraft, hcommitted⟩ := Option.or_eq_none_iff.mp hnone
    unfold activePage? workspace?
    split <;> simp [hdraft, hcommitted]
  next => exact .ok _ _

/-- A draft that cannot be written stays a draft. -/
theorem careful_apply : s.Careful (s.apply now) := by
  unfold apply
  split
  next e he => exact .error (editedDraft_eq_error he)
  next draft _ =>
    rcases Store.commit_cases s.store now draft with ⟨e, hcommit⟩ | ⟨b, hcommit⟩
    · rw [hcommit]
      exact .refuse nofun
    · rw [hcommit]
      exact .ok _ _

theorem careful_cancel : s.Careful s.cancel := by
  unfold cancel
  split
  next => exact .refuse nofun
  next => exact .ok _ _

/-- A document that cannot be written is not shown. -/
theorem careful_install (v : Validated) : s.Careful (s.install now v) := by
  unfold install
  rcases Store.commit_cases s.store now v.workspace with ⟨e, hcommit⟩ | ⟨b, hcommit⟩
  · rw [hcommit]
    exact .refuse nofun
  · rw [hcommit]
    exact .ok _ _

theorem careful_pickTemplate (id : String) : s.Careful (s.pickTemplate now id) := by
  unfold pickTemplate
  split
  next => exact .refuse nofun
  next =>
    split
    next => exact .refuse nofun
    next v _ => exact careful_install v

/-- A text that is refused leaves what is shown. -/
theorem careful_importText (text : String) : s.Careful (s.importText now text) := by
  unfold importText
  split
  next => exact .refuse nofun
  next v _ => exact careful_install v

/-! ## §6. All operations. -/

/-- **Every operation but setting filters** refuses without a change. -/
theorem careful_attempt (s : Session) (now : Instant) (a : Action)
    (other : ∀ filters, a ≠ .setFilters filters) : s.Careful (s.attempt now a) := by
  cases a with
  | setFilters filters => exact absurd rfl (other filters)
  | setActivePage id => exact careful_setActivePage id
  | setFocus focus => exact .ok _ _
  | takeWarnings => exact .ok _ _
  | beginEdit => exact careful_beginEdit
  | setMode mode =>
      cases mode with
      | view => exact .ok _ _
      | edit => exact careful_beginEdit
  | apply => exact careful_apply
  | cancel => exact careful_cancel
  | pickTemplate id =>
      show s.Careful (s.pickTemplate now id)
      exact careful_pickTemplate id
  | importText text => exact careful_importText text
  | addWidgetPanel newId widgetId => exact (careful_addWidgetPanel newId widgetId).settled
  | addPlaceholderPanel newId =>
      have h : s.Careful (s.addPlaceholderPanel now newId) := .editPanels fun _ => nofun
      exact h.settled
  | removePanel id confirmed => exact (careful_removePanel id confirmed).settled
  | duplicatePanel newId id => exact (careful_duplicatePanel newId id).settled
  | reorderPanels source target => exact careful_reorderPanels source target
  | setPanelFrame id rect => exact (careful_setPanelFrame id rect).settled
  | applyFrameChange c => exact (careful_setPanelFrame c.panel c.rect).settled
  | resizePanelWidth id delta => exact (careful_resizePanelWidth id delta).settled
  | toggleLock id | togglePin id | toggleProtect id => exact (careful_togglePanel id _).settled
  | undo | redo => exact (careful_travel _).settled

/-- Filters that cannot be written are set all the same. -/
theorem setFilters_of_error {filters : Filters} {e : SessionError}
    (h : (s.setFilters filters).1 = .error e) :
    (s.setFilters filters).2 = { s with filters } := by
  unfold setFilters Store.savePreferences Store.write at h ⊢
  dsimp only at h ⊢
  cases hset : (s.store.backend.set s.store.keys.preferences filters.toStored).1 with
  | ok _ =>
      rw [hset] at h
      cases h
  | error e' => rw [Backend.set_error hset]

/-- **A refused operation changes nothing.**  Whatever a session does other
than setting filters, with whatever arguments, an arbitrary edit of the draft
included, and whichever calls of the backend fail: a refusal leaves the
session as it was, with its documents, its history, its warnings and all that
is stored. -/
theorem refused_changes_nothing (s : Session) (now : Instant) :
    (∀ a e, (∀ filters, a ≠ .setFilters filters) → (s.attempt now a).1 = .error e →
      (s.attempt now a).2 = s) ∧
    ∀ (α : Type) (edit : Workspace → Except SessionError (α × Workspace)) e,
      (s.editDraft now edit).1 = .error e → (s.editDraft now edit).2 = s := by
  constructor
  · intro a e other h
    exact (careful_attempt s now a other e h).unchanged
  · intro α edit e h
    exact editDraft_error h

/-- A desk whose storage is full. -/
def fullDesk : Session :=
  (editedDesk .builtin .standard).during fun _ _ => some (.unavailable "quota exceeded")

/-- The draft cannot be committed, and a template cannot be put in its place. -/
theorem fullDesk_unchanged :
    (∃ e, (fullDesk.attempt ⟨1000⟩ .apply).1 = .error e ∧
      (fullDesk.attempt ⟨1000⟩ .apply).2 = fullDesk) ∧
    ∃ e, (fullDesk.attempt ⟨1000⟩ (.pickTemplate "incident")).1 = .error e ∧
      (fullDesk.attempt ⟨1000⟩ (.pickTemplate "incident")).2 = fullDesk := by
  obtain ⟨happly, hpick⟩ : (fullDesk.attempt ⟨1000⟩ .apply).1.toBool = false ∧
      (fullDesk.attempt ⟨1000⟩ (.pickTemplate "incident")).1.toBool = false := by
    decide +kernel
  have refused : ∀ {r : Except SessionError Unit}, r.toBool = false → ∃ e, r = .error e := by
    intro r hr
    cases r with
    | ok _ => cases hr
    | error e => exact ⟨e, rfl⟩
  obtain ⟨e, he⟩ := refused happly
  obtain ⟨e', he'⟩ := refused hpick
  exact ⟨⟨e, he, (refused_changes_nothing fullDesk ⟨1000⟩).1 .apply e nofun he⟩,
    e', he', (refused_changes_nothing fullDesk ⟨1000⟩).1 (.pickTemplate "incident") e' nofun he'⟩

end Dashboard.Session
