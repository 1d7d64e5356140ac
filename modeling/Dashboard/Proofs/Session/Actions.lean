/-
  Dashboard.Proofs.Session.Actions
  ────────────────────────────────
  **WHAT AN OPERATION DOES TO THE DOCUMENTS.**

  An operation of a session is an `Action`, and `perform` is the session after
  it.  The ten operations on panels all go through `editDraft`: such an
  operation changes nothing, or the draft goes to the history and an edited
  one takes its place, well formed if the draft was.  `Edited` says so, with
  one theorem for each way an operation edits.

  Main results:
    edited_of_editPanels — an edit that keeps the panels of a page well formed
    edited_of_onPanel    — an edit that keeps a single panel well formed
    edited_addWidgetPanel, …, edited_togglePanel — the operations
-/
import Dashboard.Proofs.Session.Edits

namespace Dashboard

open Grid Json Time

/-! ## §1. Actions. -/

namespace Session

/-- An operation with its arguments; `newId` is the id that a new panel gets. -/
inductive Action where
  | setActivePage (id : String)
  | setFocus (focus : Bool)
  | setFilters (filters : Filters)
  | takeWarnings
  | beginEdit
  | setMode (mode : Mode)
  | apply
  | cancel
  | pickTemplate (id : String)
  | importText (text : String)
  | addWidgetPanel (newId widgetId : String)
  | addPlaceholderPanel (newId : String)
  | removePanel (id : String) (confirmed : Bool)
  | duplicatePanel (newId id : String)
  | reorderPanels (source target : String)
  | setPanelFrame (id : String) (rect : Rect)
  | applyFrameChange (c : FrameChange)
  | resizePanelWidth (id : String) (delta : Int)
  | toggleLock (id : String)
  | togglePin (id : String)
  | toggleProtect (id : String)
  | undo
  | redo

/-- The session after an operation. -/
def perform (s : Session) (now : Instant) : Action → Session
  | .setActivePage id => (s.setActivePage id).2
  | .setFocus focus => s.setFocus focus
  | .setFilters filters => (s.setFilters filters).2
  | .takeWarnings => s.takeWarnings.2
  | .beginEdit => s.beginEdit.2
  | .setMode mode => (s.setMode mode).2
  | .apply => (s.apply now).2
  | .cancel => s.cancel.2
  | .pickTemplate id => (s.pickTemplate now id).2
  | .importText text => (s.importText now text).2
  | .addWidgetPanel newId widgetId => (s.addWidgetPanel now newId widgetId).2
  | .addPlaceholderPanel newId => (s.addPlaceholderPanel now newId).2
  | .removePanel id confirmed => (s.removePanel now id confirmed).2
  | .duplicatePanel newId id => (s.duplicatePanel now newId id).2
  | .reorderPanels source target => (s.reorderPanels now source target).2
  | .setPanelFrame id rect => (s.setPanelFrame now id rect).2
  | .applyFrameChange c => (s.applyFrameChange now c).2
  | .resizePanelWidth id delta => (s.resizePanelWidth now id delta).2
  | .toggleLock id => (s.toggleLock now id).2
  | .togglePin id => (s.togglePin now id).2
  | .toggleProtect id => (s.toggleProtect now id).2
  | .undo => s.undo.2
  | .redo => s.redo.2

/-- The id can be given to a new panel: no panel of the draft has it. -/
structure Fresh (s : Session) (id : String) : Prop where
  filled : Text.Filled id
  unused : ∀ w ∈ s.draft, ∀ page ∈ w.pages, id ∉ page.layout.panels.map (·.id)

/-- What is asked of the arguments of an operation: new ids are fresh, and an
imported text is one that strict validation accepts. -/
def Action.Admissible (s : Session) (now : Instant) : Action → Prop
  | .importText text =>
    ∃ v, parseAndValidate (s.store.options.inMode .strict) now text = .ok v
  | .addWidgetPanel newId _ | .addPlaceholderPanel newId | .duplicatePanel newId _ =>
    s.Fresh newId
  | _ => True

/-- The session while the calls of its backend fail in this way. -/
def during (s : Session) (faults : StorageFaults) : Session :=
  { s with store := { s.store with backend := { s.store.backend with faults } } }

end Session

/-- A widget that can be picked is registered under its own id, which is not
blank. -/
def Registry.Named (r : Registry) : Prop :=
  ∀ id d, r.get? id = some d → d.isPickable = true → d.id = id ∧ Text.Filled d.id

namespace Session

/-! ## §2. Edits of the draft. -/

variable {s : Session} {now : Instant} {o : ValidationOptions}

/-- There is a draft to edit in edit mode only. -/
theorem editedDraft_eq_ok {w : Workspace} (h : s.editedDraft = .ok w) :
    s.mode = .edit ∧ s.draft = some w := by
  unfold editedDraft at h
  split at h
  next => cases h
  next hmode =>
    split at h
    next => cases h
    next hdraft =>
      cases h
      exact ⟨not_not.mp hmode, hdraft⟩

theorem editedDraft_of_draft {w : Workspace} (hmode : s.mode = .edit) (hdraft : s.draft = some w) :
    s.editedDraft = .ok w := by
  rw [editedDraft, if_neg (fun hne => hne hmode), hdraft]

/-- An edit that succeeds is remembered, dated and stored. -/
theorem editDraft_eq_ok {α : Type} {now : Instant} {w after : Workspace} {a : α}
    {edit : Workspace → Except SessionError (α × Workspace)} (hmode : s.mode = .edit)
    (hdraft : s.draft = some w) (hedit : edit w = .ok (a, after)) :
    s.editDraft now edit = (.ok a, ({ s with
      history := s.history.push w, draft := some (after.touch now) } : Session).flushDraft) := by
  unfold editDraft
  rw [editedDraft_of_draft hmode hdraft]
  dsimp only
  rw [hedit]

/-- The page that is edited is one of the draft. -/
theorem editedPage_eq_ok {page : Page} (h : s.editedPage = .ok page) :
    ∃ w, s.editedDraft = .ok w ∧ page ∈ w.pages := by
  unfold editedPage at h
  split at h
  next => cases h
  next w hw =>
    split at h
    next => cases h
    next hpage =>
      cases h
      exact ⟨w, hw, Workspace.mem_of_resolvePage? hpage⟩

theorem unlockedPanel_eq_ok {id : String} {page : Page} {p : Panel}
    (h : s.unlockedPanel id = .ok (page, p)) : s.editedPage = .ok page := by
  unfold unlockedPanel at h
  split at h
  next => cases h
  next hpage =>
    split at h
    next => cases h
    next =>
      split at h
      next => cases h
      next =>
        cases h
        exact hpage

/-- Writing the draft leaves the session alone, but for the backend and the
warnings. -/
theorem flushDraft_backend (s : Session) :
    ∃ b warnings, s.flushDraft = { s with store := { s.store with backend := b }, warnings } := by
  unfold flushDraft
  split
  next => exact ⟨s.store.backend, s.warnings, rfl⟩
  next w _ =>
    have hstore : (s.store.saveDraft w).2
        = { s.store with backend := (s.store.backend.set s.store.keys.draft w.compactText).2 } := rfl
    split
    next store hsave =>
      rw [hsave] at hstore
      subst hstore
      exact ⟨_, _, rfl⟩
    next e store hsave =>
      rw [hsave] at hstore
      subst hstore
      exact ⟨_, _, rfl⟩

/-- What an operation on panels can do: nothing, or one edit of the draft that
keeps it well formed. -/
inductive Edited (o : ValidationOptions) (now : Instant) (s : Session) : Session → Prop
  | unchanged : Edited o now s s
  | edited (before after : Workspace) (editing : s.editedDraft = .ok before)
      (valid : before.ValidFor o → after.ValidFor o)
      (version : after.schemaVersion = before.schemaVersion) :
      Edited o now s ({ s with
        history := s.history.push before, draft := some (after.touch now) } : Session).flushDraft

/-- An edit that keeps documents valid and their version. -/
theorem edited_of_editDraft {α : Type} {edit : Workspace → Except SessionError (α × Workspace)}
    (hedit : ∀ w a w', s.editedDraft = .ok w → edit w = .ok (a, w') →
      (w.ValidFor o → w'.ValidFor o) ∧ w'.schemaVersion = w.schemaVersion) :
    s.Edited o now (s.editDraft now edit).2 := by
  unfold editDraft
  split
  next => exact .unchanged
  next before hbefore =>
    split
    next => exact .unchanged
    next a after hafter =>
      obtain ⟨hvalid, hversion⟩ := hedit before a after hbefore hafter
      exact .edited before after hbefore hvalid hversion

/-- An edit of the panels of one page. -/
theorem edited_of_onPanels {α : Type} {pageId : String}
    {edit : Page → Except SessionError (α × List Panel)}
    (hedit : ∀ w page a panels, s.editedDraft = .ok w → w.ValidFor o → page ∈ w.pages →
      page.id = pageId → edit page = .ok (a, panels) →
      Panel.AllWellFormed o.Accepts (page.layout.specOr o.gridDefaults).columns panels) :
    s.Edited o now (s.editDraft now (onPanels pageId edit)).2 := by
  refine edited_of_editDraft fun w a w' hw hon => ?_
  obtain ⟨before, page, after, panels, hpages, hid, hpanels, rfl⟩ := onPanels_eq_ok hon
  refine ⟨fun hvalid => ?_, rfl⟩
  have hpage : page ∈ w.pages := by
    rw [hpages]
    exact List.mem_append_right before List.mem_cons_self
  exact Workspace.WellFormed.withPanels hvalid hpages
    (hedit w page a panels hw hvalid hpage hid hpanels)

/-- **An edit of the panels of the page shown.** -/
theorem edited_of_editPanels {α : Type} {edit : Page → Except SessionError (α × List Panel)}
    (hedit : ∀ w page a panels, s.editedDraft = .ok w → page ∈ w.pages →
      page.layout.WellFormed o.Accepts o.gridDefaults → edit page = .ok (a, panels) →
      Panel.AllWellFormed o.Accepts (page.layout.specOr o.gridDefaults).columns panels) :
    s.Edited o now (s.editPanels now edit).2 := by
  unfold editPanels
  split
  next => exact .unchanged
  next =>
    refine edited_of_onPanels fun w page a panels hw hvalid hpage _ hpanels => ?_
    exact hedit w page a panels hw hpage (hvalid.pages page hpage).layout hpanels

/-- **An edit of one panel.** -/
theorem edited_of_onPanel {α : Type} {pageId panelId : String} {edit : Panel → α × Panel}
    (hid : ∀ p, (edit p).2.id = p.id)
    (hedit : ∀ w page p, s.editedDraft = .ok w → w.ValidFor o → page ∈ w.pages →
      page.id = pageId →
      p.WellFormed o.Accepts (page.layout.specOr o.gridDefaults).columns →
      (edit p).2.WellFormed o.Accepts (page.layout.specOr o.gridDefaults).columns) :
    s.Edited o now (s.editDraft now (onPanel pageId panelId edit)).2 := by
  refine edited_of_onPanels fun w page a panels hw hvalid hpage hpageId hpanels => ?_
  obtain ⟨before, p, p', after, hbefore, rfl, -, hp⟩ := updateFirst_eq_ok hpanels
  have hp' : (edit p).2 = p' := congrArg Prod.snd (Except.ok.inj hp)
  subst hp'
  have hall := (hvalid.pages page hpage).layout.panels
  rw [hbefore] at hall
  have hmem : p ∈ before ++ p :: after := List.mem_append_right before List.mem_cons_self
  exact hall.update (hid p) (hedit w page p hw hvalid hpage hpageId (hall.each p hmem))

/-! ## §3. New panels. -/

/-- A panel made for the first free place of a page. -/
theorem allWellFormed_appendPanel (hgrid : o.gridDefaults = s.settings.grid)
    (wide : 1 ≤ s.settings.grid.columns) {w : Workspace} {page : Page} {size : Size}
    {make : Rect → Panel} {id newId : String} {panels : List Panel} (fresh : s.Fresh newId)
    (hw : s.editedDraft = .ok w) (hpage : page ∈ w.pages)
    (hl : page.layout.WellFormed o.Accepts o.gridDefaults) (hid : ∀ r, (make r).id = newId)
    (hmake : ∀ r, r.fits (page.layout.specOr o.gridDefaults).columns = true →
      (make r).WellFormed o.Accepts (page.layout.specOr o.gridDefaults).columns)
    (h : s.appendPanel page size make = (id, panels)) :
    Panel.AllWellFormed o.Accepts (page.layout.specOr o.gridDefaults).columns panels := by
  have hcolumns : 1 ≤ (page.layout.specOr o.gridDefaults).columns :=
    hl.one_le_columns (hgrid ▸ wide)
  have hfits : (s.firstFit page size).fits (page.layout.specOr o.gridDefaults).columns = true := by
    unfold firstFit
    rw [← hgrid]
    exact fits_findFreeSlot hcolumns size _
  cases h
  -- the new id is not yet on the page, since no page of the draft has it
  refine hl.panels.append (hmake _ hfits) ?_
  rw [hid]
  exact fresh.unused w (editedDraft_eq_ok hw).2 page hpage

/-- A new panel has a fresh id, a known widget and a free place. -/
theorem edited_addWidgetPanel (hgrid : o.gridDefaults = s.settings.grid)
    (wide : 1 ≤ s.settings.grid.columns) (named : s.registry.Named)
    (knows : ∀ id d, s.registry.get? id = some d → o.knows id = true) {newId : String}
    (fresh : s.Fresh newId) (widgetId : String) :
    s.Edited o now (s.addWidgetPanel now newId widgetId).2 := by
  unfold addWidgetPanel
  split
  next => exact .unchanged
  next =>
    split
    next => exact .unchanged
    next d hd =>
      -- a widget that can be picked has a name, and the validator knows it
      obtain ⟨hget, hpickable⟩ := Option.filter_eq_some_iff.mp hd
      obtain ⟨hown, hfilled⟩ := named widgetId d hget hpickable
      have haccepts : o.Accepts d.id := ⟨hfilled, hown ▸ knows widgetId d hget⟩
      refine edited_of_editPanels fun w page a panels hw hpage hl hpanels => ?_
      refine allWellFormed_appendPanel hgrid wide fresh hw hpage hl (fun _ => rfl) ?_
        (Except.ok.inj hpanels)
      intro r hr
      have hfresh := Panel.wellFormed_fresh fresh.filled haccepts hr now
      exact ⟨hfresh.id, hfresh.widgetId, hfresh.frame, hfresh.createdAt, hfresh.updatedAt⟩

theorem edited_addPlaceholderPanel (hgrid : o.gridDefaults = s.settings.grid)
    (wide : 1 ≤ s.settings.grid.columns) {newId : String} (fresh : s.Fresh newId) :
    s.Edited o now (s.addPlaceholderPanel now newId).2 := by
  refine edited_of_editPanels fun w page a panels hw hpage hl hpanels => ?_
  refine allWellFormed_appendPanel hgrid wide fresh hw hpage hl (fun _ => rfl) ?_
    (Except.ok.inj hpanels)
  intro r hr
  have hfresh := Panel.wellFormed_fresh fresh.filled o.accepts_placeholder hr now
  exact ⟨hfresh.id, hfresh.widgetId, hfresh.frame, hfresh.createdAt, hfresh.updatedAt⟩

/-- A copy has a fresh id and a free place. -/
theorem edited_duplicatePanel (hgrid : o.gridDefaults = s.settings.grid)
    (wide : 1 ≤ s.settings.grid.columns) {newId : String} (fresh : s.Fresh newId) (id : String) :
    s.Edited o now (s.duplicatePanel now newId id).2 := by
  refine edited_of_editPanels fun w page a panels hw hpage hl hpanels => ?_
  split at hpanels
  next => cases hpanels
  next p hp =>
    refine allWellFormed_appendPanel hgrid wide fresh hw hpage hl (fun _ => rfl) ?_
      (Except.ok.inj hpanels)
    intro r hr
    -- a copy takes over everything but its id, its place and its dates
    have hcopy := (hl.panels.each p (Page.mem_of_panel? hp)).withRect hr
    exact ⟨fresh.filled, hcopy.widgetId, hcopy.frame, now.stamp_ne_empty, now.stamp_ne_empty⟩

/-! ## §4. Panels that go or move. -/

/-- Fewer panels are as valid. -/
theorem edited_removePanel (id : String) (confirmed : Bool) :
    s.Edited o now (s.removePanel now id confirmed).2 := by
  refine edited_of_editPanels fun w page a panels _ _ hl hpanels => ?_
  split at hpanels
  next => cases hpanels
  next =>
    split at hpanels
    next => cases hpanels
    next =>
      cases hpanels
      exact hl.panels.sublist List.eraseP_sublist

/-- The same panels in another order. -/
theorem edited_reorderPanels (source target : String) :
    s.Edited o now (s.reorderPanels now source target).2 := by
  unfold reorderPanels
  split
  next => exact .unchanged
  next =>
    split
    next => exact .unchanged
    split
    next => exact .unchanged
    split
    next => exact .unchanged
    refine edited_of_editPanels fun w page a panels _ _ hl hpanels => ?_
    cases hmove : moveTo source target page.layout.panels with
    | error e => rw [hmove] at hpanels; cases hpanels
    | ok moved =>
        rw [hmove] at hpanels
        cases hpanels
        exact hl.panels.perm (moveTo_perm hmove)

/-! ## §5. Panels that change. -/

/-- A frame is clamped to the columns of its page. -/
theorem edited_setPanelFrame (hgrid : o.gridDefaults = s.settings.grid)
    (wide : 1 ≤ s.settings.grid.columns) (id : String) (rect : Rect) :
    s.Edited o now (s.setPanelFrame now id rect).2 := by
  unfold setPanelFrame
  split
  next => exact .unchanged
  next page p hunlocked =>
    dsimp only
    split
    next => exact .unchanged
    next =>
      have hshown := unlockedPanel_eq_ok hunlocked
      refine edited_of_onPanel (fun _ => rfl) fun w page' q hw hvalid hpage' hid hq => ?_
      obtain ⟨w', hw', hpage⟩ := editedPage_eq_ok hshown
      cases hw.symm.trans hw'
      -- the page that is edited is the page shown
      have hsame : page' = page := Workspace.WellFormed.page_unique hvalid hpage' hpage hid
      subst hsame
      have hcolumns : 1 ≤ (page'.layout.specOr o.gridDefaults).columns :=
        (hvalid.pages page' hpage).layout.one_le_columns (hgrid ▸ wide)
      -- the rectangle is clamped into the grid that the page is checked against
      have hfits := Rect.fits_clamped rect hcolumns
      rw [hgrid] at hfits hq ⊢
      exact (hq.withRect hfits).touch now

/-- So is a width. -/
theorem edited_resizePanelWidth (hgrid : o.gridDefaults = s.settings.grid)
    (wide : 1 ≤ s.settings.grid.columns) (id : String) (delta : Int) :
    s.Edited o now (s.resizePanelWidth now id delta).2 := by
  unfold resizePanelWidth
  split
  next => exact .unchanged
  next =>
    dsimp only
    split
    next => exact .unchanged
    next => exact edited_setPanelFrame hgrid wide id _

/-- A flag of a panel. -/
theorem edited_togglePanel (id : String) {toggle : Panel → Bool × Panel}
    (hid : ∀ p, (toggle p).2.id = p.id)
    (htoggle : ∀ p columns, p.WellFormed o.Accepts columns →
      (toggle p).2.WellFormed o.Accepts columns) :
    s.Edited o now (s.togglePanel now id toggle).2 := by
  unfold togglePanel
  split
  next => exact .unchanged
  next =>
    refine edited_of_onPanel hid fun w page p _ _ _ _ hp => ?_
    exact (htoggle p _ hp).touch now

end Session

end Dashboard
