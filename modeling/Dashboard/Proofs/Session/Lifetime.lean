/-
  Dashboard.Proofs.Session.Lifetime
  ─────────────────────────────────
  **STORAGE AND SESSION NEVER DRIFT APART.**

  A lifetime begins on empty slots and goes on with operations and with
  openings anew, the clock never going back.  At each moment the session is
  one that its store can give back: an opening loses no edit and brings none
  back.

  Main results:
    Kept.perform       — what one operation preserves
    Lifetime.kept      — what a lifetime preserves
    reopening_restores — opening anew gives the documents back
-/
import Dashboard.Proofs.Document.Modes
import Dashboard.Proofs.Document.RoundTrip
import Dashboard.Proofs.History
import Dashboard.Proofs.Session.Actions
import Dashboard.Proofs.Session.Kept
import Dashboard.Proofs.Widget.Registry

namespace Dashboard

open Grid Json Time

/-! ## §1. Registries and templates. -/

/-- Validation knows the widgets of the registry. -/
theorem Registry.knows_of_get? {r : Registry} {id : String} {d : WidgetDefinition}
    (h : r.get? id = some d) (settings : SessionSettings) :
    (sessionOptions r settings).knows id = true := by
  have hid : id ∈ r.ids := List.mem_map.mpr ⟨(id, d), Keyed.mem_of_get? h, rfl⟩
  have hknown : id ∈ (sessionOptions r settings).knownWidgets := by
    show id ∈ if r.ids.contains placeholderWidget then r.ids else r.ids ++ [placeholderWidget]
    split
    · exact hid
    · exact List.mem_append_left _ hid
  simp [ValidationOptions.knows, hknown]

theorem Registry.named_ofList {ds : List WidgetDefinition}
    (h : ∀ d ∈ ds, d.isPickable = true → Text.Filled d.id) : (ofList ds).Named := by
  intro id d hget hpickable
  obtain ⟨hmem, hid⟩ := mem_of_get?_ofList hget
  exact ⟨hid, h d hmem hpickable⟩

/-- A document of a template is well formed. -/
theorem Template.validFor_of_instantiate {id : String} {t : Template} (ht : find? id = some t)
    {o : ValidationOptions} (wide : 1 ≤ o.gridDefaults.columns) {now : Instant} {v : Validated}
    (h : t.instantiate o now = .ok v) : v.workspace.ValidFor o := by
  have hcurrent : t.workspace.schemaVersion = schemaVersion := by
    have hall : ∀ t ∈ all, t.workspace.schemaVersion = schemaVersion := by decide
    exact hall t (List.mem_of_find?_eq_some ht)
  rw [instantiate, migrateAndValidate_of_ok (t.workspace.migrate_asValue now hcurrent)] at h
  cases hvalidate : validate o now t.workspace.asValue with
  | error e => rw [hvalidate] at h; cases h
  | ok r =>
      rw [hvalidate] at h
      cases h
      -- a template is written by a typed document, so its data is roomy
      have hr : r.workspace.ValidFor o :=
        (validate_validFor_iff (fun _ => wide) hvalidate).mpr (Validation.roomy_asValue o _)
      exact ⟨UInt32.le_refl _, hr.id, hr.name, hr.defaultPageId, hr.nonempty, hr.pages,
        hr.distinct, now.stamp_ne_empty, now.stamp_ne_empty⟩

/-- What strict validation accepts is well formed when it is imported. -/
theorem validFor_of_strict_parse {o : ValidationOptions} {now : Instant} {text : String}
    {v r : Validated} (hstrict : parseAndValidate (o.inMode .strict) now text = .ok v)
    (h : parseAndValidate (o.inMode .safe) now text = .ok r) : r.workspace.ValidFor o := by
  unfold parseAndValidate at hstrict h
  generalize readNormal text = read at hstrict h
  cases read with
  | none => cases h
  | some doc =>
      dsimp only at hstrict h
      cases hm : migrate now doc with
      | error e => rw [migrateAndValidate_of_error hm] at h; cases h
      | ok m =>
          rw [migrateAndValidate_of_ok hm] at hstrict h
          cases hdoc : validate (o.inMode .strict) now m.document with
          | error e => rw [hdoc] at hstrict; cases hstrict
          | ok w =>
              -- both modes give one and the same document
              rw [(validate_safe_of_strict hdoc).2] at h
              cases h
              exact (validFor_of_strict hdoc : w.workspace.ValidFor o)

/-! ## §2. One operation. -/

namespace Session

variable {registry : Registry} {settings : SessionSettings} {keys : StorageKeys}
  {now later : Instant} {s : Session}

/-- The documents of the session are read back from their texts. -/
structure Lossless (s : Session) : Prop where
  committed : ∀ w ∈ s.committed, w.Lossless
  draft : ∀ w ∈ s.draft, w.Lossless

/-- Storing the draft does not change it. -/
theorem flushDraft_draft (s : Session) : s.flushDraft.draft = s.draft := by
  unfold flushDraft
  split
  next => rfl
  next => split <;> rfl

/-- An edit keeps what was stored and what is shown together. -/
theorem Kept.edited (apart : keys.Apart) (h : s.Kept registry settings keys now) {s' : Session}
    (hedited : s.Edited (sessionOptions registry settings) now s') (lossless : s'.Lossless) :
    s'.Kept registry settings keys now := by
  cases hedited with
  | unchanged => exact h
  | edited before after editing valid version =>
      obtain ⟨e, -, hrec⟩ := h.recorded
      have hdraft := (editedDraft_eq_ok editing).2
      cases hrec with
      | nothing _ hd _ _ => rw [hd] at hdraft; cases hdraft
      | documents c d since past docs _ =>
          have hd : d = before := Option.some.inj (docs.draft.symm.trans hdraft)
          subst hd
          -- the edited draft is stamped now, and the old one goes to the history
          have hafter : after.Storable (sessionOptions registry settings) :=
            ⟨valid docs.drafted.storable.valid, version.trans docs.drafted.storable.current⟩
          refine h.flushed apart past docs
            ⟨hafter.touch now, now, past, Int.le_refl _, rfl⟩ ?_ nofun
            (lossless.draft _ (flushDraft_draft _))
          intro v hv
          rcases List.mem_cons.mp (List.mem_of_mem_take hv) with rfl | hv
          · exact docs.drafted
          · exact docs.past v hv

/-- A move along the history goes to one of its snapshots and leaves the
current document there. -/
theorem Kept.travelled (apart : keys.Apart) (h : s.Kept registry settings keys now)
    {move : History Workspace → Workspace → Option (Workspace × History Workspace)}
    (hmove : History.Exchanges move)
    (lossless : (s.travel move).2.Lossless) : (s.travel move).2.Kept registry settings keys now := by
  unfold travel at lossless ⊢
  split
  next => exact h
  next current hcurrent =>
    rw [hcurrent] at lossless
    dsimp only at lossless
    split
    next => exact h
    next w history hw =>
      rw [hw] at lossless
      obtain ⟨e, -, hrec⟩ := h.recorded
      have hdraft := (editedDraft_eq_ok hcurrent).2
      cases hrec with
      | nothing _ hd _ _ => rw [hd] at hdraft; cases hdraft
      | documents c d since past docs _ =>
          have hd : d = current := Option.some.inj (docs.draft.symm.trans hdraft)
          subst hd
          obtain ⟨hmem, hrest⟩ := hmove s.history d w history hw
          -- the current draft and every snapshot may become the draft
          have hsnapshot : ∀ v, v = d ∨ v ∈ s.history.past ∨ v ∈ s.history.future →
              v.Drafted (sessionOptions registry settings) since now := by
            rintro v (rfl | hv | hv)
            · exact docs.drafted
            · exact docs.past v hv
            · exact docs.future v hv
          refine h.flushed apart past docs (hsnapshot w (Or.inr hmem)) ?_ ?_
            (lossless.draft w (flushDraft_draft _))
          · exact fun v hv => hsnapshot v (hrest v (Or.inl hv))
          · exact fun v hv => hsnapshot v (hrest v (Or.inr hv))

/-- So does an undo. -/
theorem Kept.undone (apart : keys.Apart) (h : s.Kept registry settings keys now)
    (lossless : s.undo.2.Lossless) : s.undo.2.Kept registry settings keys now :=
  h.travelled apart History.exchanges_undo lossless

theorem Kept.redone (apart : keys.Apart) (h : s.Kept registry settings keys now)
    (lossless : s.redo.2.Lossless) : s.redo.2.Kept registry settings keys now :=
  h.travelled apart History.exchanges_redo lossless

/-- Applying commits the draft and empties its slot. -/
theorem Kept.applied (apart : keys.Apart) (h : s.Kept registry settings keys now)
    (lossless : (s.apply now).2.Lossless) : (s.apply now).2.Kept registry settings keys now := by
  unfold apply at lossless ⊢
  split
  next => exact h
  next draft hdraft =>
    obtain ⟨e, hold, hrec⟩ := h.recorded
    obtain ⟨b, hcommit, -⟩ := Store.commit_spec hold now draft
    rw [hdraft] at lossless
    dsimp only at lossless
    rw [hcommit] at lossless ⊢
    have hshown := (editedDraft_eq_ok hdraft).2
    cases hrec with
    | nothing _ hd _ _ => rw [hd] at hshown; cases hshown
    | documents c d since past docs _ =>
        have hd : d = draft := Option.some.inj (docs.draft.symm.trans hshown)
        subst hd
        exact h.committed apart docs.drafted.storable.valid hcommit rfl rfl rfl rfl rfl rfl rfl
          (lossless.committed _ rfl)

/-- A document that is installed is committed. -/
theorem Kept.installed (apart : keys.Apart) (h : s.Kept registry settings keys now)
    {v : Validated} (hv : v.workspace.ValidFor (sessionOptions registry settings))
    (lossless : (s.install now v).2.Lossless) :
    (s.install now v).2.Kept registry settings keys now := by
  obtain ⟨e, hold, -⟩ := h.recorded
  obtain ⟨b, hcommit, -⟩ := Store.commit_spec hold now v.workspace
  unfold install at lossless ⊢
  rw [hcommit] at lossless ⊢
  exact h.committed apart hv hcommit rfl rfl rfl rfl rfl rfl rfl (lossless.committed _ rfl)

/-- Beginning to edit stores nothing. -/
theorem Kept.begun (h : s.Kept registry settings keys now) :
    s.beginEdit.2.Kept registry settings keys now := by
  unfold beginEdit
  split
  next => exact h
  next w hw =>
    have hdraft : s.draft = some w := by
      obtain ⟨e, -, hrec⟩ := h.recorded
      cases hrec with
      | nothing hc hd _ _ => rw [hc, hd] at hw; cases hw
      | documents c d since past docs _ =>
          rw [docs.draft] at hw ⊢
          exact hw
    exact h.rebuild rfl rfl rfl rfl hdraft.symm rfl

/-- **What one operation preserves.** -/
theorem Kept.perform (apart : keys.Apart) (wide : 1 ≤ settings.grid.columns)
    (named : registry.Named) (h : s.Kept registry settings keys now) (a : Action)
    (admissible : a.Admissible s now) (lossless : (s.perform now a).Lossless) :
    (s.perform now a).Kept registry settings keys now := by
  have hgrid : (sessionOptions registry settings).gridDefaults = s.settings.grid := by
    rw [h.sameSettings]
    rfl
  have hwide : 1 ≤ s.settings.grid.columns := h.sameSettings.symm ▸ wide
  have hnamed : s.registry.Named := h.sameRegistry.symm ▸ named
  have hknows : ∀ id d, s.registry.get? id = some d →
      (sessionOptions registry settings).knows id = true := by
    intro id d hd
    rw [h.sameRegistry] at hd
    exact Registry.knows_of_get? hd settings
  cases a with
  | setActivePage id =>
      show (s.setActivePage id).2.Kept registry settings keys now
      unfold setActivePage
      split
      next => exact h
      next =>
        split
        next => exact h
        next => exact h.rebuild rfl rfl rfl rfl rfl rfl
  -- the documents, the store and the history are left as they are
  | setFocus focus => exact h.rebuild rfl rfl rfl rfl rfl rfl
  | setFilters filters => exact h.setFilters apart filters
  | takeWarnings => exact h.rebuild rfl rfl rfl rfl rfl rfl
  | beginEdit => exact h.begun
  | setMode mode =>
      cases mode with
      | view => exact h.rebuild rfl rfl rfl rfl rfl rfl
      | edit => exact h.begun
  | apply => exact h.applied apart lossless
  | cancel => exact h.cancelled apart
  | pickTemplate id =>
      have hpick : (s.pickTemplate now id).2.Lossless := lossless
      show (s.pickTemplate now id).2.Kept registry settings keys now
      unfold pickTemplate at hpick ⊢
      rw [h.options] at hpick ⊢
      split
      next => exact h
      next t ht =>
        rw [ht] at hpick
        dsimp only at hpick
        split
        next => exact h
        next v hv =>
          rw [hv] at hpick
          exact h.installed apart (Template.validFor_of_instantiate ht wide hv) hpick
  | importText text =>
      have himport : (s.importText now text).2.Lossless := lossless
      obtain ⟨strict, hstrict⟩ : ∃ v, parseAndValidate (s.store.options.inMode .strict) now text
        = .ok v := admissible
      show (s.importText now text).2.Kept registry settings keys now
      unfold importText at himport ⊢
      rw [h.options] at himport hstrict ⊢
      generalize hread : parseAndValidate (sessionOptions registry settings) now text = read
        at himport ⊢
      cases read with
      | error e => exact h
      | ok v => exact h.installed apart (validFor_of_strict_parse hstrict hread) himport
  -- the edits of panels
  | addWidgetPanel newId widgetId =>
      exact h.edited apart (edited_addWidgetPanel hgrid hwide hnamed hknows admissible widgetId)
        lossless
  | addPlaceholderPanel newId =>
      exact h.edited apart (edited_addPlaceholderPanel hgrid hwide admissible) lossless
  | removePanel id confirmed => exact h.edited apart (edited_removePanel id confirmed) lossless
  | duplicatePanel newId id =>
      exact h.edited apart (edited_duplicatePanel hgrid hwide admissible id) lossless
  | reorderPanels source target =>
      exact h.edited apart (edited_reorderPanels source target) lossless
  | setPanelFrame id rect =>
      exact h.edited apart (edited_setPanelFrame hgrid hwide id rect) lossless
  | applyFrameChange c =>
      exact h.edited apart (edited_setPanelFrame hgrid hwide c.panel c.rect) lossless
  | resizePanelWidth id delta =>
      exact h.edited apart (edited_resizePanelWidth hgrid hwide id delta) lossless
  | toggleLock id | togglePin id | toggleProtect id =>
      refine h.edited apart (edited_togglePanel id (fun _ => rfl) ?_) lossless
      exact fun p columns hp => ⟨hp.id, hp.widgetId, hp.frame, hp.createdAt, hp.updatedAt⟩
  -- the moves along the history
  | undo => exact h.undone apart lossless
  | redo => exact h.redone apart lossless

/-! ## §3. Lifetimes. -/

/-- The sessions that a store has seen, the last one at its latest operation:
opened on empty slots, then worked with and opened anew, the clock never going
back. -/
inductive Lifetime (registry : Registry) (settings : SessionSettings) (keys : StorageKeys) :
    Instant → Session → Prop
  | opened (store : Store) {e : Keyed String} (hkeys : store.keys = keys)
      (hold : store.backend.Holds e) (noCommitted : e.get? keys.committed = none)
      (noDraft : e.get? keys.draft = none) (route : Route) (now : Instant) :
      Lifetime registry settings keys now (openAt store registry settings route now)
  | acted {now later : Instant} {s : Session} (h : Lifetime registry settings keys now s)
      (hle : now.millis ≤ later.millis) (a : Action) (admissible : a.Admissible s later)
      (lossless : (s.perform later a).Lossless) :
      Lifetime registry settings keys later (s.perform later a)
  | reopened {now later : Instant} {s : Session} (h : Lifetime registry settings keys now s)
      (hle : now.millis ≤ later.millis) (route : Route) :
      Lifetime registry settings keys later (openAt s.store registry settings route later)

/-- **What a lifetime preserves.** -/
theorem Lifetime.kept (apart : keys.Apart) (wide : 1 ≤ settings.grid.columns)
    (named : registry.Named) (h : Lifetime registry settings keys now s) :
    s.Kept registry settings keys now := by
  induction h with
  | opened store hkeys hold hc hd route now =>
      subst hkeys
      exact kept_openAt store apart hold hc hd route
  | acted _ hle a admissible lossless ih =>
      exact (ih.later hle).perform apart wide named a admissible lossless
  | reopened _ hle route ih => exact ((ih.later hle).reopened apart route).2

/-- **Storage and session never drift apart.**  Take slots that are apart, a
grid with a column, a registry of definitions that can be picked under names,
and a store whose calls succeed and that only such sessions have written to.
Whatever the sessions did, opening anew at any later time has nothing to
report, and gives the committed document and the content of the draft. -/
theorem reopening_restores (apart : keys.Apart) (wide : 1 ≤ settings.grid.columns)
    (ds : List WidgetDefinition) (hregistry : registry = Registry.ofList ds)
    (filled : ∀ d ∈ ds, d.isPickable = true → Text.Filled d.id)
    (h : Lifetime registry settings keys now s) (hle : now.millis ≤ later.millis)
    (route : Route) : s.Restored (openAt s.store registry settings route later) := by
  have named : registry.Named := hregistry ▸ Registry.named_ofList filled
  exact (((h.kept apart wide named).later hle).reopened apart route).1

/-! ## §4. A lifetime, and the conditions. -/

/-- The documents of the session are plain. -/
def isPlain (s : Session) : Bool := s.committed.all (·.isPlain) && s.draft.all (·.isPlain)

theorem lossless_of_plain {s : Session} (h : s.isPlain = true) : s.Lossless := by
  obtain ⟨hc, hd⟩ := (Bool.and_eq_true _ _).mp h
  constructor
  · intro w hw
    rw [Option.mem_def.mp hw] at hc
    exact Workspace.lossless_of_plain hc
  · intro w hw
    rw [Option.mem_def.mp hw] at hd
    exact Workspace.lossless_of_plain hd

/-- A session on an empty memory. -/
def onMemory (registry : Registry) (settings : SessionSettings) (keys : StorageKeys) : Session :=
  openAt ⟨.inMemory, keys, .ofMode .safe⟩ registry settings .empty ⟨0⟩

/-- A session on an empty memory. -/
theorem lifetime_onMemory (registry : Registry) (settings : SessionSettings)
    (keys : StorageKeys) :
    Lifetime registry settings keys ⟨0⟩ (onMemory registry settings keys) := by
  have hold : Backend.inMemory.Holds [] := ⟨fun _ _ => rfl, rfl, List.Pairwise.nil⟩
  exact .opened ⟨.inMemory, keys, .ofMode .safe⟩ rfl hold rfl rfl .empty ⟨0⟩

/-- A desk made from a template. -/
def pickedDesk (registry : Registry) (settings : SessionSettings) : Session :=
  (onMemory registry settings .standard).perform ⟨0⟩ (.pickTemplate "execution")

/-- The same in edit mode. -/
def editedDesk (registry : Registry) (settings : SessionSettings) : Session :=
  (pickedDesk registry settings).perform ⟨0⟩ .beginEdit

/-- It picks a template. -/
theorem lifetime_pickedDesk {registry : Registry} {settings : SessionSettings}
    (plain : (pickedDesk registry settings).isPlain = true) :
    Lifetime registry settings .standard ⟨0⟩ (pickedDesk registry settings) :=
  (lifetime_onMemory registry settings .standard).acted (Int.le_refl 0) (.pickTemplate "execution")
    trivial (lossless_of_plain plain)

/-- It adds a panel. -/
theorem lifetime_editedDesk {registry : Registry} {settings : SessionSettings}
    (plain : (pickedDesk registry settings).isPlain = true ∧
      (editedDesk registry settings).isPlain = true) :
    Lifetime registry settings .standard ⟨0⟩ (editedDesk registry settings) :=
  (lifetime_pickedDesk plain.1).acted (Int.le_refl 0) .beginEdit trivial
    (lossless_of_plain plain.2)

/-- An empty slot is added to a desk; the desk is opened anew a second later. -/
theorem reopening_restores_placeholder :
    ((editedDesk .builtin .standard).perform ⟨1000⟩ (.addPlaceholderPanel "new")).Restored
      (openAt ((editedDesk .builtin .standard).perform ⟨1000⟩
        (.addPlaceholderPanel "new")).store .builtin .standard .empty ⟨2000⟩) := by
  -- one evaluation of the run for all that is asked of it
  obtain ⟨hplain, hunused, hadded⟩ :
      ((pickedDesk .builtin .standard).isPlain = true ∧
        (editedDesk .builtin .standard).isPlain = true) ∧
      (∀ w ∈ (editedDesk .builtin .standard).draft, ∀ page ∈ w.pages,
        "new" ∉ page.layout.panels.map (·.id)) ∧
      ((editedDesk .builtin .standard).perform ⟨1000⟩ (.addPlaceholderPanel "new")).isPlain
        = true := by
    decide +kernel
  have hlife : Lifetime .builtin .standard .standard ⟨1000⟩
      ((editedDesk .builtin .standard).perform ⟨1000⟩ (.addPlaceholderPanel "new")) :=
    (lifetime_editedDesk hplain).acted (by decide) (.addPlaceholderPanel "new")
      ⟨by decide, hunused⟩ (lossless_of_plain hadded)
  have apart : StorageKeys.standard.Apart := ⟨by decide, by decide, by decide⟩
  exact reopening_restores apart (by decide) WidgetDefinition.builtin rfl (by decide)
    hlife (by decide) .empty

/-- The slot of a key holds the document. -/
def Shows (s : Session) (key : String) (w : Workspace) : Prop :=
  ∃ e, s.store.backend.Holds e ∧ e.get? key = some w.compactText

/-- What is not read back quietly is reported. -/
theorem warnings_of_loud {key : String} {w : Workspace} (h : s.Shows key w)
    (hkey : key = s.store.keys.committed ∨ key = s.store.keys.draft) (lossless : w.Lossless)
    (loud : w.isQuiet (sessionOptions registry settings) now = false) (route : Route) :
    (openAt s.store registry settings route now).warnings ≠ [] := by
  obtain ⟨e, hold, hget⟩ := h
  refine warnings_of_issues hkey ?_ route
  exact Store.issues_of_loud (s := { s.store with options := sessionOptions registry settings })
    hold hget lossless loud

theorem beginEdit_store (s : Session) : s.beginEdit.2.store = s.store := by
  unfold beginEdit
  split <;> rfl

/-- A template that is picked is written to the committed slot. -/
theorem pickTemplate_shows {e : Keyed String} (hold : s.store.backend.Holds e)
    (hkeys : s.store.keys.draft ≠ s.store.keys.committed) (now : Instant) (id : String) :
    (s.pickTemplate now id).2 = s ∨ (s.pickTemplate now id).2.store.keys = s.store.keys ∧
      ∃ w, (s.pickTemplate now id).2.committed = some w ∧
        (s.pickTemplate now id).2.Shows s.store.keys.committed w := by
  unfold pickTemplate
  split
  next => exact Or.inl rfl
  split
  next => exact Or.inl rfl
  next v _ =>
    obtain ⟨b, hcommit, hholds⟩ := Store.commit_spec hold now v.workspace
    unfold install
    rw [hcommit]
    refine Or.inr ⟨rfl, _, rfl, _, hholds, ?_⟩
    rw [Keyed.get?_erase (hold.sorted.insert _ _), if_neg hkeys, Keyed.get?_insert, if_pos rfl]

/-- A draft with a new panel is written to its slot. -/
theorem addWidgetPanel_shows {e : Keyed String} (hold : s.store.backend.Holds e)
    (now : Instant) (newId widgetId : String) :
    (s.addWidgetPanel now newId widgetId).2 = s ∨
      (s.addWidgetPanel now newId widgetId).2.store.keys = s.store.keys ∧
        ∃ w, (s.addWidgetPanel now newId widgetId).2.draft = some w ∧
          (s.addWidgetPanel now newId widgetId).2.Shows s.store.keys.draft w := by
  unfold addWidgetPanel
  split
  next => exact Or.inl rfl
  split
  next => exact Or.inl rfl
  unfold editPanels
  split
  next => exact Or.inl rfl
  unfold editDraft
  split
  next => exact Or.inl rfl
  split
  next => exact Or.inl rfl
  next after _ =>
    obtain ⟨b, hwrite, hholds⟩ :=
      Store.write_spec hold s.store.keys.draft (after.touch now).compactText
    rw [flushDraft]
    dsimp only
    rw [Store.saveDraft, hwrite]
    exact Or.inr ⟨rfl, _, rfl, _, hholds, by rw [Keyed.get?_insert, if_pos rfl]⟩

/-- A registry with a widget that has no name. -/
def nameless : Registry := .ofList [{ WidgetDefinition.quickNav with id := "" }]

theorem pickedDesk_shows (registry : Registry) (settings : SessionSettings)
    (picked : (pickedDesk registry settings).committed.isSome = true) :
    (pickedDesk registry settings).store.keys = .standard ∧
      ∃ w, (pickedDesk registry settings).committed = some w ∧
        (pickedDesk registry settings).Shows StorageKeys.standard.committed w := by
  have apart : StorageKeys.standard.Apart := ⟨by decide, by decide, by decide⟩
  have hold : Backend.inMemory.Holds [] := ⟨fun _ _ => rfl, rfl, List.Pairwise.nil⟩
  have hkept : (onMemory registry settings .standard).Kept registry settings .standard ⟨0⟩ :=
    kept_openAt ⟨.inMemory, .standard, .ofMode .safe⟩ apart hold rfl rfl .empty
  obtain ⟨e, hholds, -⟩ := hkept.recorded
  rcases pickTemplate_shows hholds (hkept.sameKeys ▸ apart.draft_committed) ⟨0⟩ "execution"
    with hsame | hshows
  · have hpicked : pickedDesk registry settings = onMemory registry settings .standard := hsame
    rw [hpicked] at picked
    cases picked
  · rw [hkept.sameKeys] at hshows
    exact hshows

/-- **Each condition counts.**  Opening anew has something to report where two
slots are one, where the grid has no column, and where a widget without a name
was placed. -/
theorem reopening_can_report :
    (∃ s, Lifetime .builtin .standard ⟨"draft", "slot", "slot"⟩ ⟨0⟩ s ∧
      (openAt s.store .builtin .standard .empty ⟨0⟩).warnings ≠ []) ∧
    (∃ s, Lifetime .builtin ⟨100, ⟨0, 80, 12⟩⟩ .standard ⟨0⟩ s ∧
      (openAt s.store .builtin ⟨100, ⟨0, 80, 12⟩⟩ .empty ⟨0⟩).warnings ≠ []) ∧
    (∃ s, Lifetime nameless .standard .standard ⟨0⟩ s ∧
      (openAt s.store nameless .standard .empty ⟨0⟩).warnings ≠ []) := by
  refine ⟨?_, ?_, ?_⟩
  · -- the filters are written over the empty committed slot
    exact ⟨_, lifetime_onMemory _ _ _, by decide +kernel⟩
  · -- the frames of the template are clamped into no column
    obtain ⟨hplain, hpicked, hloud⟩ : (pickedDesk .builtin ⟨100, ⟨0, 80, 12⟩⟩).isPlain = true ∧
        (pickedDesk .builtin ⟨100, ⟨0, 80, 12⟩⟩).committed.isSome = true ∧
        ∀ w ∈ (pickedDesk .builtin ⟨100, ⟨0, 80, 12⟩⟩).committed,
          w.isQuiet (sessionOptions .builtin ⟨100, ⟨0, 80, 12⟩⟩) ⟨0⟩ = false := by
      decide +kernel
    obtain ⟨hkeys, w, hw, hshows⟩ := pickedDesk_shows .builtin ⟨100, ⟨0, 80, 12⟩⟩ hpicked
    refine ⟨_, lifetime_pickedDesk hplain, warnings_of_loud hshows (Or.inl ?_) ?_ (hloud w hw)
      .empty⟩
    · rw [hkeys]
    · exact (lossless_of_plain hplain).committed w hw
  · -- the new panel has no widget
    obtain ⟨hplain, hpicked, hunused, hadded, hquiet, hloud⟩ :
        ((pickedDesk nameless .standard).isPlain = true ∧
          (editedDesk nameless .standard).isPlain = true) ∧
        (pickedDesk nameless .standard).committed.isSome = true ∧
        (∀ w ∈ (editedDesk nameless .standard).draft, ∀ page ∈ w.pages,
          "new" ∉ page.layout.panels.map (·.id)) ∧
        ((editedDesk nameless .standard).perform ⟨0⟩ (.addWidgetPanel "new" "")).isPlain = true ∧
        (∃ w ∈ (editedDesk nameless .standard).draft,
          w.isQuiet (sessionOptions nameless .standard) ⟨0⟩ = true) ∧
        ∀ w ∈ ((editedDesk nameless .standard).perform ⟨0⟩ (.addWidgetPanel "new" "")).draft,
          w.isQuiet (sessionOptions nameless .standard) ⟨0⟩ = false := by
      decide +kernel
    obtain ⟨hkeys, -, -, e, hold, -⟩ := pickedDesk_shows nameless .standard hpicked
    have hstore : (editedDesk nameless .standard).store = (pickedDesk nameless .standard).store :=
      beginEdit_store _
    rw [← hstore] at hkeys hold
    refine ⟨_, (lifetime_editedDesk hplain).acted (Int.le_refl 0) (.addWidgetPanel "new" "")
      ⟨by decide, hunused⟩ (lossless_of_plain hadded), ?_⟩
    rcases addWidgetPanel_shows hold ⟨0⟩ "new" "" with hsame | ⟨hkeys', w, hw, hshows⟩
    · -- the draft was quiet before, so the panel was added
      obtain ⟨w, hw, hq⟩ := hquiet
      have hunchanged : (editedDesk nameless .standard).perform ⟨0⟩ (.addWidgetPanel "new" "")
          = editedDesk nameless .standard := hsame
      rw [hunchanged] at hloud
      rw [hloud w hw] at hq
      cases hq
    · exact warnings_of_loud hshows (Or.inr (congrArg StorageKeys.draft hkeys').symm)
        ((lossless_of_plain hadded).draft w hw) (hloud w hw) .empty

end Session

end Dashboard
