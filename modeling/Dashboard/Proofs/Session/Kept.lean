/-
  Dashboard.Proofs.Session.Kept
  ─────────────────────────────
  **A SESSION AND ITS SLOTS.**

  `Kept` ties the documents of a session to the texts in its two slots: the
  committed slot holds the committed document, the draft's slot holds the
  draft, or nothing where the draft is the committed document.  Everything
  that could become the draft again, each snapshot of the history included, is
  well formed and was changed no earlier than the committed document.

  A session changes its documents in five ways only, and each of them keeps
  this: nothing at all, a new draft written to its slot, a commit, a
  cancellation, and opening anew.  Opening gives the same documents again.

  Main results:
    Kept.rebuild, Kept.flushed, Kept.committed, Kept.cancelled
    Kept.reopened — opening anew, with what it gives
-/
import Dashboard.Proofs.Storage.Slots
import Dashboard.Proofs.Time.Stamp
import Dashboard.Session

namespace Dashboard

open Grid Json Time

/-! ## §1. Periods. -/

/-- Changed at some clock reading of a period. -/
def Workspace.ChangedWithin (first last : Instant) (w : Workspace) : Prop :=
  ∃ t : Instant, first.millis ≤ t.millis ∧ t.millis ≤ last.millis ∧ w.updatedAt = t.stamp

theorem Workspace.ChangedWithin.later {first last later : Instant} {w : Workspace}
    (h : w.ChangedWithin first last) (hle : last.millis ≤ later.millis) :
    w.ChangedWithin first later := by
  obtain ⟨t, hfirst, hlast, ht⟩ := h
  exact ⟨t, hfirst, hlast.trans hle, ht⟩

/-- What was changed in a period is not before its beginning. -/
theorem Workspace.ChangedWithin.not_before {first last : Instant} {w : Workspace}
    (h : w.ChangedWithin first last) : Rfc3339.isBefore w.updatedAt first.stamp = false := by
  obtain ⟨t, hfirst, -, ht⟩ := h
  rw [ht]
  exact isBefore_stamp_of_le hfirst

/-! ## §2. The invariant. -/

/-- The options of a session's store. -/
def sessionOptions (registry : Registry) (settings : SessionSettings) : ValidationOptions :=
  (registry.validationOptions .safe).withGrid settings.grid

/-- The slots of a store are apart. -/
structure StorageKeys.Apart (keys : StorageKeys) : Prop where
  draft_committed : keys.draft ≠ keys.committed
  draft_preferences : keys.draft ≠ keys.preferences
  committed_preferences : keys.committed ≠ keys.preferences

/-- A document that may become the draft of a session whose committed document
was written at `since`. -/
structure Workspace.Drafted (o : ValidationOptions) (since now : Instant) (w : Workspace) :
    Prop where
  storable : w.Storable o
  changed : w.ChangedWithin since now

/-- The documents of a session, the committed one written at `since`. -/
structure Session.Documents (o : ValidationOptions) (since now : Instant) (s : Session)
    (c d : Workspace) : Prop where
  committed : s.committed = some c
  draft : s.draft = some d
  storable : c.Storable o
  changed : c.updatedAt = since.stamp
  drafted : d.Drafted o since now
  past : ∀ w ∈ s.history.past, w.Drafted o since now
  future : ∀ w ∈ s.history.future, w.Drafted o since now

/-- The two slots of a session's documents. -/
structure StorageKeys.Slots (keys : StorageKeys) (e : Keyed String) (c d : Workspace) :
    Prop where
  committed : e.get? keys.committed = some c.compactText
  draft : e.get? keys.draft = none ∧ d = c ∨ e.get? keys.draft = some d.compactText
  lossless : c.Lossless ∧ d.Lossless

/-- What the documents of a session and the entries of its store have to do
with each other. -/
inductive Session.Recorded (o : ValidationOptions) (keys : StorageKeys) (now : Instant)
    (s : Session) (e : Keyed String) : Prop
  /-- Neither documents nor slots. -/
  | nothing (committed : s.committed = none) (draft : s.draft = none)
      (noCommitted : e.get? keys.committed = none) (noDraft : e.get? keys.draft = none)
  /-- A committed document and a draft. -/
  | documents (c d : Workspace) (since : Instant) (past : since.millis ≤ now.millis)
      (documents : s.Documents o since now c d) (slots : keys.Slots e c d)

/-- A session that its store can give back. -/
structure Session.Kept (registry : Registry) (settings : SessionSettings) (keys : StorageKeys)
    (now : Instant) (s : Session) : Prop where
  sameRegistry : s.registry = registry
  sameSettings : s.settings = settings
  sameKeys : s.store.keys = keys
  options : s.store.options = sessionOptions registry settings
  recorded : ∃ e, s.store.backend.Holds e ∧
    s.Recorded (sessionOptions registry settings) keys now e

theorem Session.Documents.later {o : ValidationOptions} {since now now' : Instant} {s : Session}
    {c d : Workspace} (h : s.Documents o since now c d) (hle : now.millis ≤ now'.millis) :
    s.Documents o since now' c d where
  committed := h.committed
  draft := h.draft
  storable := h.storable
  changed := h.changed
  drafted := ⟨h.drafted.storable, h.drafted.changed.later hle⟩
  past := fun w hw => ⟨(h.past w hw).storable, (h.past w hw).changed.later hle⟩
  future := fun w hw => ⟨(h.future w hw).storable, (h.future w hw).changed.later hle⟩

namespace Session

variable {registry : Registry} {settings : SessionSettings} {keys : StorageKeys}
  {now now' : Instant} {s : Session}

theorem Recorded.later {o : ValidationOptions} {e : Keyed String} (h : s.Recorded o keys now e)
    (hle : now.millis ≤ now'.millis) : s.Recorded o keys now' e := by
  cases h with
  | nothing hc hd nc nd => exact .nothing hc hd nc nd
  | documents c d since past docs slots =>
      exact .documents c d since (past.trans hle) (docs.later hle) slots

theorem Kept.later (h : s.Kept registry settings keys now) (hle : now.millis ≤ now'.millis) :
    s.Kept registry settings keys now' := by
  obtain ⟨e, hold, hrec⟩ := h.recorded
  exact ⟨h.sameRegistry, h.sameSettings, h.sameKeys, h.options, e, hold, hrec.later hle⟩

/-! ## §3. Nothing changes. -/

/-- Only the store, the documents and the history count. -/
theorem Kept.rebuild (h : s.Kept registry settings keys now) {s' : Session}
    (hregistry : s'.registry = s.registry) (hsettings : s'.settings = s.settings)
    (hstore : s'.store = s.store) (hcommitted : s'.committed = s.committed)
    (hdraft : s'.draft = s.draft) (hhistory : s'.history = s.history) :
    s'.Kept registry settings keys now := by
  obtain ⟨e, hold, hrec⟩ := h.recorded
  refine ⟨hregistry.trans h.sameRegistry, hsettings.trans h.sameSettings, ?_, ?_, e, ?_, ?_⟩
  · rw [hstore, h.sameKeys]
  · rw [hstore, h.options]
  · rw [hstore]
    exact hold
  cases hrec with
  | nothing hc hd nc nd => exact .nothing (hcommitted.trans hc) (hdraft.trans hd) nc nd
  | documents c d since past docs slots =>
      refine .documents c d since past ?_ slots
      exact ⟨hcommitted.trans docs.committed, hdraft.trans docs.draft, docs.storable, docs.changed,
        docs.drafted, hhistory ▸ docs.past, hhistory ▸ docs.future⟩

/-- The stored filters have a slot of their own. -/
theorem Kept.setFilters (apart : keys.Apart) (h : s.Kept registry settings keys now)
    (f : Filters) : (s.setFilters f).2.Kept registry settings keys now := by
  obtain ⟨e, hold, hrec⟩ := h.recorded
  obtain ⟨b, hwrite, hholds⟩ := Store.write_spec hold s.store.keys.preferences f.toStored
  have hresult : (s.setFilters f).2
      = { s with filters := f, store := { s.store with backend := b } } := by
    rw [Session.setFilters, Store.savePreferences, hwrite]
  have hother : ∀ key, key ≠ keys.preferences →
      Keyed.get? key (e.insert s.store.keys.preferences f.toStored) = e.get? key := by
    intro key hkey
    rw [Keyed.get?_insert, h.sameKeys, if_neg (Ne.symm hkey)]
  rw [hresult]
  refine ⟨h.sameRegistry, h.sameSettings, h.sameKeys, h.options, _, hholds, ?_⟩
  cases hrec with
  | nothing hc hd nc nd =>
      refine .nothing hc hd ?_ ?_
      · rw [hother _ apart.committed_preferences, nc]
      · rw [hother _ apart.draft_preferences, nd]
  | documents c d since past docs slots =>
      refine .documents c d since past
        ⟨docs.committed, docs.draft, docs.storable, docs.changed, docs.drafted, docs.past,
          docs.future⟩ ⟨?_, ?_, slots.lossless⟩
      · rw [hother _ apart.committed_preferences, slots.committed]
      · rw [hother _ apart.draft_preferences]
        exact slots.draft

/-! ## §4. A new draft. -/

/-- A draft that is written to its slot. -/
theorem Kept.flushed (apart : keys.Apart) (h : s.Kept registry settings keys now)
    {since : Instant} {c d w : Workspace} {history : History Workspace}
    (past : since.millis ≤ now.millis)
    (docs : s.Documents (sessionOptions registry settings) since now c d)
    (hw : w.Drafted (sessionOptions registry settings) since now)
    (hpast : ∀ v ∈ history.past, v.Drafted (sessionOptions registry settings) since now)
    (hfuture : ∀ v ∈ history.future, v.Drafted (sessionOptions registry settings) since now)
    (lossless : w.Lossless) :
    ({ s with history, draft := some w } : Session).flushDraft.Kept registry settings keys now := by
  obtain ⟨e, hold, hrec⟩ := h.recorded
  obtain ⟨b, hwrite, hholds⟩ := Store.write_spec hold s.store.keys.draft w.compactText
  have hresult : ({ s with history, draft := some w } : Session).flushDraft
      = { s with history, draft := some w, store := { s.store with backend := b } } := by
    rw [flushDraft]
    dsimp only
    rw [Store.saveDraft, hwrite]
  rw [hresult]
  refine ⟨h.sameRegistry, h.sameSettings, h.sameKeys, h.options, _, hholds, ?_⟩
  cases hrec with
  | nothing hc hd nc nd =>
      rw [docs.committed] at hc
      cases hc
  | documents c' d' since' past' docs' slots =>
      -- of what was recorded only the committed slot is still needed
      have hc : c' = c := Option.some.inj (docs'.committed.symm.trans docs.committed)
      subst hc
      refine .documents c' w since past
        ⟨docs.committed, rfl, docs.storable, docs.changed, hw, hpast, hfuture⟩ ⟨?_, ?_, ?_⟩
      · rw [Keyed.get?_insert, h.sameKeys, if_neg apart.draft_committed, slots.committed]
      · right
        rw [Keyed.get?_insert, h.sameKeys, if_pos rfl]
      · exact ⟨slots.lossless.1, lossless⟩

/-! ## §5. Commit and cancel. -/

/-- The entries after a commit. -/
theorem slots_of_commit (apart : keys.Apart) {e : Keyed String} (sorted : e.Sorted)
    {w : Workspace} (lossless : w.Lossless) :
    keys.Slots ((e.insert keys.committed w.compactText).erase keys.draft) w w := by
  have hsorted := sorted.insert keys.committed w.compactText
  refine ⟨?_, Or.inl ⟨?_, rfl⟩, lossless, lossless⟩
  · rw [Keyed.get?_erase hsorted, if_neg apart.draft_committed, Keyed.get?_insert, if_pos rfl]
  · rw [Keyed.get?_erase hsorted, if_pos rfl]

/-- A document that is committed, whatever was there before. -/
theorem Kept.committed (apart : keys.Apart) (h : s.Kept registry settings keys now)
    {w : Workspace} (hw : w.ValidFor (sessionOptions registry settings)) {store : Store}
    {s' : Session}
    (hcommit : s.store.commit now w = (.ok (Store.committedForm now w), store))
    (hregistry : s'.registry = s.registry) (hsettings : s'.settings = s.settings)
    (hstore : s'.store = store) (hcommitted : s'.committed = some (Store.committedForm now w))
    (hdraft : s'.draft = some (Store.committedForm now w)) (hpast : s'.history.past = [])
    (hfuture : s'.history.future = []) (lossless : (Store.committedForm now w).Lossless) :
    s'.Kept registry settings keys now := by
  obtain ⟨e, hold, -⟩ := h.recorded
  obtain ⟨b, hspec, hholds⟩ := Store.commit_spec hold now w
  rw [hspec] at hcommit
  obtain rfl := (Prod.mk.inj hcommit).2
  have hform := hw.committedForm now
  -- the document is stamped at the moment it is written
  have hchanged : (Store.committedForm now w).ChangedWithin now now :=
    ⟨now, Int.le_refl _, Int.le_refl _, rfl⟩
  rw [h.sameKeys] at hholds
  refine ⟨hregistry.trans h.sameRegistry, hsettings.trans h.sameSettings, ?_, ?_,
    (e.insert keys.committed (Store.committedForm now w).compactText).erase keys.draft, ?_, ?_⟩
  · rw [hstore, ← h.sameKeys]
  · rw [hstore, ← h.options]
  · rw [hstore]
    exact hholds
  refine .documents _ _ now (Int.le_refl _)
    ⟨hcommitted, hdraft, hform, rfl, ⟨hform, hchanged⟩, ?_, ?_⟩ ?_
  · rw [hpast]
    exact nofun
  · rw [hfuture]
    exact nofun
  · exact slots_of_commit apart hold.sorted lossless

/-- Going back to the committed document. -/
theorem Kept.cancelled (apart : keys.Apart) (h : s.Kept registry settings keys now) :
    s.cancel.2.Kept registry settings keys now := by
  unfold cancel
  split
  next => exact h
  next hmode =>
    obtain ⟨e, hold, hrec⟩ := h.recorded
    obtain ⟨b, hclear, hholds⟩ := Store.clearDraft_spec hold
    rw [hclear]
    refine ⟨h.sameRegistry, h.sameSettings, h.sameKeys, h.options, _, hholds, ?_⟩
    have hgone : Keyed.get? keys.draft (e.erase s.store.keys.draft) = none := by
      rw [Keyed.get?_erase hold.sorted, h.sameKeys, if_pos rfl]
    have hstays : Keyed.get? keys.committed (e.erase s.store.keys.draft)
        = e.get? keys.committed := by
      rw [Keyed.get?_erase hold.sorted, h.sameKeys, if_neg apart.draft_committed]
    cases hrec with
    | nothing hc hd nc nd => exact .nothing hc hc (hstays.trans nc) hgone
    -- the history is empty afterwards, and the draft is the committed document
    | documents c d since past docs slots =>
        have hchanged : c.ChangedWithin since now := ⟨since, Int.le_refl _, past, docs.changed⟩
        refine .documents c c since past
          ⟨docs.committed, docs.committed, docs.storable, docs.changed, ⟨docs.storable, hchanged⟩,
            nofun, nofun⟩ ⟨hstays.trans slots.committed, Or.inl ⟨hgone, rfl⟩, ?_⟩
        exact ⟨slots.lossless.1, slots.lossless.1⟩

/-! ## §6. Opening. -/

/-- A session on what was loaded, before its filters are written. -/
def ofLoaded (registry : Registry) (settings : SessionSettings) (route : Route) (r : Reconciled)
    (loaded : Store) : Session where
  store := loaded
  registry := registry
  settings := settings
  committed := r.committed
  draft := r.workspace
  source := r.source
  mode := if r.committed.isNone && r.workspace.isSome then .edit else .view
  history := .empty settings.historyLimit
  activePageId := route.pageId.or ((r.committed.or r.workspace).map (·.defaultPageId))
  focus := route.focus
  filters := .none
  warnings := r.issues.map SlotIssue.message

/-- Opening loads the documents and then writes the filters. -/
theorem openAt_of_load {store loaded : Store} {r : Reconciled} {route : Route}
    (hload : ({ store with options := sessionOptions registry settings } : Store).load now
      = (r, loaded)) :
    openAt store registry settings route now
      = ((ofLoaded registry settings route r loaded).setFilters
          (loaded.loadPreferences.mergedWith route.filters)).2 := by
  have hload' : ({ store with
      options := (registry.validationOptions .safe).withGrid settings.grid } : Store).load now
      = (r, loaded) := hload
  rw [openAt, hload']
  rfl

/-- Opening reports what a slot reports. -/
theorem warnings_of_issues {store : Store} {key : String}
    (hkey : key = store.keys.committed ∨ key = store.keys.draft)
    (h : (({ store with options := sessionOptions registry settings } : Store).readSlot now
      key).issues ≠ []) (route : Route) :
    (openAt store registry settings route now).warnings ≠ [] := by
  have hprefix := Store.reconcile_issues { store with options := sessionOptions registry settings }
    (Store.loadCommitted { store with options := sessionOptions registry settings } now)
    (Store.loadDraft { store with options := sessionOptions registry settings } now)
  rw [openAt_of_load (Prod.mk.eta (p := ({ store with
    options := sessionOptions registry settings } : Store).load now)).symm]
  intro hnil
  -- without a warning there is no issue, and none of either slot
  have hissues := List.map_eq_nil_iff.mp hnil
  have hboth := List.append_eq_nil_iff.mp (List.prefix_nil.mp (hissues ▸ hprefix))
  rcases hkey with rfl | rfl
  · exact h hboth.1
  · exact h hboth.2

/-- What opening anew gives back of a session. -/
structure Restored (s s' : Session) : Prop where
  warnings : s'.warnings = []
  committed : s'.committed = s.committed
  draft : Option.Rel (fun d d' => d.sameContent d' = true) s.draft s'.draft

theorem kept_ofLoaded {loaded : Store} {e : Keyed String} {c d : Workspace} {since : Instant}
    {source : WorkspaceSource} {route : Route} (hkeys : loaded.keys = keys)
    (hoptions : loaded.options = sessionOptions registry settings)
    (hold : loaded.backend.Holds e) (past : since.millis ≤ now.millis)
    (hc : c.Storable (sessionOptions registry settings)) (hchanged : c.updatedAt = since.stamp)
    (hd : d.Drafted (sessionOptions registry settings) since now) (slots : keys.Slots e c d) :
    (ofLoaded registry settings route ⟨some d, some c, source, []⟩ loaded).Kept registry settings
      keys now :=
  ⟨rfl, rfl, hkeys, hoptions, e, hold,
    .documents c d since past ⟨rfl, rfl, hc, hchanged, hd, nofun, nofun⟩ slots⟩

/-- A load gives the documents of the session back. -/
def Reloads (registry : Registry) (settings : SessionSettings) (keys : StorageKeys)
    (now : Instant) (route : Route) (s : Session) : Prop :=
  ∃ r loaded, s.store.load now = (r, loaded) ∧
    s.Restored (ofLoaded registry settings route r loaded) ∧
    (ofLoaded registry settings route r loaded).Kept registry settings keys now

theorem Kept.reloads_nothing (h : s.Kept registry settings keys now) {e : Keyed String}
    (hold : s.store.backend.Holds e) (hc : s.committed = none) (hd : s.draft = none)
    (nc : e.get? keys.committed = none) (nd : e.get? keys.draft = none) (route : Route) :
    s.Reloads registry settings keys now route := by
  have nc' : e.get? s.store.keys.committed = none := h.sameKeys.symm ▸ nc
  have nd' : e.get? s.store.keys.draft = none := h.sameKeys.symm ▸ nd
  refine ⟨_, _, Store.load_of_absent hold nc' nd' now, ⟨rfl, hc.symm, ?_⟩,
    rfl, rfl, h.sameKeys, h.options, e, hold, .nothing rfl rfl nc nd⟩
  rw [hd]
  exact .none

section Documents

variable {e : Keyed String} {c d : Workspace} {since : Instant}
  (h : s.Kept registry settings keys now) (hold : s.store.backend.Holds e)
  (past : since.millis ≤ now.millis)
  (docs : s.Documents (sessionOptions registry settings) since now c d)

include h hold past docs

/-- The draft's slot is empty: the draft is the committed document. -/
theorem Kept.reloads_committed (slots : keys.Slots e c c) (hsame : d = c)
    (hd : e.get? keys.draft = none) (route : Route) :
    s.Reloads registry settings keys now route := by
  have hstorable : c.Storable s.store.options := h.options ▸ docs.storable
  have hc : e.get? s.store.keys.committed = some c.compactText := by
    rw [h.sameKeys, slots.committed]
  rw [← h.sameKeys] at hd
  have hload := Store.load_of_committed hold hc hstorable slots.lossless.1 hd now
  have hbase : c.Drafted (sessionOptions registry settings) since now :=
    ⟨docs.storable, since, Int.le_refl _, past, docs.changed⟩
  refine ⟨_, _, hload, ⟨rfl, docs.committed.symm, ?_⟩,
    kept_ofLoaded h.sameKeys h.options hold past docs.storable docs.changed hbase slots⟩
  rw [docs.draft, hsame]
  exact .some c.sameContent_refl

/-- The draft's slot holds the draft.  It is no older than the committed
document, so it is dropped only where it has the same content. -/
theorem Kept.reloads_draft (apart : keys.Apart) (slots : keys.Slots e c d)
    (hd : e.get? keys.draft = some d.compactText) (route : Route) :
    s.Reloads registry settings keys now route := by
  have hstorable : c.Storable s.store.options := h.options ▸ docs.storable
  have hstorable' : d.Storable s.store.options := h.options ▸ docs.drafted.storable
  have hc : e.get? s.store.keys.committed = some c.compactText := by
    rw [h.sameKeys, slots.committed]
  have hnot : Rfc3339.isBefore d.updatedAt c.updatedAt = false :=
    docs.changed ▸ docs.drafted.changed.not_before
  rw [← h.sameKeys] at hd
  have hload := Store.load_of_both hold hc hstorable slots.lossless.1 hd hstorable'
    slots.lossless.2 hnot now
  by_cases hsame : d.sameContent c = true
  · -- the draft is dropped, and its slot is cleared
    rw [if_pos hsame] at hload
    obtain ⟨b, hclear, hholds⟩ := Store.clearDraft_spec hold
    rw [hclear] at hload
    rw [h.sameKeys] at hholds
    have hbase : c.Drafted (sessionOptions registry settings) since now :=
      ⟨docs.storable, since, Int.le_refl _, past, docs.changed⟩
    have hslots : keys.Slots (e.erase keys.draft) c c := by
      refine ⟨?_, Or.inl ⟨?_, rfl⟩, slots.lossless.1, slots.lossless.1⟩
      · rw [Keyed.get?_erase hold.sorted, if_neg apart.draft_committed, slots.committed]
      · rw [Keyed.get?_erase hold.sorted, if_pos rfl]
    refine ⟨_, _, hload, ⟨rfl, docs.committed.symm, ?_⟩,
      kept_ofLoaded h.sameKeys h.options hholds past docs.storable docs.changed hbase hslots⟩
    rw [docs.draft]
    exact .some hsame
  · -- the draft is the working copy
    rw [if_neg hsame] at hload
    refine ⟨_, _, hload, ⟨rfl, docs.committed.symm, ?_⟩,
      kept_ofLoaded h.sameKeys h.options hold past docs.storable docs.changed docs.drafted slots⟩
    rw [docs.draft]
    exact .some d.sameContent_refl

end Documents

/-- **Opening anew gives the documents back**, and nothing to report. -/
theorem Kept.reopened (apart : keys.Apart) (h : s.Kept registry settings keys now)
    (route : Route) :
    s.Restored (openAt s.store registry settings route now) ∧
      (openAt s.store registry settings route now).Kept registry settings keys now := by
  obtain ⟨e, hold, hrec⟩ := h.recorded
  have hreloads : s.Reloads registry settings keys now route := by
    cases hrec with
    | nothing hc hd nc nd => exact h.reloads_nothing hold hc hd nc nd route
    | documents c d since past docs slots =>
        rcases slots.draft with ⟨hd, hsame⟩ | hd
        · subst hsame
          exact h.reloads_committed hold past docs slots rfl hd route
        · exact h.reloads_draft hold past docs apart slots hd route
  obtain ⟨r, loaded, hload, hrestored, hkept⟩ := hreloads
  have hstore : ({ s.store with options := sessionOptions registry settings } : Store) = s.store := by
    rw [← h.options]
  -- the filters that are written after the load are in a slot of their own
  rw [openAt_of_load (hstore.symm ▸ hload)]
  exact ⟨⟨hrestored.warnings, hrestored.committed, hrestored.draft⟩, hkept.setFilters apart _⟩

/-- Opening on empty slots. -/
theorem kept_openAt (store : Store) {e : Keyed String} (apart : store.keys.Apart)
    (hold : store.backend.Holds e) (hc : e.get? store.keys.committed = none)
    (hd : e.get? store.keys.draft = none) (route : Route) :
    (openAt store registry settings route now).Kept registry settings store.keys now := by
  have hempty : (ofLoaded registry settings route ⟨none, none, .empty, []⟩
      { store with options := sessionOptions registry settings }).Kept registry settings store.keys
        now :=
    ⟨rfl, rfl, rfl, rfl, e, hold, .nothing rfl rfl hc hd⟩
  exact (hempty.reopened apart route).2

end Session

end Dashboard
