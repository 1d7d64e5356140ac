/-
  Dashboard.Proofs.Session.Shown
  ──────────────────────────────
  **EDITS OF THE PAGE SHOWN.**

  Every operation on panels gives the page shown other panels.  This page is
  searched for twice, to be shown and to be edited, and both searches end at the
  first page of its id.  So an accepted edit exchanges the panels of the page
  where it stands, remembers the draft before, and the page is shown again.

  Main results:
    page?_of_resolvePage? — the page shown is the first one of its id
    resolvePage?_in_place — what takes its place is shown in its place
    Repaneled.editedPage, Repaneled.drafts — what an accepted edit leaves
    editPanels_of_ok, editDraft_onPanel — an edit that is accepted
    editPanels_eq_ok, editDraft_onPanel_eq_ok — what an accepted edit has done
-/
import Dashboard.Proofs.Session.Actions
import Dashboard.Widget.Builtin

namespace Dashboard

open Grid Time

/-! ## §1. In place of the first match. -/

/-- A search finds what stands in place of the first match. -/
theorem find?_in_place {α : Type} {test : α → Bool} {before after : List α} {a : α}
    (hbefore : ∀ x ∈ before, test x = false) (ha : test a = true) :
    (before ++ a :: after).find? test = some a := by
  refine List.find?_eq_some_iff_append.mpr ⟨ha, before, after, rfl, fun x hx => ?_⟩
  rw [hbefore x hx]
  rfl

/-- Where a search finds what it finds. -/
theorem place_of_find? {α : Type} {test : α → Bool} {l : List α} {a : α}
    (h : l.find? test = some a) :
    test a = true ∧ ∃ before after, l = before ++ a :: after ∧ ∀ x ∈ before, test x = false := by
  obtain ⟨ha, before, after, hl, hbefore⟩ := List.find?_eq_some_iff_append.mp h
  exact ⟨ha, before, after, hl, fun x hx => by simpa using hbefore x hx⟩

/-- An update of the first match is one of what stands there. -/
theorem Session.updateFirst_append {α β : Type} {test : α → Bool}
    {f : α → Except SessionError (β × α)} {missing : SessionError} {before after : List α}
    {a : α} (hbefore : ∀ x ∈ before, test x = false) (ha : test a = true) :
    updateFirst test f missing (before ++ a :: after)
      = (f a).map fun r => (r.1, before ++ r.2 :: after) := by
  induction before with
  | nil =>
      rw [List.nil_append, updateFirst, if_pos ha]
      rfl
  | cons x rest ih =>
      have hx : ¬test x = true := by
        rw [hbefore x List.mem_cons_self]
        exact Bool.false_ne_true
      rw [List.cons_append, updateFirst, if_neg hx,
        ih fun y hy => hbefore y (List.mem_cons_of_mem _ hy)]
      cases f a with
      | error e => rfl
      | ok r => rfl

namespace Workspace

variable {w : Workspace} {requested : Option String} {page page' : Page} {before after : List Page}

/-- The page that is shown is the first one of its id. -/
theorem page?_of_resolvePage? (h : w.resolvePage? requested = some page) :
    w.page? page.id = some page := by
  have hnamed : ∀ id, w.page? id = some page → w.page? page.id = some page := by
    intro id hid
    have hpage : page.id = id := by simpa using List.find?_some hid
    rw [hpage, hid]
  unfold resolvePage? defaultPage? at h
  rcases Option.or_eq_some_iff.mp h with hrequested | ⟨-, hdefault⟩
  · obtain ⟨id, -, hid⟩ := Option.bind_eq_some_iff.mp hrequested
    exact hnamed id hid
  · rcases Option.or_eq_some_iff.mp hdefault with hnamedDefault | ⟨-, hhead⟩
    · exact hnamed _ hnamedDefault
    · obtain ⟨rest, hrest⟩ := List.head?_eq_some_iff.mp hhead
      rw [page?, hrest]
      exact List.find?_cons_of_pos (by simp)

/-- A page that takes the place of the page shown is shown in its place. -/
theorem resolvePage?_in_place (hpages : w.pages = before ++ page :: after)
    (hbefore : ∀ q ∈ before, (q.id == page.id) = false) (hid : page'.id = page.id)
    (h : w.resolvePage? requested = some page) :
    ({ w with pages := before ++ page' :: after } : Workspace).resolvePage? requested
      = some page' := by
  generalize hw' : ({ w with pages := before ++ page' :: after } : Workspace) = w'
  have hown : w'.page? page.id = some page' := by
    subst hw'
    exact find?_in_place hbefore (by simp [hid])
  -- ids that name no page name none afterwards
  have hother : ∀ id, w.page? id = none → w'.page? id = none := by
    intro id hnone
    subst hw'
    rw [page?, hpages, List.find?_eq_none] at hnone
    rw [page?, List.find?_eq_none]
    intro q hq
    rcases List.mem_append.mp hq with hq | hq
    · exact hnone q (List.mem_append_left _ hq)
    · rcases List.mem_cons.mp hq with rfl | hq
      · rw [hid]
        exact hnone page (List.mem_append_right _ List.mem_cons_self)
      · exact hnone q (List.mem_append_right _ (List.mem_cons_of_mem _ hq))
  have hnamed : ∀ id, w.page? id = some page → w'.page? id = some page' := by
    intro id hfound
    have hpage : page.id = id := by simpa using List.find?_some hfound
    rw [← hpage, hown]
  have hdefaultId : w'.defaultPageId = w.defaultPageId := by
    subst hw'
    rfl
  unfold resolvePage? defaultPage? at h ⊢
  rw [hdefaultId]
  rcases Option.or_eq_some_iff.mp h with hrequested | ⟨hunknown, hdefault⟩
  · obtain ⟨id, hsome, hfound⟩ := Option.bind_eq_some_iff.mp hrequested
    rw [hsome, Option.bind_some, hnamed id hfound]
    rfl
  · have hnone : requested.bind w'.page? = none := by
      cases requested with
      | none => rfl
      | some id => exact hother id hunknown
    rw [hnone, Option.none_or]
    rcases Option.or_eq_some_iff.mp hdefault with hnamedDefault | ⟨hunnamed, hhead⟩
    · rw [hnamed _ hnamedDefault]
      rfl
    · -- the first page: nothing stands before it
      rw [hother _ hunnamed, Option.none_or]
      cases before with
      | nil =>
          subst hw'
          rfl
      | cons q more =>
          rw [hpages] at hhead
          cases hhead
          exact absurd (hbefore page List.mem_cons_self) (by simp)

end Workspace

/-! ## §2. The page that is edited. -/

/-- The document is the other one but for the panels of one page and the date of
its last change.  The page keeps its id, its title, its layout's kind and the
three specs of the layout. -/
structure Workspace.SameAround (page : Page) (panels : List Panel) (w' w : Workspace) : Prop where
  id : w'.id = w.id
  name : w'.name = w.name
  defaultPageId : w'.defaultPageId = w.defaultPageId
  createdAt : w'.createdAt = w.createdAt
  schemaVersion : w'.schemaVersion = w.schemaVersion
  pages : ∃ before after, w.pages = before ++ page :: after ∧
    w'.pages = before ++ page.withPanels panels :: after

namespace Session

variable {s s' : Session} {now : Instant} {page : Page} {panels : List Panel} {α : Type}

/-- The document and the page that are edited. -/
theorem editedPage_eq_ok_iff {page : Page} : s.editedPage = .ok page ↔
    ∃ w, s.mode = .edit ∧ s.draft = some w ∧ w.resolvePage? s.activePageId = some page := by
  constructor
  · intro h
    unfold editedPage at h
    split at h
    next => cases h
    next w hw =>
      split at h
      next => cases h
      next hpage =>
        cases h
        exact ⟨w, (editedDraft_eq_ok hw).1, (editedDraft_eq_ok hw).2, hpage⟩
  · rintro ⟨w, hmode, hdraft, hpage⟩
    rw [editedPage, editedDraft_of_draft hmode hdraft]
    dsimp only
    rw [hpage]

/-- In edit mode the page that is edited is the page shown. -/
theorem editedPage_eq_ok_iff_activePage? : s.editedPage = .ok page ↔
    s.mode = .edit ∧ s.activePage? = some page := by
  rw [editedPage_eq_ok_iff]
  constructor
  · rintro ⟨w, hmode, hdraft, hshown⟩
    refine ⟨hmode, ?_⟩
    rw [activePage?, workspace?, hmode, hdraft]
    exact hshown
  · rintro ⟨hmode, hactive⟩
    rw [activePage?, workspace?, hmode] at hactive
    obtain ⟨w, hdraft, hshown⟩ := Option.bind_eq_some_iff.mp hactive
    exact ⟨w, hmode, hdraft, hshown⟩

/-- **An accepted edit of the page shown**: it has other panels where it stands,
and the draft before is remembered. -/
inductive Repaneled (s : Session) (now : Instant) (page : Page) (panels : List Panel) :
    Session → Prop
  | edited (w : Workspace) (before after : List Page) (mode : s.mode = .edit)
      (draft : s.draft = some w) (shown : w.resolvePage? s.activePageId = some page)
      (pages : w.pages = before ++ page :: after)
      (first : ∀ q ∈ before, (q.id == page.id) = false) :
      Repaneled s now page panels ({ s with
        history := s.history.push w
        draft := some (({ w with pages := before ++ page.withPanels panels :: after } :
          Workspace).touch now) } : Session).flushDraft

/-- An accepted edit changes nothing but the draft and the history, and what the
write of the draft may change: the store's content and the warnings. -/
theorem Repaneled.written (h : s.Repaneled now page panels s') :
    ∃ w before after b warnings, s.mode = .edit ∧ s.draft = some w ∧
      w.resolvePage? s.activePageId = some page ∧ w.pages = before ++ page :: after ∧
      (∀ q ∈ before, (q.id == page.id) = false) ∧
      s' = { s with
        store := { s.store with backend := b }, warnings, history := s.history.push w
        draft := some (({ w with pages := before ++ page.withPanels panels :: after } :
          Workspace).touch now) } := by
  obtain ⟨w, before, after, hmode, hdraft, hshown, hpages, hfirst⟩ := h
  obtain ⟨b, warnings, hflush⟩ := flushDraft_backend ({ s with
    history := s.history.push w
    draft := some (({ w with pages := before ++ page.withPanels panels :: after } :
      Workspace).touch now) } : Session)
  exact ⟨w, before, after, b, warnings, hmode, hdraft, hshown, hpages, hfirst, hflush⟩

/-- The page that is edited next is the same one with its new panels. -/
theorem Repaneled.editedPage (h : s.Repaneled now page panels s') :
    s'.editedPage = .ok (page.withPanels panels) := by
  obtain ⟨w, before, after, b, warnings, hmode, -, hshown, hpages, hfirst, rfl⟩ := h.written
  -- neither the stamp nor the write changes what is shown
  have hid : (page.withPanels panels).id = page.id := rfl
  have hnext := Workspace.resolvePage?_in_place hpages hfirst hid hshown
  exact editedPage_eq_ok_iff.mpr ⟨_, hmode, rfl, hnext⟩

/-- The drafts before and after it, and the history. -/
theorem Repaneled.drafts (h : s.Repaneled now page panels s') :
    ∃ w w', s.draft = some w ∧ w.resolvePage? s.activePageId = some page ∧
      s'.draft = some w' ∧ Workspace.SameAround page panels w' w ∧ s'.history = s.history.push w := by
  obtain ⟨w, before, after, b, warnings, -, hdraft, hshown, hpages, -, rfl⟩ := h.written
  exact ⟨w, _, hdraft, hshown, rfl, ⟨rfl, rfl, rfl, rfl, rfl, before, after, hpages, rfl⟩, rfl⟩

/-- The settings stay as they are. -/
theorem Repaneled.settings (h : s.Repaneled now page panels s') : s'.settings = s.settings := by
  obtain ⟨w, before, after, b, warnings, -, -, -, -, -, rfl⟩ := h.written
  rfl

/-! ## §3. Edits of its panels. -/

/-- An edit of the panels of the page shown is refused by the edit itself, or
accepted. -/
theorem editDraft_onPanels (h : s.editedPage = .ok page) (now : Instant) :
    ∃ next : List Panel → Session, (∀ panels, s.Repaneled now page panels (next panels)) ∧
      ∀ {α : Type} (edit : Page → Except SessionError (α × List Panel)),
        s.editDraft now (onPanels page.id edit) = match edit page with
          | .error e => (.error e, s)
          | .ok (a, panels) => (.ok a, next panels) := by
  obtain ⟨w, hmode, hdraft, hshown⟩ := editedPage_eq_ok_iff.mp h
  obtain ⟨hown, before, after, hpages, hfirst⟩ :=
    place_of_find? (Workspace.page?_of_resolvePage? hshown)
  refine ⟨_, fun panels => .edited w before after hmode hdraft hshown hpages hfirst, ?_⟩
  intro α edit
  unfold editDraft onPanels
  rw [editedDraft_of_draft hmode hdraft]
  dsimp only
  rw [hpages, updateFirst_append hfirst hown]
  cases edit page with
  | error e => rfl
  | ok r => rfl

theorem editPanels_of_ok (h : s.editedPage = .ok page)
    {edit : Page → Except SessionError (α × List Panel)} {a : α}
    (hedit : edit page = .ok (a, panels)) (now : Instant) :
    ∃ s', s.editPanels now edit = (.ok a, s') ∧ s.Repaneled now page panels s' := by
  obtain ⟨next, hnext, hdone⟩ := editDraft_onPanels h now
  refine ⟨next panels, ?_, hnext panels⟩
  rw [editPanels, h]
  dsimp only
  rw [hdone, hedit]

/-- What an accepted edit of panels has done. -/
theorem editPanels_eq_ok {edit : Page → Except SessionError (α × List Panel)} {a : α}
    (h : s.editPanels now edit = (.ok a, s')) :
    ∃ page panels, s.editedPage = .ok page ∧ edit page = .ok (a, panels) ∧
      s.Repaneled now page panels s' := by
  unfold editPanels at h
  split at h
  next => cases h
  next page hpage =>
    obtain ⟨next, hnext, hdone⟩ := editDraft_onPanels hpage now
    rw [hdone] at h
    split at h
    next => cases h
    next b panels hedit =>
      cases h
      exact ⟨page, panels, hpage, hedit, hnext panels⟩

/-- An edit of one panel is an edit of the panels. -/
theorem onPanel_eq (pageId id : String) (f : Panel → α × Panel) :
    onPanel pageId id f = onPanels pageId fun page =>
      updateFirst (·.id == id) (fun p => .ok (f p)) (.panelNotFound id) page.layout.panels := rfl

/-- One panel of the page shown is changed where it stands. -/
theorem editDraft_onPanel (h : s.editedPage = .ok page) {id : String} {p : Panel}
    (hp : page.panel? id = some p) (f : Panel → α × Panel) (now : Instant) :
    ∃ before after s', page.layout.panels = before ++ p :: after ∧ p.id = id ∧
      (∀ q ∈ before, (q.id == id) = false) ∧
      s.editDraft now (onPanel page.id id f) = (.ok (f p).1, s') ∧
      s.Repaneled now page (before ++ (f p).2 :: after) s' := by
  obtain ⟨hown, before, after, hpanels, hbefore⟩ := place_of_find? hp
  obtain ⟨next, hnext, hdone⟩ := editDraft_onPanels h now
  refine ⟨before, after, next (before ++ (f p).2 :: after), hpanels, by simpa using hown, hbefore,
    ?_, hnext _⟩
  rw [onPanel_eq, hdone, hpanels, updateFirst_append hbefore hown]
  rfl

/-- What an accepted edit of one panel has done. -/
theorem editDraft_onPanel_eq_ok (h : s.editedPage = .ok page) {id : String}
    {f : Panel → α × Panel} {a : α} (hedit : s.editDraft now (onPanel page.id id f) = (.ok a, s')) :
    ∃ before p after, page.layout.panels = before ++ p :: after ∧ p.id = id ∧
      s.Repaneled now page (before ++ (f p).2 :: after) s' := by
  obtain ⟨next, hnext, hdone⟩ := editDraft_onPanels h now
  rw [onPanel_eq, hdone] at hedit
  split at hedit
  next => cases hedit
  next b panels hupdated =>
    cases hedit
    obtain ⟨before, p, p', after, hpanels, rfl, hown, hp⟩ := updateFirst_eq_ok hupdated
    have hp' : (f p).2 = p' := congrArg Prod.snd (Except.ok.inj hp)
    subst hp'
    exact ⟨before, p, after, hpanels, by simpa using hown, hnext _⟩

/-! ## §4. A desk. -/

/-- A session in memory that edits a document of these pages, the first of them
shown. -/
def onPages (pages : List Page) : Session :=
  { store := .ofBackend .inMemory, registry := .builtin, settings := .standard, committed := none
    draft := some ⟨"desk", "Desk", pages, "a", "0", "0", schemaVersion⟩
    source := .draft, mode := .edit, history := .empty standardHistoryLimit
    activePageId := none, focus := false, filters := .none, warnings := [] }

end Session

end Dashboard
