/-
  Dashboard.Proofs.Session.Edits
  ──────────────────────────────
  **EDITS KEEP DOCUMENTS WELL FORMED.**

  Every edit of a session changes the panels of one page.  So a document stays
  well formed as soon as the panels of that page do: each in its grid, each id
  once.  The panels themselves are appended, dropped, reordered or changed in
  place, and each of the four has its lemma here.

  Main results:
    updateFirst_eq_ok        — what an update of the first match does
    onPanels_eq_ok           — the pages after an edit of panels
    WellFormed.withPanels    — a document after an edit of one page
    AllWellFormed.append, .eraseP, .perm, .update — the four edits of panels
-/
import Dashboard.Proofs.Document.WellFormed
import Dashboard.Proofs.Grid.Placement
import Dashboard.Session
import Mathlib.Data.List.Basic
import Mathlib.Data.List.Nodup
import Mathlib.Data.List.Perm.Basic

namespace Dashboard

open Grid Json Time

/-! ## §1. The first match. -/

namespace Session

/-- What an update of the first match does: one item is replaced, and the ones
before it do not pass the test. -/
theorem updateFirst_eq_ok {α β : Type} {test : α → Bool} {f : α → Except SessionError (β × α)}
    {missing : SessionError} {l l' : List α} {b : β}
    (h : updateFirst test f missing l = .ok (b, l')) :
    ∃ before a a' after, l = before ++ a :: after ∧ l' = before ++ a' :: after ∧
      test a = true ∧ f a = .ok (b, a') := by
  induction l generalizing l' with
  | nil => cases h
  | cons x rest ih =>
      rw [updateFirst] at h
      by_cases hx : test x = true
      · -- the head is the one that is replaced
        rw [if_pos hx] at h
        cases hf : f x with
        | error e => rw [hf] at h; cases h
        | ok r =>
            obtain ⟨c, a'⟩ := r
            rw [hf] at h
            cases h
            exact ⟨[], x, a', rest, rfl, rfl, hx, hf⟩
      · -- the head stays, and the update goes on behind it
        rw [if_neg hx] at h
        cases hrest : updateFirst test f missing rest with
        | error e => rw [hrest] at h; cases h
        | ok r =>
            obtain ⟨c, more⟩ := r
            rw [hrest] at h
            cases h
            obtain ⟨before, a, a', after, rfl, rfl, ha, hf⟩ := ih hrest
            exact ⟨x :: before, a, a', after, rfl, rfl, ha, hf⟩

/-- The pages after an edit of panels: one page, of the given id, has others. -/
theorem onPanels_eq_ok {α : Type} {pageId : String}
    {edit : Page → Except SessionError (α × List Panel)} {w w' : Workspace} {a : α}
    (h : onPanels pageId edit w = .ok (a, w')) :
    ∃ before page after panels, w.pages = before ++ page :: after ∧ page.id = pageId ∧
      edit page = .ok (a, panels) ∧
      w' = { w with pages := before ++ page.withPanels panels :: after } := by
  unfold onPanels at h
  generalize hup : updateFirst _ _ _ w.pages = updated at h
  cases updated with
  | error e => cases h
  | ok r =>
      obtain ⟨b, pages⟩ := r
      cases h
      obtain ⟨before, page, page', after, hpages, rfl, hid, hedit⟩ := updateFirst_eq_ok hup
      cases hpanels : edit page with
      | error e => rw [hpanels] at hedit; cases hedit
      | ok r =>
          obtain ⟨c, panels⟩ := r
          rw [hpanels] at hedit
          cases hedit
          exact ⟨before, page, after, panels, hpages, by simpa using hid, hpanels, rfl⟩

end Session

/-! ## §2. One page of a document. -/

variable {accepts : String → Prop} {standard : Spec} {columns : UInt32}

/-- The columns of a well-formed page are at least one. -/
theorem Layout.WellFormed.one_le_columns {l : Layout} (h : l.WellFormed accepts standard)
    (wide : 1 ≤ standard.columns) : 1 ≤ (l.specOr standard).columns := by
  unfold Layout.specOr
  cases hg : l.gridSpec with
  | none => exact wide
  | some g => exact (h.gridSpec g hg).columns

theorem Page.WellFormed.withPanels {p : Page} (h : p.WellFormed accepts standard)
    {panels : List Panel}
    (hpanels : Panel.AllWellFormed accepts (p.layout.specOr standard).columns panels) :
    (p.withPanels panels).WellFormed accepts standard :=
  ⟨h.id, h.title, h.layout.gridSpec, hpanels, h.layout.freeformSpec, h.layout.splitSpec⟩

/-- **A document stays well formed when the panels of a page do.** -/
theorem Workspace.WellFormed.withPanels {w : Workspace} (h : w.WellFormed accepts standard)
    {before after : List Page} {page : Page} (hw : w.pages = before ++ page :: after)
    {panels : List Panel}
    (hpanels : Panel.AllWellFormed accepts (page.layout.specOr standard).columns panels) :
    ({ w with pages := before ++ page.withPanels panels :: after } : Workspace).WellFormed accepts
      standard := by
  have hpage : page ∈ w.pages := by
    rw [hw]
    exact List.mem_append_right before List.mem_cons_self
  refine ⟨h.version, h.id, h.name, h.defaultPageId, by simp, ?_, ?_, h.createdAt, h.updatedAt⟩
  · intro p hp
    rcases List.mem_append.mp hp with hp | hp
    · exact h.pages p (by rw [hw]; exact List.mem_append_left _ hp)
    · rcases List.mem_cons.mp hp with rfl | hp
      · exact (h.pages page hpage).withPanels hpanels
      · exact h.pages p (by rw [hw]; exact List.mem_append_right before (List.mem_cons_of_mem _ hp))
  · -- the page keeps its id
    have hids := h.distinct
    rw [hw, List.map_append, List.map_cons] at hids
    rw [List.map_append, List.map_cons]
    exact hids

/-- Two pages of one id are one page. -/
theorem Workspace.WellFormed.page_unique {w : Workspace} (h : w.WellFormed accepts standard)
    {p q : Page} (hp : p ∈ w.pages) (hq : q ∈ w.pages) (hid : p.id = q.id) : p = q :=
  List.inj_on_of_nodup_map h.distinct hp hq hid

theorem Workspace.mem_of_page? {w : Workspace} {id : String} {p : Page}
    (h : w.page? id = some p) : p ∈ w.pages := List.mem_of_find?_eq_some h

/-- The page that is shown is one of the document's. -/
theorem Workspace.mem_of_resolvePage? {w : Workspace} {requested : Option String} {p : Page}
    (h : w.resolvePage? requested = some p) : p ∈ w.pages := by
  -- the default page is the one of its id, or else the first one
  have hdefault : ∀ q, w.defaultPage? = some q → q ∈ w.pages := by
    intro q hq
    unfold defaultPage? at hq
    cases hfound : w.page? w.defaultPageId with
    | some r =>
        rw [hfound] at hq
        cases hq
        exact mem_of_page? hfound
    | none =>
        rw [hfound] at hq
        exact List.mem_of_mem_head? hq
  unfold resolvePage? at h
  cases hfound : requested.bind w.page? with
  | none =>
      rw [hfound] at h
      exact hdefault p h
  | some r =>
      rw [hfound] at h
      cases h
      obtain ⟨id, -, hid⟩ := Option.bind_eq_some_iff.mp hfound
      exact mem_of_page? hid

/-- A panel that a page shows is one of its panels. -/
theorem Page.mem_of_panel? {page : Page} {id : String} {p : Panel}
    (h : page.panel? id = some p) : p ∈ page.layout.panels := List.mem_of_find?_eq_some h

/-! ## §3. Panels. -/

namespace Panel

theorem WellFormed.touch {p : Panel} (h : p.WellFormed accepts columns) (now : Instant) :
    (p.touch now).WellFormed accepts columns :=
  ⟨h.id, h.widgetId, h.frame, h.createdAt, now.stamp_ne_empty⟩

theorem WellFormed.withRect {p : Panel} (h : p.WellFormed accepts columns) {r : Rect}
    (hr : r.fits columns = true) : (p.withRect r).WellFormed accepts columns := by
  refine ⟨h.id, h.widgetId, ⟨?_, h.frame.freeform⟩, h.createdAt, h.updatedAt⟩
  intro r' hr'
  cases hr'
  exact hr

/-- A new panel is well formed where its rectangle fits. -/
theorem wellFormed_fresh {id widgetId : String} (hid : Text.Filled id)
    (hwidget : accepts widgetId) {r : Rect} (hr : r.fits columns = true) (now : Instant) :
    (fresh now id widgetId r).WellFormed accepts columns := by
  refine ⟨hid, hwidget, ⟨?_, nofun⟩, now.stamp_ne_empty, now.stamp_ne_empty⟩
  intro r' hr'
  cases hr'
  exact hr

namespace AllWellFormed

variable {panels : List Panel}

theorem append (h : AllWellFormed accepts columns panels) {p : Panel}
    (hp : p.WellFormed accepts columns) (hfresh : p.id ∉ panels.map (·.id)) :
    AllWellFormed accepts columns (panels ++ [p]) := by
  constructor
  · intro q hq
    rcases List.mem_append.mp hq with hq | hq
    · exact h.each q hq
    · rw [List.mem_singleton.mp hq]
      exact hp
  · rw [List.map_append, List.map_singleton]
    exact List.Nodup.append h.distinct (List.nodup_singleton _) (by simpa using hfresh)

theorem sublist (h : AllWellFormed accepts columns panels) {some : List Panel}
    (hs : some.Sublist panels) : AllWellFormed accepts columns some :=
  ⟨fun p hp => h.each p (hs.subset hp), h.distinct.sublist (hs.map _)⟩

theorem perm (h : AllWellFormed accepts columns panels) {others : List Panel}
    (hp : others.Perm panels) : AllWellFormed accepts columns others :=
  ⟨fun p hmem => h.each p (hp.subset hmem), (hp.map _).nodup_iff.mpr h.distinct⟩

/-- One panel in place of another of its id. -/
theorem update {before after : List Panel} {p q : Panel}
    (h : AllWellFormed accepts columns (before ++ p :: after)) (hid : q.id = p.id)
    (hq : q.WellFormed accepts columns) : AllWellFormed accepts columns (before ++ q :: after) := by
  constructor
  · intro r hr
    rcases List.mem_append.mp hr with hr | hr
    · exact h.each r (List.mem_append_left _ hr)
    · rcases List.mem_cons.mp hr with rfl | hr
      · exact hq
      · exact h.each r (List.mem_append_right before (List.mem_cons_of_mem _ hr))
  · have hids := h.distinct
    rw [List.map_append, List.map_cons] at hids ⊢
    rw [hid]
    exact hids

end AllWellFormed

end Panel

/-! ## §4. Reordering. -/

/-- Moving a panel only changes the order. -/
theorem Session.moveTo_perm {source target : String} {panels panels' : List Panel}
    (h : moveTo source target panels = .ok panels') : panels'.Perm panels := by
  unfold moveTo at h
  split at h
  next => cases h
  next start hstart =>
    dsimp only at h
    split at h
    next => cases h
    next place hplace =>
      cases h
      have hlt : start < panels.length := (List.findIdx?_eq_some_iff_findIdx_eq.mp hstart).1
      have hget : panels[start]?.toList = [panels[start]] := by
        rw [List.getElem?_eq_getElem hlt]
        rfl
      -- wherever the panel goes, the others stay in order
      generalize (if start ≤ place then place + 1 else place) = k
      rw [hget]
      have hmiddle : ((panels.eraseIdx start).take k ++ [panels[start]] ++
          (panels.eraseIdx start).drop k).Perm
          (panels[start] :: ((panels.eraseIdx start).take k ++ (panels.eraseIdx start).drop k)) := by
        rw [List.append_assoc]
        exact List.perm_middle
      rw [List.take_append_drop] at hmiddle
      exact hmiddle.trans (List.getElem_cons_eraseIdx_perm hlt)

end Dashboard
