/-
  Dashboard.Proofs.Session.Spacing
  ────────────────────────────────
  **PLACING PANELS NEVER MAKES THEM OVERLAP.**

  A new panel goes to the first free place of its page, so it overlaps none of
  the panels there, framed or not; taking panels away, moving them in the list
  and turning flags over leaves all rectangles alone.  This is all that an
  operation other than a frame write may touch.  Undo and redo bring back drafts
  of the same run, so the invariant speaks of the snapshots as well.

  Main results:
    overlappingPairs_eq_nil_iff — no pair is listed where all stand apart
    spaced_withPanels           — what one operation preserves on a page
    Drafts.perform              — what one operation preserves in a session
    Placing.drafts              — what a run preserves
    placing_never_overlaps      — the pages and each panel that is added
-/
import Dashboard.Proofs.Grid.FirstFit
import Dashboard.Proofs.Session.Targets

namespace Dashboard

open Grid Time

/-! ## §1. Rectangles apart. -/

namespace Grid

/-- Rectangles that stand apart, each spanning a cell. -/
structure Apart (rects : List Rect) : Prop where
  proper : ∀ r ∈ rects, r.Proper
  pairs : rects.Pairwise fun a b => a.overlaps b = false

/-- No pair is listed exactly where no rectangle overlaps a later one. -/
theorem overlappingPairs_eq_nil_iff {rects : List Rect} :
    overlappingPairs rects = [] ↔ rects.Pairwise fun a b => a.overlaps b = false := by
  rw [List.eq_nil_iff_forall_not_mem, List.pairwise_iff_getElem]
  constructor
  · intro h i j hi hj hlt
    rw [Bool.eq_false_iff]
    intro hover
    exact h (i, j) (mem_overlappingPairsFrom_iff.mpr ⟨Nat.zero_le i, hlt, rects[i], rects[j],
      List.getElem?_eq_getElem hi, List.getElem?_eq_getElem hj, hover⟩)
  · rintro h ⟨i, j⟩ hmem
    obtain ⟨-, hlt, a, b, ha, hb, hover⟩ := mem_overlappingPairsFrom_iff.mp hmem
    obtain ⟨hi, rfl⟩ := List.getElem?_eq_some_iff.mp ha
    obtain ⟨hj, rfl⟩ := List.getElem?_eq_some_iff.mp hb
    exact absurd hover (Bool.eq_false_iff.mp (h i j hi hj hlt))

namespace Apart

variable {rects : List Rect}

/-- A rectangle in a place that is clear. -/
theorem append (h : Apart rects) {r : Rect} (hr : r.Proper) (hclear : Clear rects r) :
    Apart (rects ++ [r]) := by
  constructor
  · intro q hq
    rcases List.mem_append.mp hq with hq | hq
    · exact h.proper q hq
    · rw [List.mem_singleton.mp hq]
      exact hr
  · refine List.pairwise_append.mpr ⟨h.pairs, List.pairwise_singleton _ _, fun q hq u hu => ?_⟩
    rw [List.mem_singleton.mp hu]
    exact hclear q hq

theorem sublist (h : Apart rects) {some : List Rect} (hs : some.Sublist rects) : Apart some :=
  ⟨fun r hr => h.proper r (hs.subset hr), h.pairs.sublist hs⟩

/-- Overlap does not ask which of the two comes first. -/
theorem perm (h : Apart rects) {others : List Rect} (hp : others.Perm rects) : Apart others := by
  refine ⟨fun r hr => h.proper r (hp.subset hr), h.pairs.perm hp.symm ?_⟩
  intro a b hab
  rwa [Rect.overlaps_comm]

end Apart

end Grid

/-! ## §2. Pages. -/

/-- The rectangles that the panels of a page are laid out at. -/
def Page.rects (page : Page) : List Rect := page.layout.panels.map (·.gridRect)

/-- The columns of a page, where `standard` is the grid of pages without one. -/
def Page.columns (standard : Spec) (page : Page) : UInt32 := (page.layout.specOr standard).columns

/-- The panel was on a page of this id from the start, with this frame. -/
def Panel.StoodOn (origin : Workspace) (pageId : String) (p : Panel) : Prop :=
  ∃ first ∈ origin.pages, first.id = pageId ∧
    ∃ q ∈ first.layout.panels, q.id = p.id ∧ q.frame = p.frame

/-- A page whose panels stand apart, each of them inside the columns unless it
was there from the start. -/
structure Page.Spaced (standard : Spec) (origin : Workspace) (page : Page) : Prop where
  wide : 1 ≤ page.columns standard
  apart : Apart page.rects
  inside : ∀ p ∈ page.layout.panels,
    p.gridRect.fits (page.columns standard) = true ∨ p.StoodOn origin page.id

/-- A document of such pages. -/
def Workspace.Spaced (standard : Spec) (origin w : Workspace) : Prop :=
  ∀ page ∈ w.pages, page.Spaced standard origin

namespace Session

variable {s s' : Session} {now : Instant} {a : Action} {page : Page} {panels : List Panel}
  {standard : Spec} {origin : Workspace}

/-- A panel in the first free place lies inside the columns, and in the clear. -/
theorem placed_inside {p : Panel} {size : Size} {columns : UInt32} (wide : 1 ≤ columns)
    {existing : List Rect} (placed : p.frame.grid = some (findFreeSlot columns size existing)) :
    p.gridRect.fits columns = true ∧
      ((∀ r ∈ existing, r.Proper) → Clear existing p.gridRect) := by
  have hrect : p.gridRect = findFreeSlot columns size existing := by
    rw [Panel.gridRect, placed]
    rfl
  rw [hrect]
  exact ⟨fits_findFreeSlot wide size existing, fun proper => findFreeSlot_clear columns size proper⟩

/-- **What one operation preserves on a page**, if it writes no frame. -/
theorem spaced_withPanels (h : page.Spaced standard origin)
    (htouches : a.Touches standard now page panels) (unframed : a.framed? = none) :
    (page.withPanels panels).Spaced standard origin := by
  -- panels that were on the page stay inside, or where they were
  have hold : ∀ p p' : Panel, p ∈ page.layout.panels → p'.id = p.id → p'.frame = p.frame →
      p'.gridRect.fits (page.columns standard) = true ∨ p'.StoodOn origin page.id := by
    intro p p' hp hid hframe
    have hrect : p'.gridRect = p.gridRect := by rw [Panel.gridRect, hframe]; rfl
    rw [hrect, Panel.StoodOn, hid, hframe]
    exact h.inside p hp
  cases htouches with
  | appended adds p size id placed =>
      obtain ⟨hfits, hclear⟩ := placed_inside h.wide placed
      refine ⟨h.wide, ?_, fun q hq => ?_⟩
      · show Apart ((page.layout.panels ++ [p]).map (·.gridRect))
        rw [List.map_append, List.map_singleton]
        exact h.apart.append (.of_fits hfits) (hclear h.apart.proper)
      · rcases List.mem_append.mp hq with hq | hq
        · exact h.inside q hq
        · rw [List.mem_singleton.mp hq]
          exact Or.inl hfits
  | removed id confirmed before p after hpanels own agreed =>
      have hsublist := sublist_without hpanels
      exact ⟨h.wide, h.apart.sublist (hsublist.map _), fun q hq => h.inside q (hsublist.subset hq)⟩
  | moved source target i j p place own within =>
      have hperm := (moved_places place within).1
      exact ⟨h.wide, h.apart.perm (hperm.map _), fun q hq => h.inside q (hperm.subset hq)⟩
  | framed frames => rw [unframed] at frames; cases frames
  | @toggled _ id turn toggles before p after hpanels own =>
      obtain ⟨hid, hframe⟩ := Action.toggled?_keeps toggles p
      have hrect : ((turn p).touch now).gridRect = p.gridRect := by
        show (turn p).frame.grid.getD Panel.standardRect = p.gridRect
        rw [hframe]
        rfl
      have hrects : (page.withPanels (before ++ (turn p).touch now :: after)).rects = page.rects :=
        (map_in_place_iff hpanels).mpr hrect
      refine ⟨h.wide, hrects ▸ h.apart, fun q hq => ?_⟩
      rcases mem_in_place hpanels hq with rfl | hmem
      · exact hold p _ (hpanels ▸ List.mem_append_cons_self) hid hframe
      · exact h.inside q hmem

/-! ## §3. Sessions. -/

/-- An editing session with these settings whose draft and snapshots all have a
property. -/
structure Drafts (P : Workspace → Prop) (settings : SessionSettings) (s : Session) : Prop where
  settings : s.settings = settings
  mode : s.mode = .edit
  draft : ∃ w, s.draft = some w ∧ P w
  past : ∀ v ∈ s.history.past, P v
  future : ∀ v ∈ s.history.future, P v

section Drafts

variable {P : Workspace → Prop} {settings : SessionSettings}

/-- Neither the backend nor the page shown count. -/
theorem Drafts.same (h : s.Drafts P settings) (hsettings : s'.settings = s.settings)
    (hmode : s'.mode = s.mode) (hdraft : s'.draft = s.draft) (hhistory : s'.history = s.history) :
    s'.Drafts P settings := by
  refine ⟨hsettings.trans h.settings, hmode.trans h.mode, hdraft ▸ h.draft, ?_, ?_⟩
  · rw [hhistory]
    exact h.past
  · rw [hhistory]
    exact h.future

/-- An edit of the page shown: the new draft has to answer for itself. -/
theorem Drafts.repaneled (h : s.Drafts P settings) (hrepaneled : s.Repaneled now page panels s')
    (hedit : ∀ w w', P w → page ∈ w.pages → Workspace.SameAround page panels w' w → P w') :
    s'.Drafts P settings := by
  obtain ⟨w, w', hdraft, hshown, hdraft', haround, hhistory⟩ := hrepaneled.drafts
  obtain ⟨v, hv, hPv⟩ := h.draft
  cases hdraft.symm.trans hv
  have hmode := (editedPage_eq_ok_iff_activePage?.mp hrepaneled.editedPage).1
  refine ⟨hrepaneled.settings.trans h.settings, hmode,
    ⟨w', hdraft', hedit w w' hPv (Workspace.mem_of_resolvePage? hshown) haround⟩, ?_, ?_⟩
  · rw [hhistory]
    intro u hu
    rcases List.mem_cons.mp (List.mem_of_mem_take hu) with rfl | hu
    · exact hPv
    · exact h.past u hu
  · rw [hhistory]
    exact nofun

/-- A move along the history only brings back what was there. -/
theorem Drafts.travelled (h : s.Drafts P settings)
    {move : History Workspace → Workspace → Option (Workspace × History Workspace)}
    (hmove : History.Exchanges move) : (s.travel move).2.Drafts P settings := by
  unfold travel
  split
  next => exact h
  next current hcurrent =>
    split
    next => exact h
    next w history hw =>
      obtain ⟨hmem, hrest⟩ := hmove s.history current w history hw
      obtain ⟨v, hv, hPv⟩ := h.draft
      cases (editedDraft_eq_ok hcurrent).2.symm.trans hv
      have hsnapshot : ∀ u, u ∈ s.history.past ∨ u ∈ s.history.future → P u :=
        fun u hu => hu.elim (h.past u) (h.future u)
      have hkept : ∀ u, u ∈ history.past ∨ u ∈ history.future → P u := by
        intro u hu
        rcases hrest u hu with rfl | hold
        · exact hPv
        · exact hsnapshot u hold
      obtain ⟨b, warnings, hflush⟩ :=
        flushDraft_backend ({ s with draft := some w, history } : Session)
      rw [hflush]
      exact ⟨h.settings, h.mode, ⟨w, rfl, hsnapshot w hmem⟩, fun u hu => hkept u (Or.inl hu),
        fun u hu => hkept u (Or.inr hu)⟩

end Drafts

/-- The operation shows a page, goes along the history, or works on panels
without writing a frame. -/
def Action.places : Action → Bool
  | .setActivePage _ | .undo | .redo => true
  | a => a.editsPanels && a.framed?.isNone

/-- A document stays spaced if the panels of the page shown do. -/
theorem spaced_of_sameAround {w w' : Workspace} (h : Workspace.Spaced standard origin w)
    (hpage : (page.withPanels panels).Spaced standard origin)
    (haround : Workspace.SameAround page panels w' w) : Workspace.Spaced standard origin w' := by
  obtain ⟨before, after, hold, hnew⟩ := haround.pages
  intro q hq
  rw [hnew] at hq
  rcases mem_in_place hold hq with rfl | hmem
  · exact hpage
  · exact h q hmem

/-- **What one operation preserves in a session.** -/
theorem Drafts.perform {settings : SessionSettings}
    (h : s.Drafts (Workspace.Spaced settings.grid origin) settings) (places : a.places = true)
    (now : Instant) :
    (s.perform now a).Drafts (Workspace.Spaced settings.grid origin) settings := by
  by_cases hedits : a.editsPanels = true
  · have hunframed : a.framed? = none := by
      cases a <;> first | rfl | cases places
    cases hanswer : (s.attempt now a).1 with
    | error e =>
        -- what is refused changes nothing
        have hother : ∀ filters, a ≠ .setFilters filters := by
          rintro filters rfl
          cases hedits
        have hsame := (careful_attempt s now a hother e hanswer).unchanged
        rw [attempt_snd] at hsame
        rw [hsame]
        exact h
    | ok u =>
        obtain ⟨page, panels, hpage, htouches, ⟨hkept, -⟩ | ⟨hrepaneled, -⟩⟩ :=
          settled_of_accepted hedits hanswer
        · rw [hkept]
          exact h
        · rw [h.settings] at htouches
          exact h.repaneled hrepaneled fun w w' hw hmem haround =>
            spaced_of_sameAround hw (spaced_withPanels (hw page hmem) htouches hunframed) haround
  · cases a with
    | setActivePage id =>
        show (s.setActivePage id).2.Drafts _ settings
        unfold setActivePage
        split
        next => exact h
        next =>
          split
          next => exact h
          next => exact h.same rfl rfl rfl rfl
    | undo => exact h.travelled History.exchanges_undo
    | redo => exact h.travelled History.exchanges_redo
    | _ => first | exact absurd rfl hedits | cases places

/-! ## §4. Runs. -/

/-- A run of such operations, accepted or not, at any times.  Before each of them
the backend may have become any other one. -/
inductive Placing (s : Session) : Session → Prop
  | start : Placing s s
  | backend {s' : Session} (h : Placing s s') (b : Backend) :
      Placing s { s' with store := { s'.store with backend := b } }
  | acted {s' : Session} (h : Placing s s') (now : Instant) (a : Action)
      (places : a.places = true) : Placing s (s'.perform now a)

/-- **What a run preserves.** -/
theorem Placing.drafts {settings : SessionSettings} (hrun : s.Placing s')
    (h : s.Drafts (Workspace.Spaced settings.grid origin) settings) :
    s'.Drafts (Workspace.Spaced settings.grid origin) settings := by
  induction hrun with
  | start => exact h
  | backend _ b ih => exact ih.same rfl rfl rfl rfl
  | acted _ now a places ih => exact ih.perform places now

/-- An addition writes no frame and turns no flag over. -/
theorem Action.kind_of_newId? {newId : String} (adds : a.newId? = some newId) :
    a.framed? = none ∧ a.toggled? = none := by
  cases a <;> first | exact ⟨rfl, rfl⟩ | cases adds

/-- A panel that is added to a spaced draft comes last on the page shown, inside
its columns. -/
theorem Drafts.added {settings : SessionSettings}
    (h : s.Drafts (Workspace.Spaced settings.grid origin) settings) {newId : String}
    (adds : a.newId? = some newId) (accepted : (s.attempt now a).1 = .ok ()) :
    ∃ page p, s.activePage? = some page ∧
      (s.perform now a).activePage? = some (page.withPanels (page.layout.panels ++ [p])) ∧
      p.id = newId ∧ p.gridRect.fits (page.columns settings.grid) = true := by
  have hedits : a.editsPanels = true := by
    cases a <;> first | rfl | cases adds
  obtain ⟨page, panels, hpage, htouches, hdone⟩ := settled_of_accepted hedits accepted
  obtain ⟨w, hmode, hdraft, hshown⟩ := editedPage_eq_ok_iff.mp hpage
  obtain ⟨v, hv, hspaced⟩ := h.draft
  cases hdraft.symm.trans hv
  have hwide := (hspaced page (Workspace.mem_of_resolvePage? hshown)).wide
  rw [h.settings] at htouches
  obtain ⟨hunframed, huntoggled⟩ := Action.kind_of_newId? adds
  cases htouches with
  | @appended _ newId' adds' p size id placed =>
      cases adds.symm.trans adds'
      refine ⟨page, p, (editedPage_eq_ok_iff_activePage?.mp hpage).2, ?_, id,
        (placed_inside hwide placed).1⟩
      rcases hdone with ⟨-, hsame⟩ | ⟨hrepaneled, -⟩
      · -- one panel more is not the same
        have hlength := congrArg List.length hsame
        simp at hlength
      · exact (editedPage_eq_ok_iff_activePage?.mp hrepaneled.editedPage).2
  | removed => cases adds
  | moved => cases adds
  | framed frames => cases hunframed.symm.trans frames
  | toggled toggles => cases huntoggled.symm.trans toggles

/-- **Placing panels never makes them overlap.**  Take a session in edit mode with
an empty history and a draft whose pages have at least one column, whose panels
span a cell, and on whose pages no two panels overlap.  After any run of
additions, copies, removals, moves in the list, toggles, changes of the page
shown, undos and redos, whatever their arguments and whether or not they are
accepted, no two panels of a page of the draft overlap, and each panel lies
inside the columns of its page unless it stood there with this frame from the
start.  A panel that is added or copied next comes last on the page shown,
inside its columns. -/
theorem placing_never_overlaps {w : Workspace} (editing : s.mode = .edit)
    (drafted : s.draft = some w) (no_past : s.history.undoDepth = 0)
    (no_future : s.history.redoDepth = 0)
    (wide : ∀ page ∈ w.pages, 1 ≤ page.columns s.settings.grid)
    (proper : ∀ page ∈ w.pages, ∀ r ∈ page.rects, r.Proper)
    (apart : ∀ page ∈ w.pages, overlappingPairs page.rects = []) (run : s.Placing s') :
    (∃ w', s'.draft = some w' ∧ ∀ page ∈ w'.pages, overlappingPairs page.rects = [] ∧
      ∀ p ∈ page.layout.panels,
        p.gridRect.fits (page.columns s.settings.grid) = true ∨ p.StoodOn w page.id) ∧
    ∀ now a newId, a.newId? = some newId → (s'.attempt now a).1 = .ok () →
      ∃ page p, s'.activePage? = some page ∧
        (s'.perform now a).activePage? = some (page.withPanels (page.layout.panels ++ [p])) ∧
        p.id = newId ∧ p.gridRect.fits (page.columns s.settings.grid) = true := by
  have hspaced : Workspace.Spaced s.settings.grid w w := fun page hpage =>
    ⟨wide page hpage, ⟨proper page hpage, overlappingPairs_eq_nil_iff.mp (apart page hpage)⟩,
      fun p hp => Or.inr ⟨page, hpage, rfl, p, hp, rfl, rfl⟩⟩
  have hstart : s.Drafts (Workspace.Spaced s.settings.grid w) s.settings := by
    refine ⟨rfl, editing, ⟨w, drafted, hspaced⟩, ?_, ?_⟩
    · rw [List.length_eq_zero_iff.mp no_past]
      exact nofun
    · rw [List.length_eq_zero_iff.mp no_future]
      exact nofun
  have hend := run.drafts hstart
  refine ⟨?_, fun now a newId adds accepted => hend.added adds accepted⟩
  obtain ⟨w', hdraft, hspaced'⟩ := hend.draft
  exact ⟨w', hdraft, fun page hpage =>
    ⟨overlappingPairs_eq_nil_iff.mpr (hspaced' page hpage).apart.pairs, (hspaced' page hpage).inside⟩⟩

/-- A page of five columns, with a panel that has no frame and one beside it. -/
def crowdedPage : Page :=
  { id := "a", title := "A"
    layout :=
      { Layout.ofPanels
          [{ Panel.fresh ⟨0⟩ "p" "quick-nav" ⟨0, 0, 1, 1⟩ with frame := ⟨none, none⟩ },
            .fresh ⟨0⟩ "q" "quick-nav" ⟨3, 0, 2, 1⟩]
        with gridSpec := some ⟨5, 80, 12⟩ } }

/-- The panel without a frame is copied, the other one is removed, and comes back. -/
def crowdedDesk : Session :=
  (((onPages [crowdedPage]).perform ⟨1⟩ (.duplicatePanel "x" "p")).perform ⟨2⟩
    (.removePanel "q" true)).perform ⟨3⟩ .undo

/-- Nothing overlaps then, and the next panel lies inside the five columns. -/
theorem copies_stand_apart :
    (∃ w, crowdedDesk.draft = some w ∧ ∀ page ∈ w.pages, overlappingPairs page.rects = []) ∧
    (crowdedDesk.attempt ⟨4⟩ (.addPlaceholderPanel "y")).1 = .ok () ∧
    ∃ (page : Page) (p : Panel), (crowdedDesk.perform ⟨4⟩ (.addPlaceholderPanel "y")).activePage?
        = some (page.withPanels (page.layout.panels ++ [p])) ∧
      p.id = "y" ∧ p.gridRect.fits (page.columns .standard) = true := by
  have hrun : (onPages [crowdedPage]).Placing crowdedDesk :=
    ((Placing.start.acted ⟨1⟩ (.duplicatePanel "x" "p") rfl).acted ⟨2⟩ (.removePanel "q" true)
      rfl).acted ⟨3⟩ .undo rfl
  have haccepted : (crowdedDesk.attempt ⟨4⟩ (.addPlaceholderPanel "y")).1 = .ok () := rfl
  obtain ⟨⟨w, hdraft, hpages⟩, hnext⟩ := placing_never_overlaps
    (w := ⟨"desk", "Desk", [crowdedPage], "a", "0", "0", schemaVersion⟩) rfl rfl rfl rfl
    (by decide) (by decide) (by decide) hrun
  obtain ⟨page, p, -, hshown, hid, hfits⟩ := hnext ⟨4⟩ (.addPlaceholderPanel "y") "y" rfl haccepted
  exact ⟨⟨w, hdraft, fun page hpage => (hpages page hpage).1⟩, haccepted, page, p, hshown, hid,
    hfits⟩

end Session

end Dashboard
