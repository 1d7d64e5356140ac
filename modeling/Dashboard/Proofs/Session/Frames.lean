/-
  Dashboard.Proofs.Session.Frames
  ───────────────────────────────
  **FRAME WRITES DO WHAT THEY RETURN.**

  A frame is clamped into the grid and stored, unless it is stored already; a
  width is first held between one column and the columns right of the panel,
  in unbounded numbers, and then written as a frame.  A panel that fits its
  grid has a column right of its left edge, so the clamping that follows leaves
  the width as it is, and the width that is returned is the one stored.

  Main results:
    setPanelFrame_of_unlocked    — any frame, clamped and stored
    PanelAt.setPanelFrame        — a frame that fits is stored as it is
    toNat_grownWidth             — the width in unbounded numbers
    grownRect_grownRect          — one resize after another
    resizePanelWidth_of_unlocked — any resize
    PanelAt.resizes_add          — two resizes and one by the sum
    frame_writes_return_stored   — frames and widths together
-/
import Dashboard.Proofs.Document.RoundTrip
import Dashboard.Proofs.Grid.Cells
import Dashboard.Proofs.Session.Kept
import Dashboard.Proofs.Session.Shown

namespace Dashboard

open Grid Time

namespace Session

variable {s : Session} {id : String} {columns : UInt32} {r : Rect} {page : Page} {p : Panel}

/-! ## §1. The frame of a panel. -/

/-- The stored frame of a panel of the page that is shown. -/
def frame? (s : Session) (id : String) : Option Rect :=
  ((s.activePage?.bind (·.panel? id)).map (·.frame)).bind (·.grid)

/-- A panel that is edited and not locked, at a rectangle on a grid of so many
columns. -/
def PanelAt (s : Session) (id : String) (columns : UInt32) (r : Rect) : Prop :=
  ∃ page p, s.editedPage = .ok page ∧ page.panel? id = some p ∧ p.locked = false ∧
    p.frame.grid = some r ∧ (page.layout.specOr s.settings.grid).columns = columns

theorem unlockedPanel_eq_ok_iff : s.unlockedPanel id = .ok (page, p) ↔
    s.editedPage = .ok page ∧ page.panel? id = some p ∧ p.locked = false := by
  unfold unlockedPanel
  constructor
  · intro h
    split at h
    next => cases h
    next q hpage =>
      split at h
      next => cases h
      next t hp =>
        split at h
        next => cases h
        next hlocked =>
          cases h
          exact ⟨hpage, hp, by simpa using hlocked⟩
  · rintro ⟨hpage, hp, hlocked⟩
    rw [hpage]
    dsimp only
    rw [hp]
    dsimp only
    rw [hlocked, if_neg nofun]

theorem PanelAt.unlocked (h : s.PanelAt id columns r) :
    ∃ page p, s.unlockedPanel id = .ok (page, p) ∧ p.gridRect = r ∧ p.frame.grid = some r ∧
      (page.layout.specOr s.settings.grid).columns = columns := by
  obtain ⟨page, p, hpage, hp, hlocked, hr, hcolumns⟩ := h
  exact ⟨page, p, unlockedPanel_eq_ok_iff.mpr ⟨hpage, hp, hlocked⟩,
    by rw [Panel.gridRect, hr]; rfl, hr, hcolumns⟩

theorem PanelAt.frame? (h : s.PanelAt id columns r) : s.frame? id = some r := by
  obtain ⟨page, p, hpage, hp, -, hr, -⟩ := h
  rw [Session.frame?, (editedPage_eq_ok_iff_activePage?.mp hpage).2, Option.bind_some, hp]
  exact hr

theorem PanelAt.during (h : s.PanelAt id columns r) (faults : StorageFaults) :
    (s.during faults).PanelAt id columns r := h

/-! ## §2. Frames. -/

/-- **A frame is clamped and stored**, and the clamped one is returned. -/
theorem setPanelFrame_of_unlocked (h : s.unlockedPanel id = .ok (page, p)) (rect : Rect)
    (now : Instant) :
    ∃ s', s.setPanelFrame now id rect
        = (.ok (rect.clamped (page.layout.specOr s.settings.grid).columns), s') ∧
      s'.PanelAt id (page.layout.specOr s.settings.grid).columns
        (rect.clamped (page.layout.specOr s.settings.grid).columns) := by
  obtain ⟨hpage, hp, hlocked⟩ := unlockedPanel_eq_ok_iff.mp h
  unfold Session.setPanelFrame
  rw [h]
  dsimp only
  generalize rect.clamped (page.layout.specOr s.settings.grid).columns = r
  by_cases hsame : p.frame.grid = some r
  · rw [if_pos hsame]
    exact ⟨s, rfl, page, p, hpage, hp, hlocked, hsame, rfl⟩
  · rw [if_neg hsame]
    obtain ⟨before, after, s', -, hid, hbefore, hedit, hrepaneled⟩ :=
      editDraft_onPanel hpage hp (fun p => (r, (p.withRect r).touch now)) now
    refine ⟨s', hedit, _, (p.withRect r).touch now, hrepaneled.editedPage, ?_, hlocked, rfl, ?_⟩
    · exact find?_in_place hbefore (beq_iff_eq.mpr hid)
    · rw [hrepaneled.settings]
      rfl

/-- **A frame that fits is stored as it is**, and the panel is where it was. -/
theorem PanelAt.setPanelFrame (h : s.PanelAt id columns r) {r' : Rect}
    (hfits : r'.clamped columns = r') (now : Instant) :
    ∃ s', s.setPanelFrame now id r' = (.ok r', s') ∧ s'.PanelAt id columns r' := by
  obtain ⟨page, p, hunlocked, -, -, hcolumns⟩ := h.unlocked
  have hstored := setPanelFrame_of_unlocked hunlocked r' now
  rwa [hcolumns, hfits] at hstored

/-! ## §3. Widths. -/

/-- The rectangle with its width grown. -/
def grownRect (columns : UInt32) (r : Rect) (delta : Int) : Rect :=
  { r with w := grownWidth columns r delta }

/-- **The width in unbounded numbers**, held between one column and those right
of the left edge. -/
theorem toNat_grownWidth (hx : r.x.toNat < columns.toNat) (delta : Int) :
    ((grownWidth columns r delta).toNat : Int)
      = max 1 (min ((r.w.toNat : Int) + delta) (columns.toNat - r.x.toNat)) := by
  have hcolumns := columns.toNat_lt
  unfold grownWidth
  dsimp only
  rw [UInt32.toNat_ofNat_of_lt' (by show _ < 0x100000000; omega)]
  omega

theorem grownRect_endsWithin (hx : r.x.toNat < columns.toNat) (delta : Int) :
    (grownRect columns r delta).EndsWithin columns := by
  have hwidth := toNat_grownWidth hx delta
  show r.x.toNat + (grownWidth columns r delta).toNat ≤ columns.toNat
  omega

theorem grownRect_proper (hx : r.x.toNat < columns.toNat) (hr : r.Proper) (delta : Int) :
    (grownRect columns r delta).Proper := by
  have hwidth := toNat_grownWidth hx delta
  refine (Rect.proper_iff _).mpr ⟨?_, ((Rect.proper_iff r).mp hr).2⟩
  show 1 ≤ (grownWidth columns r delta).toNat
  omega

/-- A grown rectangle is left alone by clamping. -/
theorem clamped_grownRect (hx : r.x.toNat < columns.toNat) (hr : r.Proper) (delta : Int) :
    (grownRect columns r delta).clamped columns = grownRect columns r delta := by
  have hone : (1 : UInt32).toNat = 1 := rfl
  have hwide : 1 ≤ columns := by
    rw [UInt32.le_iff_toNat_le, hone]
    omega
  exact (Rect.clamped_eq_self_iff (grownRect_proper hx hr delta) hwide).mpr
    (grownRect_endsWithin hx delta)

/-- A width that is already held in its bounds is not changed by nothing. -/
theorem grownWidth_zero (hx : r.x.toNat < columns.toNat) (hr : r.Proper)
    (hends : r.EndsWithin columns) : grownWidth columns r 0 = r.w := by
  have hwidth := toNat_grownWidth hx 0
  have hw := ((Rect.proper_iff r).mp hr).1
  rw [Rect.EndsWithin] at hends
  apply UInt32.toNat_inj.mp
  omega

/-- **Resizes add up**, as long as the first of them is not held back. -/
theorem grownRect_grownRect {delta : Int} (hx : r.x.toNat < columns.toNat)
    (hfirst : 1 ≤ (r.w.toNat : Int) + delta)
    (hlast : (r.w.toNat : Int) + delta ≤ columns.toNat - r.x.toNat) (more : Int) :
    grownRect columns (grownRect columns r delta) more = grownRect columns r (delta + more) := by
  have hone := toNat_grownWidth hx delta
  have hboth := toNat_grownWidth hx (delta + more)
  have hnext : ((grownWidth columns (grownRect columns r delta) more).toNat : Int)
      = max 1 (min (((grownWidth columns r delta).toNat : Int) + more)
        (columns.toNat - r.x.toNat)) :=
    toNat_grownWidth (r := grownRect columns r delta) hx more
  refine Rect.eq_of_toNat rfl rfl ?_ rfl
  show (grownWidth columns (grownRect columns r delta) more).toNat
    = (grownWidth columns r (delta + more)).toNat
  omega

/-- **A resize stores the width that it returns**, and leaves the other three
numbers. -/
theorem resizePanelWidth_of_unlocked (h : s.unlockedPanel id = .ok (page, p))
    (hcolumns : (page.layout.specOr s.settings.grid).columns = columns)
    (hx : p.gridRect.x.toNat < columns.toNat) (hr : p.gridRect.Proper) (delta : Int)
    (now : Instant) :
    ∃ s', s.resizePanelWidth now id delta = (.ok (grownWidth columns p.gridRect delta), s') ∧
      s'.PanelAt id columns (grownRect columns p.gridRect delta) := by
  obtain ⟨hpage, hp, hlocked⟩ := unlockedPanel_eq_ok_iff.mp h
  unfold resizePanelWidth
  rw [h]
  dsimp only
  rw [hcolumns]
  split
  next hkept =>
    -- a frame of this width is stored already
    obtain ⟨hframed, hw⟩ := (Bool.and_eq_true _ _).mp hkept
    obtain ⟨r, hframe⟩ := Option.isSome_iff_exists.mp hframed
    have hrect : p.gridRect = r := by rw [Panel.gridRect, hframe]; rfl
    refine ⟨s, rfl, page, p, hpage, hp, hlocked, ?_, hcolumns⟩
    rw [hframe, grownRect, beq_iff_eq.mp hw, hrect]
  next =>
    obtain ⟨s', hset, hstored⟩ :=
      setPanelFrame_of_unlocked h (grownRect columns p.gridRect delta) now
    rw [hcolumns, clamped_grownRect hx hr] at hset hstored
    have hset' : s.setPanelFrame now id
        { p.gridRect with w := grownWidth columns p.gridRect delta } = _ := hset
    rw [hset']
    exact ⟨s', rfl, hstored⟩

/-- A resize that comes to the stored width changes nothing. -/
theorem PanelAt.resizePanelWidth_of_eq (h : s.PanelAt id columns r) {delta : Int}
    (hw : grownWidth columns r delta = r.w) (now : Instant) :
    s.resizePanelWidth now id delta = (.ok r.w, s) := by
  obtain ⟨page, p, hunlocked, hrect, hframe, hcolumns⟩ := h.unlocked
  unfold Session.resizePanelWidth
  rw [hunlocked]
  dsimp only
  rw [hcolumns, hrect, hw, hframe]
  exact if_pos (by simp)

/-- A resize of a panel with a frame. -/
theorem PanelAt.resizePanelWidth (h : s.PanelAt id columns r) (hx : r.x.toNat < columns.toNat)
    (hr : r.Proper) (delta : Int) (now : Instant) :
    ∃ s', s.resizePanelWidth now id delta = (.ok (grownWidth columns r delta), s') ∧
      s'.PanelAt id columns (grownRect columns r delta) := by
  obtain ⟨page, p, hunlocked, rfl, -, hcolumns⟩ := h.unlocked
  exact resizePanelWidth_of_unlocked hunlocked hcolumns hx hr delta now

/-- **Two resizes come to one by the sum**, as long as the first of them is not
held back. -/
theorem PanelAt.resizes_add {s' : Session} {delta : Int}
    (hgrown : s'.PanelAt id columns (grownRect columns p.gridRect delta))
    (h : s.unlockedPanel id = .ok (page, p))
    (hcolumns : (page.layout.specOr s.settings.grid).columns = columns)
    (hx : p.gridRect.x.toNat < columns.toNat) (hr : p.gridRect.Proper)
    (hfirst : 1 ≤ (p.gridRect.w.toNat : Int) + delta)
    (hlast : (p.gridRect.w.toNat : Int) + delta ≤ columns.toNat - p.gridRect.x.toNat)
    (more : Int) (later : Instant) :
    ∃ total s₁ s₂, s'.resizePanelWidth later id more = (.ok total, s₁) ∧
      s.resizePanelWidth later id (delta + more) = (.ok total, s₂) ∧
      s₁.frame? id = s₂.frame? id := by
  obtain ⟨s₁, hone, hstored₁⟩ :=
    hgrown.resizePanelWidth hx (grownRect_proper hx hr delta) more later
  obtain ⟨s₂, hboth, hstored₂⟩ :=
    resizePanelWidth_of_unlocked h hcolumns hx hr (delta + more) later
  have hsum := grownRect_grownRect hx hfirst hlast more
  have hwidth : grownWidth columns (grownRect columns p.gridRect delta) more
      = grownWidth columns p.gridRect (delta + more) := congrArg Rect.w hsum
  refine ⟨_, s₁, s₂, hone, ?_, ?_⟩
  · rw [hwidth]
    exact hboth
  · rw [hstored₁.frame?, hstored₂.frame?]
    exact congrArg some hsum

/-! ## §4. In a valid document. -/

/-- A panel of a valid document spans a cell and begins within the columns,
also where it has no frame of its own. -/
theorem begins_within {accepts : String → Prop} (hp : p.WellFormed accepts columns)
    (wide : 1 ≤ columns) (bounded : columns < maxCells) :
    p.gridRect.Proper ∧ p.gridRect.x.toNat < columns.toNat := by
  have hwide := (max_one wide).2
  cases hframe : p.frame.grid with
  | none =>
      have hrect : p.gridRect = Panel.standardRect := by rw [Panel.gridRect, hframe]; rfl
      rw [hrect]
      exact ⟨by decide, hwide⟩
  | some r =>
      have hrect : p.gridRect = r := by rw [Panel.gridRect, hframe]; rfl
      have hfits := hp.frame.fits r hframe
      obtain ⟨hw, -, hright⟩ := (Rect.fits_iff r columns).mp hfits
      rw [UInt32.lt_iff_toNat_lt, toNat_maxCells] at bounded
      rw [hrect]
      exact ⟨.of_fits hfits, by omega⟩

/-- **Frame writes do what they return.**  Take an unlocked panel of the page
shown, in a strictly valid draft, on a grid of at least one column and not the
widest.  Any rectangle is stored as a frame that fits, and the stored frame is
returned; a rectangle that spans a cell and ends within the columns is stored as
it is.  A resize by any number keeps the other three numbers, and stores and
returns the exact width held between one column and those right of the panel;
resizing by nothing changes nothing then, and a further resize comes to the sum
of both unless the first was held back. -/
theorem frame_writes_return_stored {w : Workspace} (editing : s.mode = .edit)
    (drafted : s.draft = some w)
    (valid : w.StrictlyValid (sessionOptions s.registry s.settings))
    (shown : s.activePage? = some page) (found : page.panel? id = some p)
    (unlocked : p.locked = false) (wide : 1 ≤ (page.layout.specOr s.settings.grid).columns)
    (bounded : (page.layout.specOr s.settings.grid).columns < maxCells) :
    let columns := (page.layout.specOr s.settings.grid).columns
    let start := p.gridRect
    (∀ now rect, ∃ r s', s.setPanelFrame now id rect = (.ok r, s') ∧ s'.frame? id = some r ∧
      r.fits columns = true ∧
      (rect.x.toNat + rect.w.toNat ≤ columns.toNat → 1 ≤ rect.w → 1 ≤ rect.h → r = rect)) ∧
    start.x.toNat < columns.toNat ∧
    ∀ now (delta : Int), ∃ width s', s.resizePanelWidth now id delta = (.ok width, s') ∧
      s'.frame? id = some { start with w := width } ∧
      (width.toNat : Int)
        = max 1 (min ((start.w.toNat : Int) + delta) (columns.toNat - start.x.toNat)) ∧
      (∀ later, s'.resizePanelWidth later id 0 = (.ok width, s')) ∧
      (1 ≤ (start.w.toNat : Int) + delta →
        (start.w.toNat : Int) + delta ≤ columns.toNat - start.x.toNat →
        ∀ later (more : Int), ∃ total s₁ s₂,
          s'.resizePanelWidth later id more = (.ok total, s₁) ∧
          s.resizePanelWidth later id (delta + more) = (.ok total, s₂) ∧
          s₁.frame? id = s₂.frame? id) := by
  intro columns start
  have hpage : s.editedPage = .ok page := editedPage_eq_ok_iff_activePage?.mpr ⟨editing, shown⟩
  have hunlocked : s.unlockedPanel id = .ok (page, p) :=
    unlockedPanel_eq_ok_iff.mpr ⟨hpage, found, unlocked⟩
  have hmem : page ∈ w.pages := by
    obtain ⟨v, -, hdraft, hshown⟩ := editedPage_eq_ok_iff.mp hpage
    cases drafted.symm.trans hdraft
    exact Workspace.mem_of_resolvePage? hshown
  have hpanel : p.WellFormed _ columns :=
    ((Workspace.strictlyValid_iff.mp valid).pages page hmem).layout.panels.each p
      (Page.mem_of_panel? found)
  obtain ⟨hproper, hx⟩ := begins_within hpanel wide bounded
  refine ⟨fun now rect => ?_, hx, fun now delta => ?_⟩
  · obtain ⟨s', hset, hstored⟩ := setPanelFrame_of_unlocked hunlocked rect now
    exact ⟨_, s', hset, hstored.frame?, Rect.fits_clamped rect wide,
      fun hends hw hh => (Rect.clamped_eq_self_iff ⟨hw, hh⟩ wide).mpr hends⟩
  · obtain ⟨s', hresize, hstored⟩ :=
      resizePanelWidth_of_unlocked hunlocked rfl hx hproper delta now
    refine ⟨_, s', hresize, hstored.frame?, toNat_grownWidth hx delta, fun later => ?_,
      fun hfirst hlast later more =>
        hstored.resizes_add hunlocked rfl hx hproper hfirst hlast more later⟩
    exact hstored.resizePanelWidth_of_eq (grownWidth_zero hx (grownRect_proper hx hproper delta)
      (grownRect_endsWithin hx delta)) later

/-- A page of two columns with a panel that has no frame. -/
def narrowPage : Page :=
  { id := "a", title := "A"
    layout :=
      { Layout.ofPanels [{ Panel.fresh ⟨0⟩ "p" "quick-nav" ⟨0, 0, 1, 1⟩ with frame := ⟨none, none⟩ }]
        with gridSpec := some ⟨2, 80, 12⟩ } }

/-- The panel counts as three columns wide, and resizing by nothing stores two. -/
theorem frameless_panel_written :
    let s := onPages [narrowPage]
    (∃ s', s.setPanelFrame ⟨1⟩ "p" ⟨1, 9, 1, 1⟩ = (.ok ⟨1, 9, 1, 1⟩, s') ∧
      s'.frame? "p" = some ⟨1, 9, 1, 1⟩) ∧
    ∃ s', s.resizePanelWidth ⟨2⟩ "p" 0 = (.ok 2, s') ∧ s'.frame? "p" = some ⟨0, 0, 2, 2⟩ ∧
      ∀ later, s'.resizePanelWidth later "p" 0 = (.ok 2, s') := by
  intro s
  have hvalid : (⟨"desk", "Desk", [narrowPage], "a", "0", "0", schemaVersion⟩ :
      Workspace).StrictlyValid (sessionOptions .builtin .standard) :=
    Workspace.strictlyValid_iff.mpr (by decide)
  have editing : s.mode = .edit := rfl
  have shown : s.activePage? = some narrowPage := rfl
  have found : narrowPage.panel? "p" = some _ := rfl
  obtain ⟨hset, -, hresize⟩ := frame_writes_return_stored editing rfl hvalid shown found rfl
    (by decide) (by decide)
  obtain ⟨r, s', hanswer, hstored, -, hsame⟩ := hset ⟨1⟩ ⟨1, 9, 1, 1⟩
  obtain rfl := hsame (by decide) (by decide) (by decide)
  obtain ⟨width, s₂, hanswer₂, hstored₂, hwidth, hagain, -⟩ := hresize ⟨2⟩ 0
  obtain rfl : width = 2 := by
    apply UInt32.toNat_inj.mp
    exact Int.ofNat.inj hwidth
  exact ⟨⟨s', hanswer, hstored⟩, s₂, hanswer₂, hstored₂, hagain⟩

end Session

end Dashboard
