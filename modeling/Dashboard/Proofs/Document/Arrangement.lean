/-
  Dashboard.Proofs.Document.Arrangement
  ─────────────────────────────────────
  **WHERE THE PANELS OF A VALID DOCUMENT ARE DRAWN.**

  Validation looks at the frames that a document has; drawing gives a place to
  the panels without one as well, the standard rectangle.  The two agree on the
  column count of a page, so that a frame is drawn where it stands and inside,
  and the standard rectangle lies inside from three columns on.

  Main results:
    fits_standardRect            — the grids that the standard rectangle fits
    laidOut_iff_fits             — one panel: drawn inside exactly if framed or wide
    arrangement_of_strict        — the page: where each panel is drawn, and when all are inside
    strict_page_can_overhang     — a valid page with a panel drawn past its columns
-/
import Mathlib.Data.List.Forall2
import Dashboard.Session
import Dashboard.Proofs.Document.RoundTrip

namespace Dashboard

open Grid Json Time

/-! ## §1. One panel. -/

theorem Panel.fits_standardRect (columns : UInt32) :
    Panel.standardRect.fits columns = true ↔ 3 ≤ columns := by
  have hthree : (3 : UInt32).toNat = 3 := by decide
  rw [Rect.fits_iff, UInt32.le_iff_toNat_le, hthree]
  constructor
  · rintro ⟨-, -, hright⟩
    exact hright
  · intro hcolumns
    exact ⟨by decide, by decide, hcolumns⟩

/-- The place of a panel: at its frame, which fits the columns, or without a
frame at the standard rectangle. -/
structure Panel.LaidOut (columns : UInt32) (p : Panel) (q : PanelPlacement) : Prop where
  panelId : q.panelId = p.id
  framed : ∀ r ∈ p.frame.grid, q.rect = r ∧ r.fits columns = true
  frameless : p.frame.grid = none → q.rect = Panel.standardRect

variable {columns : UInt32} {p : Panel} {panels : List Panel}

theorem Panel.laidOut_place {accepts : String → Prop} (h : p.WellFormed accepts columns)
    (m : Metrics) : p.LaidOut columns (p.place m) where
  panelId := rfl
  framed := by
    intro r hr
    have hrect : p.gridRect = r := by rw [Panel.gridRect, Option.mem_def.mp hr]; rfl
    exact ⟨hrect, h.frame.fits r hr⟩
  frameless := by
    intro hnone
    show p.gridRect = Panel.standardRect
    rw [Panel.gridRect, hnone]
    rfl

/-- A panel is drawn inside the grid exactly if it has a frame or the standard
rectangle fits. -/
theorem Panel.laidOut_iff_fits {q : PanelPlacement} (h : p.LaidOut columns q) :
    q.rect.fits columns = true ↔ 3 ≤ columns ∨ p.frame.grid.isSome = true := by
  cases hframe : p.frame.grid with
  | none => simp [h.frameless hframe, Panel.fits_standardRect]
  | some r =>
      obtain ⟨hrect, hfits⟩ := h.framed r hframe
      simp [hrect, hfits]

/-! ## §2. A page. -/

theorem Arrangement.forall₂_laidOut {accepts : String → Prop}
    (h : ∀ p ∈ panels, p.WellFormed accepts columns) (m : Metrics) :
    List.Forall₂ (Panel.LaidOut columns) panels (Arrangement.ofPanels m panels).placements := by
  show List.Forall₂ _ panels (panels.map (·.place m))
  rw [List.forall₂_map_right_iff, List.forall₂_same]
  exact fun p hp => Panel.laidOut_place (h p hp) m

/-- All panels are drawn inside exactly if each one is framed or the standard
rectangle fits. -/
theorem Arrangement.all_fit_iff {placements : List PanelPlacement}
    (h : List.Forall₂ (Panel.LaidOut columns) panels placements) :
    (∀ q ∈ placements, q.rect.fits columns = true) ↔
      3 ≤ columns ∨ ∀ p ∈ panels, p.frame.grid.isSome = true := by
  induction h with
  | nil => simp
  | cons hone _ ih =>
      rw [List.forall_mem_cons, List.forall_mem_cons, Panel.laidOut_iff_fits hone, ih]
      exact or_and_left.symm

/-- **A valid page is drawn at its frames.**  Take a document that strict
validation accepts, on any default grid, and draw one of its pages in any width
on the same defaults.  Each panel is drawn in its place, in document order: a
panel with a frame at that frame, which fits the columns of the page, and a
panel without one at the standard rectangle.  So all of the page is drawn
inside its columns exactly if there are three of them or every panel has a
frame. -/
theorem arrangement_of_strict {o : ValidationOptions} {now : Instant} {v : Value}
    {r : Validated} {page : Page} (accepted : validate (o.inMode .strict) now v = .ok r)
    (listed : page ∈ r.workspace.pages) (width : Float) :
    let spec := page.layout.specOr o.gridDefaults
    let placements := (Arrangement.ofPanels (.ofSpec spec width) page.layout.panels).placements
    List.Forall₂ (Panel.LaidOut spec.columns) page.layout.panels placements ∧
      ((∀ q ∈ placements, q.rect.fits spec.columns = true) ↔
        3 ≤ spec.columns ∨ ∀ p ∈ page.layout.panels, p.frame.grid.isSome = true) := by
  intro spec placements
  have hlayout := ((validFor_of_strict accepted).pages page listed).layout
  have hlaid : List.Forall₂ (Panel.LaidOut spec.columns) page.layout.panels placements :=
    Arrangement.forall₂_laidOut hlayout.panels.each _
  exact ⟨hlaid, Arrangement.all_fit_iff hlaid⟩

/-- A document with one page of two columns, and on it a panel with the given frame. -/
def narrowDesk (frame : Frame) : Workspace :=
  let page := Page.fresh "a" "A"
  let panel := { Panel.fresh ⟨0⟩ "p" "quick-nav" ⟨0, 0, 1, 1⟩ with frame }
  ⟨"desk", "Desk",
    [{ page with layout := { page.layout with gridSpec := some ⟨2, 80, 12⟩, panels := [panel] } }],
    "a", "0", "0", 1⟩

theorem narrow_page_drawn_inside :
    let o := ValidationOptions.ofMode .strict
    let w := narrowDesk ⟨some ⟨1, 0, 1, 1⟩, none⟩
    validate (o.inMode .strict) ⟨0⟩ w.asValue = .ok ⟨w, []⟩ ∧
      ∀ page ∈ w.pages, ∀ width,
        let spec := page.layout.specOr o.gridDefaults
        ∀ q ∈ (Arrangement.ofPanels (.ofSpec spec width) page.layout.panels).placements,
          q.rect.fits spec.columns = true := by
  intro o w
  have haccepted : validate (o.inMode .strict) ⟨0⟩ w.asValue = .ok ⟨w, []⟩ :=
    validate_asValue (o.inMode .strict) ⟨0⟩ (by decide)
  refine ⟨haccepted, fun page hpage width => ?_⟩
  have hframed : ∀ page ∈ w.pages, ∀ p ∈ page.layout.panels, p.frame.grid.isSome = true := by
    decide
  exact (arrangement_of_strict haccepted hpage width).2.mpr (Or.inr (hframed page hpage))

/-- A page of two columns is valid with a panel that has no frame, and the
panel is drawn over three. -/
theorem strict_page_can_overhang :
    ¬ ∀ (o : ValidationOptions) (now : Instant) (v : Value) (r : Validated),
      1 ≤ o.gridDefaults.columns → validate (o.inMode .strict) now v = .ok r →
        ∀ page ∈ r.workspace.pages, ∀ width,
          let spec := page.layout.specOr o.gridDefaults
          ∀ q ∈ (Arrangement.ofPanels (.ofSpec spec width) page.layout.panels).placements,
            q.rect.fits spec.columns = true := by
  intro hinside
  have haccepted : validate ((ValidationOptions.ofMode .strict).inMode .strict) ⟨0⟩
      (narrowDesk ⟨none, none⟩).asValue = .ok ⟨narrowDesk ⟨none, none⟩, []⟩ :=
    validate_asValue _ ⟨0⟩ (by decide)
  have hfits := hinside _ ⟨0⟩ _ _ (by decide) haccepted _ (List.mem_cons_self ..) 0 _
    (List.mem_cons_self ..)
  revert hfits
  decide

end Dashboard
