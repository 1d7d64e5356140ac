/-
  Dashboard.Proofs.Document.RoundTrip
  ───────────────────────────────────
  **WHAT SURVIVES EXPORT AND IMPORT.**

  Strict validation and export are inverse to each other on the well-formed
  documents, and strict validation accepts no others.  A safe import gives a
  well-formed document as well, unless it had to put a panel without a usable
  frame on a grid of fewer than three columns: then strict validation refuses
  the export, and the next safe import clamps the panel.

  Main results:
    strict_inverts_export    — both directions of the first statement
    known_is_not_enough      — a known widget with a blank id
    safe_import_stable_iff   — the second statement, with its exception
    safe_import_can_overhang — a document the exception is about
-/
import Dashboard.Proofs.Document.Export
import Dashboard.Proofs.Document.Modes

namespace Dashboard

open Grid Json Time

/-! ## §1. A written document is roomy. -/

namespace Validation

theorem framed_encode (p : Panel) : framed (Keyed.ofList (presentFields p.fields)) = true := by
  have hframe : Keyed.get? "frame" (Keyed.ofList (presentFields p.fields))
      = some (.object (Keyed.ofList (presentFields p.frame.fields))) := p.get?_fields "frame"
  rw [framed_iff hframe]
  intro v hv
  have hgrid : Keyed.get? "grid" (Keyed.ofList (presentFields p.frame.fields))
      = p.frame.grid.map (·.encode .inKeyOrder) :=
    get?_record "grid" p.frame.fields (show ["grid", "freeform"].Nodup by decide)
  rw [hgrid] at hv
  obtain ⟨r, -, rfl⟩ := Option.map_eq_some_iff.mp hv
  exact Or.inr rfl

theorem layoutRoom_encode (o : ValidationOptions) (l : Layout) :
    LayoutRoom o (l.encode .inKeyOrder) := by
  have hpanels : itemsUnder "panels" (l.encode .inKeyOrder)
      = l.panels.map (·.encode .inKeyOrder) := by
    have look : (l.encode .inKeyOrder).get? "panels"
        = some (.list (l.panels.map (·.encode .inKeyOrder))) := l.get?_fields "panels"
    rw [itemsUnder, look]
    rfl
  rw [LayoutRoom, hpanels]
  intro v hv _
  obtain ⟨p, -, rfl⟩ := List.mem_map.mp hv
  exact Or.inr (framed_encode p)

/-- Every typed document has its frames written out, so it needs no repair. -/
theorem roomy_asValue (o : ValidationOptions) (w : Workspace) : Roomy o w.asValue := by
  have hpages : itemsUnder "pages" w.asValue = w.pages.map (·.encode .inKeyOrder) := by
    have look : w.asValue.get? "pages" = some (.list (w.pages.map (·.encode .inKeyOrder))) :=
      w.get?_fields "pages"
    rw [itemsUnder, look]
    rfl
  rw [Roomy, hpages]
  intro v hv layout hlayout
  obtain ⟨p, -, rfl⟩ := List.mem_map.mp hv
  have look : (p.encode .inKeyOrder).get? "layout" = some (p.layout.encode .inKeyOrder) :=
    p.get?_fields "layout"
  rw [look] at hlayout
  cases hlayout
  exact layoutRoom_encode o p.layout

end Validation

/-- In either mode, a document is read back unchanged exactly if it is well formed. -/
theorem validate_asValue_iff {o : ValidationOptions} {now : Instant} {w : Workspace}
    (wide : o.isSafe = true → 1 ≤ o.gridDefaults.columns) :
    validate o now w.asValue = .ok ⟨w, []⟩ ↔ w.ValidFor o := by
  constructor
  · intro h
    exact (validate_validFor_iff wide h).mpr (Validation.roomy_asValue o w)
  · exact validate_asValue o now

/-! ## §2. Strict validation. -/

theorem validFor_of_strict {o : ValidationOptions} {now : Instant} {v : Value} {r : Validated}
    (h : validate (o.inMode .strict) now v = .ok r) : r.workspace.ValidFor o :=
  (validate_validFor_iff (by simp) h).mpr (Validation.roomy_of_strict rfl v)

/-- Strict validation gives the document back, and has nothing to report. -/
def Workspace.StrictlyValid (o : ValidationOptions) (w : Workspace) : Prop :=
  ∀ now, validate (o.inMode .strict) now w.asValue = .ok ⟨w, []⟩

theorem Workspace.strictlyValid_iff {o : ValidationOptions} {w : Workspace} :
    w.StrictlyValid o ↔ w.ValidFor o := by
  constructor
  · intro h
    exact validFor_of_strict (h ⟨0⟩)
  · intro h now
    exact validate_asValue (o.inMode .strict) now h

/-- **Strict validation inverts export.**  It reads a typed document back
unchanged and without a warning exactly if the document is well formed, and
whatever it accepts is well formed, so that exporting the result and
validating again changes nothing. -/
theorem strict_inverts_export (o : ValidationOptions) :
    (∀ now w, validate (o.inMode .strict) now w.asValue = .ok ⟨w, []⟩ ↔
      w.WellFormed (fun id => Text.Filled id ∧ o.knows id = true) o.gridDefaults) ∧
    (∀ now later v r, validate (o.inMode .strict) now v = .ok r →
      r.workspace.WellFormed (fun id => Text.Filled id ∧ o.knows id = true) o.gridDefaults ∧
        r.warnings = [] ∧ validate (o.inMode .strict) later r.workspace.asValue = .ok r) := by
  constructor
  · intro now w
    exact validate_asValue_iff (by simp)
  · intro now later v r h
    have hvalid := validFor_of_strict h
    -- strict mode has nothing to repair, hence nothing to report
    have hsilent := (validate_safe_of_strict h).1
    refine ⟨hvalid, hsilent, ?_⟩
    rw [validate_asValue (o.inMode .strict) later hvalid, ← hsilent]

theorem strict_inverts_export_of_new_page :
    let o := ValidationOptions.ofMode .safe
    let w : Workspace := ⟨"desk", "Desk",
      [(Page.fresh "a" "A").withPanels [.fresh ⟨0⟩ "p" "quick-nav" ⟨8, 2, 4, 1⟩]], "a", "0", "0", 1⟩
    validate (o.inMode .strict) ⟨0⟩ w.asValue = .ok ⟨w, []⟩ ∧
      validate (o.inMode .strict) ⟨7⟩ w.asValue = .ok ⟨w, []⟩ := by
  intro o w
  have h := ((strict_inverts_export o).1 ⟨0⟩ w).mpr (by decide)
  exact ⟨h, ((strict_inverts_export o).2 ⟨0⟩ ⟨7⟩ w.asValue ⟨w, []⟩ h).2.2⟩

/-- It is not enough that a widget is known: a blank id may be known too, and
strict validation refuses the panel. -/
theorem known_is_not_enough :
    ¬ ∀ (o : ValidationOptions) (now : Instant) (w : Workspace),
      w.WellFormed (fun id => o.knows id = true) o.gridDefaults →
        validate (o.inMode .strict) now w.asValue = .ok ⟨w, []⟩ := by
  intro h
  have hread := h ((ValidationOptions.ofMode .strict).withWidgets [""]) ⟨0⟩
    ⟨"desk", "Desk", [(Page.fresh "a" "A").withPanels [.fresh ⟨0⟩ "p" "" ⟨0, 0, 3, 2⟩]],
      "a", "0", "0", 1⟩ (by decide)
  have hvalid := validFor_of_strict hread
  revert hvalid
  decide

/-! ## §3. Safe import. -/

/-- **A safe import is stable, with one exception.**  On a grid of at least one
column, the imported document is read back unchanged and without a warning, in
either mode, exactly if every panel arrived with a usable frame or stands on a
page of at least three columns. -/
theorem safe_import_stable_iff {o : ValidationOptions} {now : Instant} {v : Value}
    {r : Validated} (wide : 1 ≤ o.gridDefaults.columns)
    (h : validate (o.inMode .safe) now v = .ok r) (mode : ValidationMode) (later : Instant) :
    validate (o.inMode mode) later r.workspace.asValue = .ok ⟨r.workspace, []⟩ ↔
      ∀ page ∈ Validation.itemsUnder "pages" v, ∀ layout ∈ page.get? "layout",
        ∀ panel ∈ Validation.itemsUnder "panels" layout,
          3 ≤ Validation.columnsOf o layout ∨ Validation.isFramed panel = true := by
  rw [validate_asValue_iff (o := o.inMode mode) fun _ => wide]
  show r.workspace.ValidFor (o.inMode .safe) ↔ _
  rw [validate_validFor_iff (o := o.inMode .safe) (fun _ => wide) h]
  constructor
  · intro hroom page hpage layout hlayout panel hpanel
    exact hroom page hpage layout hlayout panel hpanel rfl
  · intro hroom page hpage layout hlayout panel hpanel _
    exact hroom page hpage layout hlayout panel hpanel

/-- The data of a document with a single panel, which has no frame. -/
def unframedDesk : Value :=
  .object [("id", .text "desk"), ("name", .text "Desk"), ("schemaVersion", .ofNat 1),
    ("pages", .list [.object [("id", .text "a"), ("layout", .object
      [("panels", .list [.object [("id", .text "p"), ("widgetId", .text "quick-nav")]])])]])]

theorem unframed_import_stable :
    let o := ValidationOptions.ofMode .safe
    ∃ r, validate (o.inMode .safe) ⟨0⟩ unframedDesk = .ok r ∧
      validate (o.inMode .strict) ⟨7⟩ r.workspace.asValue = .ok ⟨r.workspace, []⟩ := by
  intro o
  have hok : (validate (o.inMode .safe) ⟨0⟩ unframedDesk).toBool = true := by decide
  cases h : validate (o.inMode .safe) ⟨0⟩ unframedDesk with
  | error e => rw [h] at hok; cases hok
  | ok r => exact ⟨r, rfl, (safe_import_stable_iff (by decide) h .strict ⟨7⟩).mpr (by decide)⟩

/-- The exception is real: a panel without a frame is put over three columns
of a grid that has two, and then neither mode takes the document back as it is. -/
theorem safe_import_can_overhang :
    ∃ (o : ValidationOptions) (now : Instant) (v : Value) (r : Validated),
      1 ≤ o.gridDefaults.columns ∧ validate (o.inMode .safe) now v = .ok r ∧
        ∀ mode later, validate (o.inMode mode) later r.workspace.asValue
          ≠ .ok ⟨r.workspace, []⟩ := by
  have hok : (validate (((ValidationOptions.ofMode .safe).withGrid ⟨2, 80, 12⟩).inMode .safe) ⟨0⟩
      unframedDesk).toBool = true := by decide
  cases h : validate (((ValidationOptions.ofMode .safe).withGrid ⟨2, 80, 12⟩).inMode .safe) ⟨0⟩
    unframedDesk with
  | error e => rw [h] at hok; cases hok
  | ok r =>
      refine ⟨(ValidationOptions.ofMode .safe).withGrid ⟨2, 80, 12⟩, ⟨0⟩, unframedDesk, r,
        by decide, h, ?_⟩
      intro mode later hread
      -- read back unchanged it would be well formed, and the data would be roomy
      have hcolumns : (1 : UInt32) ≤ 2 := by decide
      have hvalid := (validate_asValue_iff fun _ => hcolumns).mp hread
      have hroomy := (validate_validFor_iff (fun _ => hcolumns) h).mp hvalid
      revert hroomy
      decide

end Dashboard
