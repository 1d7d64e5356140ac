/-
  Dashboard.Proofs.Document.Modes
  ───────────────────────────────
  **STRICT MODE IS A PART OF SAFE MODE.**

  The two modes differ only in what they do at a fault: strict mode ends the
  walk there.  A document that strict mode accepts therefore has no fault at
  all, is accepted without a warning, and safe mode accepts the same one
  without a warning too.

  Main results:
    within_panel, …     — one check each
    validate_safe_of_strict — the whole document
-/
import Dashboard.Proofs.Document.Soundness

namespace Dashboard

open Grid Json Time

namespace Validation

/-! ## §1. Fields. -/

variable (o : ValidationOptions) (now : Instant) (m : Members) (path : Path)

/-- What is no object is refused in either mode. -/
theorem within_object (v : Value) (what : String) :
    (object v path what).Within (object v path what) := by
  unfold object
  split
  · exact Check.Within.done _
  · exact Check.Within.fail _ _ _

/-- A missing text is refused in either mode. -/
theorem within_requiredText (key : String) :
    (requiredText m key path).Within (requiredText m key path) := by
  unfold requiredText
  split
  · exact Check.Within.done _
  · exact Check.Within.fail _ _ _

/-- Where a timestamp is missing or null, both modes take the clock; what is no
text ends strict mode. -/
theorem within_timestamp (key : String) :
    (timestamp (o.inMode .strict) now m key path).Within
      (timestamp (o.inMode .safe) now m key path) := by
  unfold timestamp
  split
  · exact Check.Within.done _
  · exact Check.Within.done _
  · split
    · exact Check.Within.done _
    · exact Check.Within.mend rfl _ _ _ _ _
  · exact Check.Within.mend rfl _ _ _ _ _

/-- A flag that is missing or null is off in either mode. -/
theorem within_flag (key : String) :
    (flag (o.inMode .strict) m key path).Within (flag (o.inMode .safe) m key path) := by
  unfold flag
  split
  · exact Check.Within.done _
  · exact Check.Within.done _
  · exact Check.Within.done _
  · exact Check.Within.mend rfl _ _ _ _ _

/-! ## §2. Panels. -/

/-- Strict mode reads a specification only if it is an object. -/
theorem within_spec (key : String) (standard : Members) :
    (spec (o.inMode .strict) m key path standard).Within
      (spec (o.inMode .safe) m key path standard) := by
  unfold spec
  split
  · exact Check.Within.done _
  · exact Check.Within.assume rfl _ _ _ _
  · exact Check.Within.assume rfl _ _ _ _
  · exact Check.Within.assume rfl _ _ _ _

/-- Strict mode reads a count of cells only if it is a 32-bit number. -/
theorem within_cell (key : String) (standard : UInt32) :
    (cell (o.inMode .strict) m key path standard).Within
      (cell (o.inMode .safe) m key path standard) := by
  unfold cell
  split
  · exact Check.Within.done _
  · exact Check.Within.mend rfl _ _ _ _ _

/-- Cell by cell; a rectangle that strict mode accepts fits, so it is not
clamped. -/
theorem within_rect (v : Value) (columns : UInt32) :
    (rect (o.inMode .strict) v path columns).Within (rect (o.inMode .safe) v path columns) := by
  unfold rect
  split
  · exact Check.Within.mend rfl _ _ _ _ _
  · refine Check.Within.bind (within_cell o _ path "x" _) fun x => ?_
    refine Check.Within.bind (within_cell o _ path "y" _) fun y => ?_
    refine Check.Within.bind (within_cell o _ path "w" _) fun w => ?_
    refine Check.Within.bind (within_cell o _ path "h" _) fun h => ?_
    dsimp only
    split
    · exact Check.Within.done _
    · exact Check.Within.fail _ _ _

theorem within_frameRect (columns : UInt32) :
    (frameRect (o.inMode .strict) m path columns).Within
      (frameRect (o.inMode .safe) m path columns) := by
  unfold frameRect
  split
  · exact Check.Within.done _
  · exact Check.Within.done _
  · exact Check.Within.bind (within_rect o _ _ columns) fun r => Check.Within.done _

/-- Strict mode accepts no panel without a frame. -/
theorem within_frame (columns : UInt32) :
    (frame (o.inMode .strict) m path columns).Within
      (frame (o.inMode .safe) m path columns) := by
  unfold frame
  dsimp only
  split
  · exact Check.Within.bind (within_frameRect o _ _ columns) fun g => Check.Within.done _
  · exact Check.Within.assume rfl _ _ _ _
  · exact Check.Within.assume rfl _ _ _ _
  · exact Check.Within.assume rfl _ _ _ _

/-- A widget that strict mode accepts is known, so it is not replaced. -/
theorem within_widget :
    (widget (o.inMode .strict) m path).Within (widget (o.inMode .safe) m path) := by
  unfold widget
  refine Check.Within.bind (within_requiredText m path "widgetId") fun id => ?_
  show Check.Within (if o.knows id then _ else _) (if o.knows id then _ else _)
  split
  · exact Check.Within.done _
  · exact Check.Within.mend rfl _ _ _ _ _

theorem within_panelTitle :
    (panelTitle (o.inMode .strict) m path).Within (panelTitle (o.inMode .safe) m path) := by
  unfold panelTitle
  split
  · exact Check.Within.done _
  · exact Check.Within.done _
  · exact Check.Within.done _
  · exact Check.Within.mend rfl _ _ _ _ _

/-- The fields in the order of the walk. -/
theorem within_panel (v : Value) (columns : UInt32) :
    (panel (o.inMode .strict) now v path columns).Within
      (panel (o.inMode .safe) now v path columns) := by
  unfold panel
  refine Check.Within.bind (within_object path v _) fun m => ?_
  refine Check.Within.bind (within_requiredText m path "id") fun id => ?_
  refine Check.Within.bind (within_widget o m path) fun widgetId => ?_
  refine Check.Within.bind (within_panelTitle o m path) fun title => ?_
  refine Check.Within.bind (within_spec o m path "dataSpec" _) fun dataSpec => ?_
  refine Check.Within.bind (within_spec o m path "viewSpec" _) fun viewSpec => ?_
  refine Check.Within.bind (within_frame o m path columns) fun frame => ?_
  refine Check.Within.bind (within_flag o m path "locked") fun locked => ?_
  refine Check.Within.bind (within_flag o m path "pinned") fun pinned => ?_
  refine Check.Within.bind (within_flag o m path "protected") fun guarded => ?_
  refine Check.Within.bind (within_timestamp o now m path "createdAt") fun createdAt => ?_
  refine Check.Within.bind (within_timestamp o now m path "updatedAt") fun updatedAt => ?_
  exact Check.Within.done _

/-- By induction on the panels; a repeated id is refused in either mode. -/
theorem within_panels (columns : UInt32) (items : List Value) (i : Nat) (seen : List String) :
    (panels (o.inMode .strict) now path columns i seen items).Within
      (panels (o.inMode .safe) now path columns i seen items) := by
  induction items generalizing i seen with
  | nil => exact Check.Within.done _
  | cons v rest ih =>
      unfold panels
      refine Check.Within.bind (within_panel o now _ v columns) fun p => ?_
      split
      · exact Check.Within.fail _ _ _
      · exact Check.Within.bind (ih _ _) fun ps => Check.Within.done _

/-! ## §3. Pages. -/

/-- A kind that strict mode accepts is one of the three. -/
theorem within_kind :
    (kind (o.inMode .strict) m path).Within (kind (o.inMode .safe) m path) := by
  unfold kind
  split
  · split
    · exact Check.Within.done _
    · exact Check.Within.mend rfl _ _ _ _ _
  · exact Check.Within.assume rfl _ _ _ _

/-- A grid that strict mode accepts is usable as it is. -/
theorem within_gridSpec :
    (Validation.gridSpec (o.inMode .strict) m path).Within
      (Validation.gridSpec (o.inMode .safe) m path) := by
  unfold Validation.gridSpec
  split
  · exact Check.Within.done _
  · split
    · exact Check.Within.done _
    · exact Check.Within.mend rfl _ _ _ _ _

/-- Strict mode accepts only a list of panels, be it empty. -/
theorem within_panelList (columns : UInt32) :
    (panelList (o.inMode .strict) now m path columns).Within
      (panelList (o.inMode .safe) now m path columns) := by
  unfold panelList
  dsimp only
  split
  · exact within_panels o now _ columns _ 0 []
  · exact Check.Within.assume rfl _ _ _ _
  · exact Check.Within.assume rfl _ _ _ _
  · exact Check.Within.fail _ _ _

/-- The grid comes before the panels, whose frames depend on its columns. -/
theorem within_layout (v : Value) :
    (layout (o.inMode .strict) now v path).Within (layout (o.inMode .safe) now v path) := by
  unfold layout
  refine Check.Within.bind (within_object path v _) fun m => ?_
  refine Check.Within.bind (within_kind o m path) fun kind => ?_
  refine Check.Within.bind (within_gridSpec o m path) fun gridSpec => ?_
  refine Check.Within.bind (within_panelList o now m path _) fun panels => ?_
  exact Check.Within.done _

theorem within_pageTitle (id : String) :
    (pageTitle (o.inMode .strict) m id path).Within (pageTitle (o.inMode .safe) m id path) := by
  unfold pageTitle
  split
  · exact Check.Within.done _
  · exact Check.Within.mend rfl _ _ _ _ _

/-- A page without a layout is refused in either mode. -/
theorem within_page (v : Value) :
    (page (o.inMode .strict) now v path).Within (page (o.inMode .safe) now v path) := by
  unfold page
  refine Check.Within.bind (within_object path v _) fun m => ?_
  refine Check.Within.bind (within_requiredText m path "id") fun id => ?_
  refine Check.Within.bind (within_pageTitle o m path id) fun title => ?_
  split
  · exact Check.Within.fail _ _ _
  · exact Check.Within.bind (within_layout o now _ _) fun l => Check.Within.done _

/-- By induction on the pages, as for panels. -/
theorem within_pages (items : List Value) (i : Nat) (seen : List String) :
    (pages (o.inMode .strict) now path i seen items).Within
      (pages (o.inMode .safe) now path i seen items) := by
  induction items generalizing i seen with
  | nil => exact Check.Within.done _
  | cons v rest ih =>
      unfold pages
      refine Check.Within.bind (within_page o now _ v) fun p => ?_
      split
      · exact Check.Within.fail _ _ _
      · exact Check.Within.bind (ih _ _) fun ps => Check.Within.done _

/-! ## §4. Documents. -/

/-- The version is judged the same in either mode. -/
theorem within_version : (version m path).Within (version m path) := by
  unfold version
  split
  · exact Check.Within.fail _ _ _
  · split
    · exact Check.Within.fail _ _ _
    · exact Check.Within.ite (fun _ => Check.Within.error _ _) fun _ => Check.Within.done _

theorem within_pageList :
    (pageList (o.inMode .strict) now m path).Within
      (pageList (o.inMode .safe) now m path) := by
  unfold pageList
  dsimp only
  split
  · exact Check.Within.fail _ _ _
  · exact Check.Within.fail _ _ _
  · exact within_pages o now _ _ 0 []

/-- Strict mode accepts only the id of one of the pages. -/
theorem within_defaultPageId (ps : List Page) :
    (Validation.defaultPageId (o.inMode .strict) m ps path).Within
      (Validation.defaultPageId (o.inMode .safe) m ps path) := by
  unfold Validation.defaultPageId
  split
  · exact Check.Within.done _
  · exact Check.Within.mend rfl _ _ _ _ _

/-- The whole walk. -/
theorem within_workspace (v : Value) :
    (workspace (o.inMode .strict) now v).Within (workspace (o.inMode .safe) now v) := by
  unfold workspace
  dsimp only
  refine Check.Within.bind (within_object _ v _) fun m => ?_
  refine Check.Within.bind (within_version m _) fun schemaVersion => ?_
  refine Check.Within.bind (within_requiredText m _ "id") fun id => ?_
  refine Check.Within.bind (within_requiredText m _ "name") fun name => ?_
  refine Check.Within.bind (within_pageList o now m _) fun ps => ?_
  refine Check.Within.bind (within_defaultPageId o m _ ps) fun dflt => ?_
  refine Check.Within.bind (within_timestamp o now m _ "createdAt") fun createdAt => ?_
  refine Check.Within.bind (within_timestamp o now m _ "updatedAt") fun updatedAt => ?_
  exact Check.Within.done _

end Validation

/-! ## §5. Entry points. -/

/-- **Strict acceptance is silent, and safe mode accepts the same document.** -/
theorem validate_safe_of_strict {o : ValidationOptions} {now : Instant} {v : Value}
    {r : Validated} (h : validate (o.inMode .strict) now v = .ok r) :
    r.warnings = [] ∧ validate (o.inMode .safe) now v = .ok r := by
  obtain ⟨ws, hw, hr⟩ := validate_eq_ok h
  obtain ⟨rfl, hsafe⟩ := Validation.within_workspace o now v r.workspace ws hw
  refine ⟨hr, ?_⟩
  -- the two results agree in the document, and neither has a warning
  obtain ⟨w, reports⟩ := r
  cases hr
  unfold validate
  rw [hsafe]
  rfl

end Dashboard
