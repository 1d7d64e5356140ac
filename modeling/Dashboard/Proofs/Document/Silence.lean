/-
  Dashboard.Proofs.Document.Silence
  ─────────────────────────────────
  **SAFE IMPORT IS SILENT ABOUT FIVE STANDARD VALUES AND NOTHING ELSE.**

  Safe mode reports its repairs, but it does not report the standard value
  that it takes where a layout has no kind or no panels, and where one of the
  three records of a panel is missing.  So an import of well typed data without
  a warning is compared with what strict mode reads in the completed data, which
  has these values written out: every check that stays silent on the data
  accepts the same value there.

  Main results:
    silently_panel, …      — one check each, safe on the data and strict on
                             the completed data
    silent_import_supplies — the whole document
-/
import Dashboard.Proofs.Document.Completion
import Dashboard.Proofs.Document.Export
import Dashboard.Proofs.Document.Stamps

namespace Dashboard

open Grid Json Time

namespace Validation

/-! ## §1. Fields. -/

variable (o : ValidationOptions) (t : Instant) {m m' : Members} (path : Path)

/-- No mode mends a missing text, so both read the same. -/
theorem silently_requiredText {key : String} (h : Keyed.get? key m' = Keyed.get? key m) :
    (requiredText m key path).Silently (requiredText m' key path) := by
  rw [requiredText, requiredText, filledText?_congr h]
  exact Check.Silently.refl _

/-- Without a warning a timestamp is a text, or there is none and both modes
take the clock. -/
theorem silently_timestamp {key : String} (h : Keyed.get? key m' = Keyed.get? key m) :
    (timestamp (o.inMode .safe) t m key path).Silently
      (timestamp (o.inMode .strict) t m' key path) := by
  unfold timestamp
  rw [h]
  split
  · exact Check.Silently.refl _
  · exact Check.Silently.refl _
  · split
    · exact Check.Silently.refl _
    · exact Check.Silently.mend rfl _ _ _ _ _
  · exact Check.Silently.mend rfl _ _ _ _ _

/-- Without a warning a flag is a truth value, or there is none and it is off. -/
theorem silently_flag {key : String} (h : Keyed.get? key m' = Keyed.get? key m) :
    (flag (o.inMode .safe) m key path).Silently (flag (o.inMode .strict) m' key path) := by
  unfold flag
  rw [h]
  split
  · exact Check.Silently.refl _
  · exact Check.Silently.refl _
  · exact Check.Silently.refl _
  · exact Check.Silently.mend rfl _ _ _ _ _

/-! ## §2. Panels. -/

/-- What safe mode takes for a spec is what the completed data has. -/
theorem silently_spec {key : String} (standard : Members)
    (typed : ((Keyed.get? key m).filter isGiven).all isRecord = true)
    (h : Keyed.get? key m'
      = some (((Keyed.get? key m).filter isGiven).getD (.object standard))) :
    (spec (o.inMode .safe) m key path standard).Silently
      (spec (o.inMode .strict) m' key path standard) := by
  unfold spec
  split
  next s hs =>
    rw [hs] at h
    rw [h]
    exact Check.Silently.refl _
  next hs =>
    rw [hs] at h
    exact Check.Silently.assume rfl _ _ (by rw [h]; rfl)
  next hs =>
    rw [hs] at h
    exact Check.Silently.assume rfl _ _ (by rw [h]; rfl)
  next v hobject hnull hs =>
    -- the data is well typed
    rw [hs] at typed
    cases v with
    | object s => exact absurd rfl (hobject s)
    | null => exact absurd rfl hnull
    | _ => cases typed

/-- Without a warning an edge is a number. -/
theorem silently_cell (key : String) (standard : UInt32) :
    (cell (o.inMode .safe) m key path standard).Silently
      (cell (o.inMode .strict) m key path standard) := by
  unfold cell
  split
  · exact Check.Silently.refl _
  · exact Check.Silently.mend rfl _ _ _ _ _

/-- Without a warning a rectangle fits the grid as it is. -/
theorem silently_rect (v : Value) (columns : UInt32) :
    (rect (o.inMode .safe) v path columns).Silently (rect (o.inMode .strict) v path columns) := by
  unfold rect
  split
  · exact Check.Silently.mend rfl _ _ _ _ _
  · refine Check.Silently.bind (silently_cell o path "x" _) fun x => ?_
    refine Check.Silently.bind (silently_cell o path "y" _) fun y => ?_
    refine Check.Silently.bind (silently_cell o path "w" _) fun w => ?_
    refine Check.Silently.bind (silently_cell o path "h" _) fun h => ?_
    dsimp only
    split
    · exact Check.Silently.refl _
    · exact Check.Silently.repaired _ _ _ _

theorem silently_frameRect (columns : UInt32) :
    (frameRect (o.inMode .safe) m path columns).Silently
      (frameRect (o.inMode .strict) m path columns) := by
  unfold frameRect
  split
  · exact Check.Silently.refl _
  · exact Check.Silently.refl _
  · exact Check.Silently.bind (silently_rect o _ _ columns) fun r => Check.Silently.refl _

/-- A standard frame is read back where it has room. -/
theorem standardFrame_read {columns : UInt32} (wide : repairRect.w ≤ columns)
    (h : Keyed.get? "frame" m' = some (standardFrame.encode .inKeyOrder)) :
    frame (o.inMode .strict) m' path columns = .done standardFrame := by
  refine Frame.check_encode _ path h ⟨?_, nofun⟩
  intro r hr
  cases hr
  exact (fits_repairRect columns).mpr wide

/-- What safe mode takes for a frame is what the completed data has, where the
standard frame has room. -/
theorem silently_frame {columns : UInt32} (fits : PanelFits columns (.object m))
    (typed : ((Keyed.get? "frame" m).filter isGiven).all isRecord = true)
    (h : Keyed.get? "frame" m'
      = some (((Keyed.get? "frame" m).filter isGiven).getD (standardFrame.encode .inKeyOrder))) :
    (frame (o.inMode .safe) m path columns).Silently
      (frame (o.inMode .strict) m' path columns) := by
  -- where there is no frame the completed data has the standard one
  have standard : (Keyed.get? "frame" m).any isGiven = false →
      (Keyed.get? "frame" m).filter isGiven = none →
      frame (o.inMode .strict) m' path columns = .done standardFrame := by
    intro habsent hnone
    have room : repairRect.w ≤ columns :=
      fits.resolve_left fun hframe => nomatch habsent.symm.trans hframe
    refine standardFrame_read o path room ?_
    rw [h, hnone]
    rfl
  rw [frame]
  split
  next f hf =>
    rw [hf] at h
    unfold frame
    rw [h]
    exact Check.Silently.bind (silently_frameRect o _ columns) fun g => Check.Silently.refl _
  next hf =>
    rw [hf] at standard
    exact Check.Silently.assume rfl _ _ (standard rfl rfl)
  next hf =>
    rw [hf] at standard
    exact Check.Silently.assume rfl _ _ (standard rfl rfl)
  next v hobject hnull hf =>
    rw [hf] at typed
    cases v with
    | object f => exact absurd rfl (hobject f)
    | null => exact absurd rfl hnull
    | _ => cases typed

/-- Without a warning the widget is a known one. -/
theorem silently_widget (h : Keyed.get? "widgetId" m' = Keyed.get? "widgetId" m) :
    (widget (o.inMode .safe) m path).Silently (widget (o.inMode .strict) m' path) := by
  unfold widget
  refine Check.Silently.bind (silently_requiredText path h) fun id => ?_
  show Check.Silently (if o.knows id then _ else _) (if o.knows id then _ else _)
  split
  · exact Check.Silently.refl _
  · exact Check.Silently.mend rfl _ _ _ _ _

theorem silently_panelTitle (h : Keyed.get? "title" m' = Keyed.get? "title" m) :
    (panelTitle (o.inMode .safe) m path).Silently (panelTitle (o.inMode .strict) m' path) := by
  unfold panelTitle
  rw [h]
  split
  · exact Check.Silently.refl _
  · exact Check.Silently.refl _
  · exact Check.Silently.refl _
  · exact Check.Silently.mend rfl _ _ _ _ _

/-- Completing a panel touches its three records only. -/
theorem get?_panelSupplied_of_ne {k : String} (hk : k ∉ ["dataSpec", "viewSpec", "frame"]) :
    Keyed.get? k (panelSupplied m) = Keyed.get? k m := by
  simp only [List.mem_cons, List.not_mem_nil, or_false, not_or] at hk
  rw [panelSupplied, get?_supplied_of_ne (Ne.symm hk.2.2), get?_supplied_of_ne (Ne.symm hk.2.1),
    get?_supplied_of_ne (Ne.symm hk.1)]

/-- A panel without a warning is read in the completed data, part by part. -/
theorem silently_panel (v : Value) {columns : UInt32} (fits : PanelFits columns v)
    (typed : PanelTyped v) :
    (panel (o.inMode .safe) t v path columns).Silently
      (panel (o.inMode .strict) t (completedPanel v) path columns) := by
  unfold panel
  cases v with
  | object m =>
      have others : ∀ k, k ∉ ["dataSpec", "viewSpec", "frame"] →
          Keyed.get? k (panelSupplied m) = Keyed.get? k m := fun k => get?_panelSupplied_of_ne
      have hdata : Keyed.get? "dataSpec" (panelSupplied m)
          = some (((Keyed.get? "dataSpec" m).filter isGiven).getD
              (.object (dataSpecFor placeholderWidget))) := by
        rw [panelSupplied, get?_supplied_of_ne (by decide), get?_supplied_of_ne (by decide),
          get?_supplied]
      have hview : Keyed.get? "viewSpec" (panelSupplied m)
          = some (((Keyed.get? "viewSpec" m).filter isGiven).getD
              (.object (viewSpecFor placeholderWidget))) := by
        rw [panelSupplied, get?_supplied_of_ne (by decide), get?_supplied,
          get?_supplied_of_ne (by decide)]
      have hframe : Keyed.get? "frame" (panelSupplied m)
          = some (((Keyed.get? "frame" m).filter isGiven).getD
              (standardFrame.encode .inKeyOrder)) := by
        rw [panelSupplied, get?_supplied, get?_supplied_of_ne (by decide),
          get?_supplied_of_ne (by decide)]
      show Check.Silently (Check.done m >>= _) (Check.done (panelSupplied m) >>= _)
      rw [Check.done_bind, Check.done_bind]
      refine Check.Silently.bind (silently_requiredText path (others _ (by decide))) fun id => ?_
      refine Check.Silently.bind (silently_widget o path (others _ (by decide))) fun widgetId => ?_
      refine Check.Silently.bind (silently_panelTitle o path (others _ (by decide))) fun title => ?_
      have typed : ∀ key ∈ ["dataSpec", "viewSpec", "frame"],
          ((Keyed.get? key m).filter isGiven).all isRecord = true := typed
      have hdataTyped := typed "dataSpec" (by decide)
      have hviewTyped := typed "viewSpec" (by decide)
      have hframeTyped := typed "frame" (by decide)
      refine Check.Silently.bind (silently_spec o path _ hdataTyped hdata) fun dataSpec => ?_
      refine Check.Silently.bind (silently_spec o path _ hviewTyped hview) fun viewSpec => ?_
      refine Check.Silently.bind (silently_frame o path fits hframeTyped hframe) fun frame => ?_
      refine Check.Silently.bind (silently_flag o path (others _ (by decide))) fun locked => ?_
      refine Check.Silently.bind (silently_flag o path (others _ (by decide))) fun pinned => ?_
      refine Check.Silently.bind (silently_flag o path (others _ (by decide))) fun guarded => ?_
      refine Check.Silently.bind (silently_timestamp o t path (others _ (by decide))) fun _ => ?_
      refine Check.Silently.bind (silently_timestamp o t path (others _ (by decide))) fun _ => ?_
      exact Check.Silently.refl _
  | _ => exact Check.Silently.fail _ _ _

/-- And so is a list of panels, whose ids are not touched. -/
theorem silently_panels {columns : UInt32} (items : List Value)
    (fits : ∀ panel ∈ items, PanelFits columns panel)
    (typed : ∀ panel ∈ items, PanelTyped panel) (i : Nat) (seen : List String) :
    (panels (o.inMode .safe) t path columns i seen items).Silently
      (panels (o.inMode .strict) t path columns i seen (items.map completedPanel)) := by
  induction items generalizing i seen with
  | nil => exact Check.Silently.refl _
  | cons v rest ih =>
      obtain ⟨hv, hrest⟩ := List.forall_mem_cons.mp fits
      obtain ⟨hvTyped, hrestTyped⟩ := List.forall_mem_cons.mp typed
      rw [List.map_cons]
      unfold panels
      refine Check.Silently.bind (silently_panel o t _ v hv hvTyped) fun p => ?_
      split
      · exact Check.Silently.fail _ _ _
      · exact Check.Silently.bind (ih hrest hrestTyped (i + 1) (p.id :: seen)) fun ps =>
          Check.Silently.refl _

/-! ## §3. Layouts and pages. -/

/-- A layout without a kind is a grid, and the completed data says so. -/
theorem silently_kind (typed : ((Keyed.get? "kind" m).filter isGiven).all isText = true)
    (h : Keyed.get? "kind" m'
      = some (((Keyed.get? "kind" m).filter isGiven).getD (.text LayoutKind.grid.name))) :
    (kind (o.inMode .safe) m path).Silently (kind (o.inMode .strict) m' path) := by
  rw [kind]
  split
  next s hs =>
    obtain ⟨v, hv, htext⟩ := Option.bind_eq_some_iff.mp hs
    cases v with
    | text s' =>
        cases htext
        rw [hv] at h
        have hkept : Keyed.get? "kind" m' = some (.text s) := h
        unfold kind
        rw [hkept]
        cases hk : LayoutKind.ofName? s with
        | some k =>
            simp only [Option.bind_some, Value.text?, hk]
            exact Check.Silently.refl _
        | none => exact Check.Silently.mend rfl _ _ _ _ _
    | _ => cases htext
  next hs =>
    refine Check.Silently.assume rfl _ _ (kind_eq _ path ?_)
    rw [h]
    cases hv : Keyed.get? "kind" m with
    | none => rfl
    | some v =>
        rw [hv] at hs typed
        cases v with
        | text s => cases hs
        | null => rfl
        | _ => cases typed

theorem kept_congr {key : String} (h : Keyed.get? key m' = Keyed.get? key m) :
    kept m' key = kept m key := by
  rw [kept, kept, h]

/-- Without a warning a grid is usable, or there is none. -/
theorem silently_gridSpec (h : Keyed.get? "gridSpec" m' = Keyed.get? "gridSpec" m) :
    (Validation.gridSpec (o.inMode .safe) m path).Silently
      (Validation.gridSpec (o.inMode .strict) m' path) := by
  unfold Validation.gridSpec
  rw [kept_congr h]
  split
  · exact Check.Silently.refl _
  · split
    · exact Check.Silently.refl _
    · exact Check.Silently.mend rfl _ _ _ _ _

/-- A layout without panels is empty, and the completed data says so. -/
theorem silently_panelList {columns : UInt32}
    (fits : ∀ panel ∈ itemsUnder "panels" (.object m), PanelFits columns panel)
    (typed : ∀ panel ∈ itemsUnder "panels" (.object m), PanelTyped panel)
    (h : Keyed.get? "panels" m'
      = some (onItems completedPanel (((Keyed.get? "panels" m).filter isGiven).getD (.list [])))) :
    (panelList (o.inMode .safe) t m path columns).Silently
      (panelList (o.inMode .strict) t m' path columns) := by
  rw [panelList]
  split
  next items hitems =>
    rw [hitems] at h
    rw [itemsUnder_eq (by rw [hitems]; rfl)] at fits typed
    unfold panelList
    rw [h]
    exact silently_panels o t _ items fits typed 0 []
  next hnone =>
    rw [hnone] at h
    refine Check.Silently.assume rfl _ _ ?_
    rw [panelList, h]
    rfl
  next hnull =>
    rw [hnull] at h
    refine Check.Silently.assume rfl _ _ ?_
    rw [panelList, h]
    rfl
  next => exact Check.Silently.fail _ _ _

/-- A layout without a warning, its panels held to the same number of columns. -/
theorem silently_layout (v : Value) (fits : LayoutFits o v) (typed : LayoutTyped v) :
    (layout (o.inMode .safe) t v path).Silently
      (layout (o.inMode .strict) t (completedLayout v) path) := by
  unfold layout
  cases v with
  | object m =>
      have hpanels : Keyed.get? "panels" (Keyed.modify "panels" (onItems completedPanel)
          (layoutSupplied m)) = some (onItems completedPanel
            (((Keyed.get? "panels" m).filter isGiven).getD (.list []))) := by
        rw [Keyed.get?_modify, if_pos rfl, layoutSupplied, get?_supplied,
          get?_supplied_of_ne (by decide)]
        rfl
      have hkind : Keyed.get? "kind" (Keyed.modify "panels" (onItems completedPanel)
          (layoutSupplied m)) = some (((Keyed.get? "kind" m).filter isGiven).getD
            (.text LayoutKind.grid.name)) := by
        rw [Keyed.get?_modify, if_neg (by decide), layoutSupplied,
          get?_supplied_of_ne (by decide), get?_supplied]
      have others : ∀ k, "panels" ≠ k → "kind" ≠ k → Keyed.get? k (Keyed.modify "panels"
          (onItems completedPanel) (layoutSupplied m)) = Keyed.get? k m := by
        intro k hnp hnk
        rw [Keyed.get?_modify, if_neg hnp, layoutSupplied, get?_supplied_of_ne hnp,
          get?_supplied_of_ne hnk]
      show Check.Silently (Check.done m >>= _) (Check.done (Keyed.modify "panels"
        (onItems completedPanel) (layoutSupplied m)) >>= _)
      rw [Check.done_bind, Check.done_bind]
      obtain ⟨hkindTyped, hpanelsTyped⟩ := typed
      refine Check.Silently.bind (silently_kind o path hkindTyped hkind) fun k => ?_
      refine Check.Silently.bind_ensured ensures_gridSpec
        (silently_gridSpec o path (others _ (by decide) (by decide))) fun g hg => ?_
      -- the panels are held to the grid that they have to fit
      have hcolumns : columnsOf o (.object m) = (g.getD o.gridDefaults).columns := by
        rw [hg.1]
        rfl
      rw [LayoutFits, hcolumns] at fits
      have hlist := silently_panelList o t path fits hpanelsTyped hpanels
      refine Check.Silently.bind hlist fun ps => ?_
      rw [kept_congr (others "freeformSpec" (by decide) (by decide)),
        kept_congr (others "splitSpec" (by decide) (by decide))]
      exact Check.Silently.refl _
  | _ => exact Check.Silently.fail _ _ _

/-- Without a warning a page has a title. -/
theorem silently_pageTitle (id : String) (h : Keyed.get? "title" m' = Keyed.get? "title" m) :
    (pageTitle (o.inMode .safe) m id path).Silently
      (pageTitle (o.inMode .strict) m' id path) := by
  unfold pageTitle
  rw [filledText?_congr h]
  split
  · exact Check.Silently.refl _
  · exact Check.Silently.mend rfl _ _ _ _ _

/-- A page has no standard values of its own; its layout may. -/
theorem silently_page (v : Value) (fits : ∀ layout ∈ v.get? "layout", LayoutFits o layout)
    (typed : ∀ layout ∈ v.get? "layout", LayoutTyped layout) :
    (page (o.inMode .safe) t v path).Silently
      (page (o.inMode .strict) t (completedPage v) path) := by
  unfold page
  cases v with
  | object m =>
      have hlayout : Keyed.get? "layout" (Keyed.modify "layout" completedLayout m)
          = (Keyed.get? "layout" m).map completedLayout :=
        (Keyed.get?_modify _ _ _ _).trans (if_pos rfl)
      have others : ∀ k, "layout" ≠ k →
          Keyed.get? k (Keyed.modify "layout" completedLayout m) = Keyed.get? k m :=
        fun k hk => (Keyed.get?_modify _ _ _ _).trans (if_neg hk)
      show Check.Silently (Check.done m >>= _)
        (Check.done (Keyed.modify "layout" completedLayout m) >>= _)
      rw [Check.done_bind, Check.done_bind]
      refine Check.Silently.bind (silently_requiredText path (others _ (by decide))) fun id => ?_
      refine Check.Silently.bind (silently_pageTitle o path id (others _ (by decide))) fun _ => ?_
      rw [hlayout]
      cases hv : Keyed.get? "layout" m with
      | none => exact Check.Silently.fail _ _ _
      | some v =>
          exact Check.Silently.bind (silently_layout o t _ v (fits v hv) (typed v hv)) fun l =>
            Check.Silently.refl _
  | _ => exact Check.Silently.fail _ _ _

theorem silently_pages (items : List Value)
    (fits : ∀ page ∈ items, ∀ layout ∈ page.get? "layout", LayoutFits o layout)
    (typed : ∀ page ∈ items, ∀ layout ∈ page.get? "layout", LayoutTyped layout) (i : Nat)
    (seen : List String) :
    (pages (o.inMode .safe) t path i seen items).Silently
      (pages (o.inMode .strict) t path i seen (items.map completedPage)) := by
  induction items generalizing i seen with
  | nil => exact Check.Silently.refl _
  | cons v rest ih =>
      obtain ⟨hv, hrest⟩ := List.forall_mem_cons.mp fits
      obtain ⟨hvTyped, hrestTyped⟩ := List.forall_mem_cons.mp typed
      rw [List.map_cons]
      unfold pages
      refine Check.Silently.bind (silently_page o t _ v hv hvTyped) fun p => ?_
      split
      · exact Check.Silently.fail _ _ _
      · exact Check.Silently.bind (ih hrest hrestTyped (i + 1) (p.id :: seen)) fun ps =>
          Check.Silently.refl _

/-! ## §4. Documents. -/

/-- A document without pages is refused in both modes. -/
theorem silently_pageList (fits : FramesFit o (.object m)) (typed : WellTyped (.object m))
    (h : Keyed.get? "pages" m' = (Keyed.get? "pages" m).map (onItems completedPage)) :
    (pageList (o.inMode .safe) t m path).Silently
      (pageList (o.inMode .strict) t m' path) := by
  rw [pageList]
  split
  next => exact Check.Silently.fail _ _ _
  next => exact Check.Silently.fail _ _ _
  next items hne hitems =>
    rw [FramesFit, itemsUnder_eq hitems] at fits
    rw [WellTyped, itemsUnder_eq hitems] at typed
    have hcompleted : (Keyed.get? "pages" m').bind Value.items?
        = some (items.map completedPage) := by
      obtain ⟨w, hw, hlist⟩ := Option.bind_eq_some_iff.mp hitems
      cases w with
      | list vs =>
          cases hlist
          rw [h, hw]
          rfl
      | _ => cases hlist
    unfold pageList
    rw [hcompleted]
    cases items with
    | nil => exact absurd rfl hne
    | cons v rest => exact silently_pages o t _ (v :: rest) fits typed 0 []

theorem silently_defaultPageId (ps : List Page)
    (h : Keyed.get? "defaultPageId" m' = Keyed.get? "defaultPageId" m) :
    (Validation.defaultPageId (o.inMode .safe) m ps path).Silently
      (Validation.defaultPageId (o.inMode .strict) m' ps path) := by
  unfold Validation.defaultPageId
  rw [filledText?_congr h]
  split
  · exact Check.Silently.refl _
  · exact Check.Silently.mend rfl _ _ _ _ _

/-- A whole document without a warning. -/
theorem silently_workspace (v : Value) (fits : FramesFit o v) (typed : WellTyped v) :
    (workspace (o.inMode .safe) t v).Silently
      (workspace (o.inMode .strict) t (completed v)) := by
  unfold workspace
  dsimp only
  cases v with
  | object m =>
      have hpages : Keyed.get? "pages" (Keyed.modify "pages" (onItems completedPage) m)
          = (Keyed.get? "pages" m).map (onItems completedPage) :=
        (Keyed.get?_modify _ _ _ _).trans (if_pos rfl)
      have others : ∀ k, "pages" ≠ k →
          Keyed.get? k (Keyed.modify "pages" (onItems completedPage) m) = Keyed.get? k m :=
        fun k hk => (Keyed.get?_modify _ _ _ _).trans (if_neg hk)
      show Check.Silently (Check.done m >>= _)
        (Check.done (Keyed.modify "pages" (onItems completedPage) m) >>= _)
      have hversion : version (Keyed.modify "pages" (onItems completedPage) m) .root
          = version m .root := by
        rw [version, version, others versionKey (by decide)]
      rw [Check.done_bind, Check.done_bind, hversion]
      refine Check.Silently.bind (Check.Silently.refl _) fun schemaVersion => ?_
      refine Check.Silently.bind (silently_requiredText _ (others _ (by decide))) fun id => ?_
      refine Check.Silently.bind (silently_requiredText _ (others _ (by decide))) fun name => ?_
      refine Check.Silently.bind (silently_pageList o t _ fits typed hpages) fun ps => ?_
      refine Check.Silently.bind (silently_defaultPageId o _ ps (others _ (by decide))) fun _ => ?_
      refine Check.Silently.bind (silently_timestamp o t _ (others _ (by decide))) fun _ => ?_
      refine Check.Silently.bind (silently_timestamp o t _ (others _ (by decide))) fun _ => ?_
      exact Check.Silently.refl _
  | _ => exact Check.Silently.fail _ _ _

end Validation

/-! ## §5. The entry point. -/

/-- Strict mode reads in the completed data what safe mode imported without a
warning. -/
theorem validate_completed {o : ValidationOptions} {t : Instant} {v : Value} {r : Validated}
    (typed : Validation.WellTyped v) (h : validate (o.inMode .safe) t v = .ok r)
    (silent : r.warnings = []) (fits : Validation.FramesFit o v) :
    validate (o.inMode .strict) t (Validation.completed v) = .ok r := by
  obtain ⟨ws, hw, hreports⟩ := validate_eq_ok h
  obtain ⟨w, reports⟩ := r
  cases silent
  obtain rfl : ws = [] := List.map_eq_nil_iff.mp hreports.symm
  unfold validate
  rw [Validation.silently_workspace o t v fits typed w hw]
  rfl

/-- **Safe import is silent about five standard values and nothing else.**
Take well typed data.  An import without a warning is what strict mode reads in
the completed data, at any clock reading but for the timestamps that the data
lacks, provided that the standard frames have room on their pages.  Strict mode
accepts the data as it is exactly when it is complete, and then reads the same
document in it. -/
theorem silent_import_supplies {o : ValidationOptions} {t : Instant} {v : Value} {r : Validated}
    (typed : Validation.WellTyped v) (h : validate (o.inMode .safe) t v = .ok r)
    (silent : r.warnings = []) (t' : Instant) :
    (Validation.FramesFit o v →
      validate (o.inMode .strict) t (Validation.completed v) = .ok r ∧
      validate (o.inMode .strict) t' (Validation.completed v)
        = .ok ⟨r.workspace.stamped t' (Validation.completed v), []⟩) ∧
    ((∃ r', validate (o.inMode .strict) t' v = .ok r') ↔ Validation.Complete v) ∧
    (Validation.Complete v →
      validate (o.inMode .strict) t v = .ok r ∧
      validate (o.inMode .strict) t' v = .ok ⟨r.workspace.stamped t' v, []⟩) := by
  have hcompleted : Validation.FramesFit o v →
      validate (o.inMode .strict) t (Validation.completed v) = .ok r ∧
      validate (o.inMode .strict) t' (Validation.completed v)
        = .ok ⟨r.workspace.stamped t' (Validation.completed v), []⟩ := by
    intro fits
    have hstrict := validate_completed typed h silent fits
    exact ⟨hstrict, validate_strict_stamped hstrict t'⟩
  have hcomplete : Validation.Complete v →
      validate (o.inMode .strict) t v = .ok r ∧
      validate (o.inMode .strict) t' v = .ok ⟨r.workspace.stamped t' v, []⟩ := by
    intro complete
    have hboth := hcompleted (complete.framesFit o)
    rwa [Validation.completed_of_complete complete] at hboth
  refine ⟨hcompleted, ⟨?_, fun complete => ⟨_, (hcomplete complete).2⟩⟩, hcomplete⟩
  rintro ⟨r', hr'⟩
  obtain ⟨ws, hw, -⟩ := validate_eq_ok hr'
  exact Validation.complete_workspace o t' v r'.workspace ws hw

/-- A panel with its three records, and a layout with kind and panels. -/
def wholePanel : Members :=
  [("createdAt", .text "0"), ("dataSpec", .object []), ("frame", .object []), ("id", .text "p"),
    ("viewSpec", .object []), ("widgetId", .text "quick-nav")]

def wholeLayout (panel : Members) : Members :=
  [("kind", .text "grid"), ("panels", .list [.object panel])]

/-- The data of a document of one page. -/
def deskOf (layout : Members) : Value :=
  .object [("defaultPageId", .text "a"), ("id", .text "desk"), ("name", .text "Desk"),
    ("pages", .list [.object [("id", .text "a"), ("layout", .object layout),
      ("title", .text "A")]]), ("schemaVersion", .ofNat 1)]

/-- Members without a value under a key: with null there, or with nothing. -/
def gaps (key : String) (m : Members) : List Members := [m.erase key, m.insert key .null]

/-- The documents that lack one of these parts. -/
def gapDesks : List Value :=
  (["dataSpec", "viewSpec", "frame"].flatMap fun key =>
      (gaps key wholePanel).map fun panel => deskOf (wholeLayout panel)) ++
    ["kind", "panels"].flatMap fun key => (gaps key (wholeLayout wholePanel)).map deskOf

/-- A panel without a frame is read with the standard one written out, and
strict mode accepts the whole document only. -/
theorem gapDesk_supplied :
    let o := ValidationOptions.ofMode .safe
    let gap := deskOf (wholeLayout (wholePanel.erase "frame"))
    (∃ r, validate (o.inMode .safe) ⟨0⟩ gap = .ok r ∧
        validate (o.inMode .strict) ⟨0⟩ (Validation.completed gap) = .ok r) ∧
      (¬ ∃ r, validate (o.inMode .strict) ⟨7⟩ gap = .ok r) ∧
      ∃ r, validate (o.inMode .strict) ⟨7⟩ (deskOf (wholeLayout wholePanel)) = .ok r := by
  intro o gap
  have hgap : (validate (o.inMode .safe) ⟨0⟩ gap).toOption.map (·.warnings) = some [] := by decide
  have hwhole : (validate (o.inMode .safe) ⟨0⟩ (deskOf (wholeLayout wholePanel))).toOption.map
      (·.warnings) = some [] := by decide
  cases h : validate (o.inMode .safe) ⟨0⟩ gap with
  | error e => rw [h] at hgap; cases hgap
  | ok r =>
      cases h' : validate (o.inMode .safe) ⟨0⟩ (deskOf (wholeLayout wholePanel)) with
      | error e => rw [h'] at hwhole; cases hwhole
      | ok r' =>
          rw [h] at hgap
          rw [h'] at hwhole
          obtain ⟨hread, hstrict, -⟩ :=
            silent_import_supplies (by decide) h (Option.some.inj hgap) ⟨7⟩
          obtain ⟨-, hstrict', -⟩ :=
            silent_import_supplies (by decide) h' (Option.some.inj hwhole) ⟨7⟩
          exact ⟨⟨r, rfl, (hread (by decide)).1⟩, fun hr => absurd (hstrict.mp hr) (by decide),
            hstrict'.mpr (by decide)⟩

/-- Each of the five standard values is taken without a warning, where strict
mode refuses. -/
theorem gaps_are_silent :
    let o := ValidationOptions.ofMode .safe
    ∀ v ∈ gapDesks, ∃ r, validate (o.inMode .safe) ⟨0⟩ v = .ok r ∧ r.warnings = [] ∧
      ∀ r', validate (o.inMode .strict) ⟨0⟩ v ≠ .ok r' := by
  intro o v hv
  have hsafe : ∀ v ∈ gapDesks,
      (validate (o.inMode .safe) ⟨0⟩ v).toOption.map (·.warnings) = some [] := by decide
  have hstrict : ∀ v ∈ gapDesks, (validate (o.inMode .strict) ⟨0⟩ v).toBool = false := by decide
  have hsilent := hsafe v hv
  have hrefused := hstrict v hv
  cases h : validate (o.inMode .safe) ⟨0⟩ v with
  | error e => rw [h] at hsilent; cases hsilent
  | ok r =>
      rw [h] at hsilent
      refine ⟨r, rfl, Option.some.inj hsilent, ?_⟩
      intro r' hr'
      rw [hr'] at hrefused
      cases hrefused

end Dashboard
