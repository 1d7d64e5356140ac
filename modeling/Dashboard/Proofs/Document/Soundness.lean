/-
  Dashboard.Proofs.Document.Soundness
  ───────────────────────────────────
  **WHAT VALIDATION ACCEPTS IS WELL FORMED — with one exact exception.**

  Every check is followed in both modes at once.  Strict mode accepts nothing
  but well-formed documents.  Safe mode mends what it finds, and each mended
  value is well formed again, but for one: the rectangle for a panel that
  arrives without a usable frame is three columns wide and is not clamped, so
  it sticks out of a grid of one or two columns.  `Roomy` says on the JSON
  data that this does not happen, and the equivalences below carry it through
  the walk, from one rectangle to the whole document.

  Main results:
    ensures_rect, …       — one check each
    validate_validFor_iff — an accepted document is well formed exactly when
                            the data is roomy
-/
import Dashboard.Proofs.Document.Check
import Dashboard.Proofs.Document.WellFormed
import Dashboard.Proofs.Grid.Placement
import Mathlib.Data.List.Basic

namespace Dashboard

open Grid Json Time

/-! ## §1. The repair rectangle. -/

/-- The rectangle for a panel without a usable frame fits from three columns on. -/
theorem fits_repairRect (columns : UInt32) :
    repairRect.fits columns = true ↔ repairRect.w ≤ columns := by
  have hright : repairRect.right = repairRect.w := by decide
  simp only [Rect.fits, hright, Bool.and_eq_true, decide_eq_true_eq]
  constructor
  · intro h
    exact h.2
  · intro h
    exact ⟨by decide, h⟩

/-! ## §2. Room on the JSON data. -/

namespace Validation

/-- The members of a panel hold a usable frame: a record, and in it no
rectangle or a record for one. -/
def framed (m : Members) : Bool :=
  match Keyed.get? "frame" m with
  | some (.object f) =>
    match Keyed.get? "grid" f with
    | none | some .null | some (.object _) => true
    | some _ => false
  | _ => false

/-- A panel's data with a usable frame. -/
def isFramed (v : Value) : Bool := (v.members?.map framed).getD false

/-- The items under a key. -/
def itemsUnder (key : String) (v : Value) : List Value :=
  ((v.get? key).bind Value.items?).getD []

/-- The items of a list that was found under a key. -/
theorem itemsUnder_eq {key : String} {m : Members} {items : List Value}
    (h : (Keyed.get? key m).bind Value.items? = some items) :
    itemsUnder key (.object m) = items := by
  show ((Keyed.get? key m).bind Value.items?).getD [] = items
  rw [h]
  rfl

/-- The number of columns that the panels of a layout's data are held to. -/
def columnsOf (o : ValidationOptions) (layout : Value) : UInt32 :=
  (((layout.members?.bind fun m => kept m "gridSpec").bind usableSpec?).getD o.gridDefaults).columns

/-- A panel's data fits a grid of `columns` without the repair rectangle, or
the grid is wide enough for that. -/
def PanelRoom (o : ValidationOptions) (columns : UInt32) (panel : Value) : Prop :=
  o.isSafe = true → repairRect.w ≤ columns ∨ isFramed panel = true

/-- Every panel of a layout's data has room. -/
def LayoutRoom (o : ValidationOptions) (layout : Value) : Prop :=
  ∀ panel ∈ itemsUnder "panels" layout, PanelRoom o (columnsOf o layout) panel

/-- Every panel of a document's data has room on its page. -/
def Roomy (o : ValidationOptions) (v : Value) : Prop :=
  ∀ page ∈ itemsUnder "pages" v, ∀ layout ∈ page.get? "layout", LayoutRoom o layout

instance (o : ValidationOptions) (columns : UInt32) :
    DecidablePred (PanelRoom o columns) :=
  fun panel => inferInstanceAs
    (Decidable (o.isSafe = true → repairRect.w ≤ columns ∨ isFramed panel = true))

instance (o : ValidationOptions) : DecidablePred (LayoutRoom o) :=
  fun layout => inferInstanceAs
    (Decidable (∀ panel ∈ itemsUnder "panels" layout, PanelRoom o (columnsOf o layout) panel))

instance (o : ValidationOptions) : DecidablePred (Roomy o) :=
  fun v => inferInstanceAs
    (Decidable (∀ page ∈ itemsUnder "pages" v, ∀ layout ∈ page.get? "layout", LayoutRoom o layout))

/-- Strict mode needs no room, for it takes no standard frame. -/
theorem roomy_of_strict {o : ValidationOptions} (strict : o.isSafe = false) (v : Value) :
    Roomy o v := by
  intro page _ layout _ panel _ safe
  rw [strict] at safe
  cases safe

/-! ## §3. Fields. -/

variable {o : ValidationOptions} {now : Instant} {m : Members} {path : Path}

/-- Only an object is read as one. -/
theorem ensures_object (v : Value) (path : Path) (what : String) :
    (object v path what).Ensures fun m => v = .object m := by
  unfold object
  cases v with
  | object m => exact Check.Ensures.done rfl
  | _ => exact Check.Ensures.fail path _

/-- A filled text is not blank. -/
theorem filled_of_filledText? {key s : String} (h : filledText? m key = some s) :
    Text.Filled s := by
  unfold filledText? at h
  obtain ⟨-, hs⟩ := Option.filter_eq_some_iff.mp h
  simpa [Text.Filled] using hs

/-- Only what stands under the key matters. -/
theorem filledText?_congr {m m' : Members} {key : String}
    (h : Keyed.get? key m' = Keyed.get? key m) : filledText? m' key = filledText? m key := by
  rw [filledText?, filledText?, h]

/-- A required text is not blank, in either mode. -/
theorem ensures_requiredText (key : String) :
    (requiredText m key path).Ensures Text.Filled := by
  unfold requiredText
  split
  next s hs => exact Check.Ensures.done (filled_of_filledText? hs)
  next => exact Check.Ensures.fail _ _

/-- A timestamp is not empty, be it found or taken from the clock. -/
theorem ensures_timestamp (key : String) :
    (timestamp o now m key path).Ensures fun s => s ≠ "" := by
  have hstamp := now.stamp_ne_empty
  unfold timestamp
  split
  · exact Check.Ensures.done hstamp
  · exact Check.Ensures.done hstamp
  · split
    next hs => exact Check.Ensures.done hs
    next => exact Check.Ensures.mend fun _ => hstamp
  · exact Check.Ensures.mend fun _ => hstamp

theorem kept_ne_null (m : Members) (key : String) : kept m key ≠ some .null := by
  intro h
  obtain ⟨-, hnull⟩ := Option.filter_eq_some_iff.mp h
  simp [Value.isNull] at hnull

/-- A widget that is not known becomes the placeholder, which is. -/
theorem ensures_widget : (widget o m path).Ensures o.Accepts := by
  unfold widget
  refine Check.Ensures.bind (ensures_requiredText "widgetId") fun id hid => ?_
  split
  next hknown => exact Check.Ensures.done ⟨hid, hknown⟩
  next => exact Check.Ensures.mend fun _ => o.accepts_placeholder

/-- A check that only has to accept. -/
theorem ensures_any {α : Type} (c : Check α) : c.Ensures fun _ => True := fun _ _ _ => trivial

/-- A grid that is read has a column and a row height. -/
theorem usable_of_usableSpec? {v : Value} {s : Spec} (h : usableSpec? v = some s) : s.Usable := by
  simp only [usableSpec?, Option.bind_eq_bind, Option.bind_eq_some_iff] at h
  obtain ⟨m, -, columns, -, rowHeight, -, gap, -, h⟩ := h
  split at h
  next hpos =>
    injection h with h
    subst h
    exact ⟨hpos.1, hpos.2⟩
  next => cases h

/-- A page's grid is the usable one of its data, or none. -/
theorem ensures_gridSpec :
    (gridSpec o m path).Ensures fun g =>
      g = (kept m "gridSpec").bind usableSpec? ∧ ∀ s ∈ g, s.Usable := by
  unfold gridSpec
  split
  next hnone => exact Check.Ensures.done ⟨by rw [hnone]; rfl, by simp⟩
  next v hv =>
    split
    next s hs =>
      refine Check.Ensures.done ⟨by rw [hv]; exact hs.symm, ?_⟩
      intro s' hs'
      cases hs'
      exact usable_of_usableSpec? hs
    next hs => exact Check.Ensures.mend fun _ => ⟨by rw [hv]; exact hs.symm, by simp⟩

/-! ## §4. Frames. -/

/-- A rectangle fits unless safe mode took the repair rectangle on a grid that
is too narrow for it. -/
theorem ensures_rect (v : Value) (path : Path) {columns : UInt32}
    (wide : o.isSafe = true → 1 ≤ columns) :
    (rect o v path columns).Ensures fun r =>
      r.fits columns = true ↔
        (o.isSafe = true → repairRect.w ≤ columns ∨ v.members?.isSome = true) := by
  unfold rect
  split
  next hnone =>
    -- not a record: the repair rectangle, as it is
    refine Check.Ensures.mend fun safe => ?_
    rw [fits_repairRect, hnone]
    simp [safe]
  next m hm =>
    have hroom : o.isSafe = true → repairRect.w ≤ columns ∨ v.members?.isSome = true :=
      fun _ => Or.inr (by rw [hm]; rfl)
    refine Check.Ensures.bind (ensures_any _) fun x _ => ?_
    refine Check.Ensures.bind (ensures_any _) fun y _ => ?_
    refine Check.Ensures.bind (ensures_any _) fun w _ => ?_
    refine Check.Ensures.bind (ensures_any _) fun h _ => ?_
    dsimp only
    -- four words, clamped if they do not fit
    split
    next hfits => exact Check.Ensures.done (iff_of_true hfits hroom)
    next =>
      split
      next safe =>
        exact Check.Ensures.repaired (iff_of_true (Rect.fits_clamped _ (wide safe)) hroom)
      next => exact Check.Ensures.fail _ _

/-- A frame without a rectangle has nothing to fit. -/
theorem ensures_frameRect (path : Path) {columns : UInt32}
    (wide : o.isSafe = true → 1 ≤ columns) :
    (frameRect o m path columns).Ensures fun g =>
      (∀ r ∈ g, r.fits columns = true) ↔
        (o.isSafe = true → repairRect.w ≤ columns ∨
          ∀ v ∈ m.get? "grid", v = .null ∨ v.members?.isSome = true) := by
  unfold frameRect
  split
  next hnone => exact Check.Ensures.done (iff_of_true (by simp) fun _ => Or.inr (by simp [hnone]))
  next hnull => exact Check.Ensures.done (iff_of_true (by simp) fun _ => Or.inr (by simp [hnull]))
  next v hnull hv =>
    refine Check.Ensures.bind (ensures_rect v _ wide) fun r hr => Check.Ensures.done ?_
    have hne : v ≠ .null := fun h => hnull h
    have hone : (∀ r' ∈ some r, r'.fits columns = true) ↔ r.fits columns = true := by simp
    rw [hone, hr, hv]
    simp [hne]

/-- A frame is usable when its rectangle is a record, or there is none. -/
theorem framed_iff {f : Members} (h : m.get? "frame" = some (.object f)) :
    framed m = true ↔ ∀ v ∈ f.get? "grid", v = .null ∨ v.members?.isSome = true := by
  rw [framed, h]
  show (match f.get? "grid" with
    | none | some .null | some (.object _) => true
    | some _ => false) = true ↔ _
  cases f.get? "grid" with
  | none => simp
  | some v => cases v <;> simp [Value.members?]

/-- Without a usable frame only the width of the grid can help. -/
theorem wellFormed_repairFrame {columns : UInt32} (bare : framed m = false)
    (safe : o.isSafe = true) :
    Frame.WellFormed columns ⟨some repairRect, none⟩ ↔
      (o.isSafe = true → repairRect.w ≤ columns ∨ framed m = true) := by
  rw [bare]
  constructor
  · intro h _
    exact Or.inl ((fits_repairRect columns).mp (h.fits repairRect rfl))
  · intro h
    refine ⟨?_, nofun⟩
    intro r hr
    cases hr
    exact (fits_repairRect columns).mpr ((h safe).resolve_right nofun)

/-- A frame is well formed exactly when it was usable or the grid is wide
enough. -/
theorem ensures_frame (path : Path) {columns : UInt32} (wide : o.isSafe = true → 1 ≤ columns) :
    (frame o m path columns).Ensures fun f =>
      f.WellFormed columns ↔
        (o.isSafe = true → repairRect.w ≤ columns ∨ framed m = true) := by
  unfold frame
  dsimp only
  split
  next f hf =>
    refine Check.Ensures.bind (ensures_frameRect _ wide) fun g hg => Check.Ensures.done ?_
    rw [framed_iff hf, ← hg]
    exact ⟨fun h => h.fits, fun h => ⟨h, kept_ne_null f "freeform"⟩⟩
  next hf => exact Check.Ensures.assume (wellFormed_repairFrame (by rw [framed, hf]))
  next hf => exact Check.Ensures.assume (wellFormed_repairFrame (by rw [framed, hf]))
  next v hobj hnull hv =>
    refine Check.Ensures.assume (wellFormed_repairFrame ?_)
    rw [framed, hv]
    cases v with
    | object f => exact absurd rfl (hobj f)
    | _ => rfl

/-! ## §5. Panels. -/

/-- A panel is well formed exactly when it has room, for all else is mended. -/
theorem ensures_panel (v : Value) (path : Path) {columns : UInt32}
    (wide : o.isSafe = true → 1 ≤ columns) :
    (panel o now v path columns).Ensures fun p =>
      p.WellFormed o.Accepts columns ↔ PanelRoom o columns v := by
  unfold panel
  refine Check.Ensures.bind (ensures_object v path _) fun m hm => ?_
  refine Check.Ensures.bind (ensures_requiredText "id") fun id hid => ?_
  refine Check.Ensures.bind ensures_widget fun widgetId hwidget => ?_
  refine Check.Ensures.bind (ensures_any _) fun title _ => ?_
  refine Check.Ensures.bind (ensures_any _) fun dataSpec _ => ?_
  refine Check.Ensures.bind (ensures_any _) fun viewSpec _ => ?_
  refine Check.Ensures.bind (ensures_frame path wide) fun frame hframe => ?_
  refine Check.Ensures.bind (ensures_any _) fun locked _ => ?_
  refine Check.Ensures.bind (ensures_any _) fun pinned _ => ?_
  refine Check.Ensures.bind (ensures_any _) fun guarded _ => ?_
  refine Check.Ensures.bind (ensures_timestamp "createdAt") fun createdAt hcreated => ?_
  refine Check.Ensures.bind (ensures_timestamp "updatedAt") fun updatedAt hupdated => ?_
  refine Check.Ensures.done ?_
  subst hm
  show _ ↔ (o.isSafe = true → repairRect.w ≤ columns ∨ framed m = true)
  rw [← hframe]
  exact ⟨fun h => h.frame, fun h => ⟨hid, hwidget, h, hcreated, hupdated⟩⟩

/-- The panels of a list, with ids that were not seen before. -/
theorem ensures_panels (path : Path) {columns : UInt32} (wide : o.isSafe = true → 1 ≤ columns)
    (items : List Value) (i : Nat) (seen : List String) :
    (panels o now path columns i seen items).Ensures fun ps =>
      ((∀ p ∈ ps, p.WellFormed o.Accepts columns) ↔ ∀ v ∈ items, PanelRoom o columns v) ∧
        FreshIds Panel.id seen ps := by
  induction items generalizing i seen with
  | nil => exact Check.Ensures.done ⟨by simp, .nil⟩
  | cons v rest ih =>
      unfold panels
      refine Check.Ensures.bind (ensures_panel v _ wide) fun p hp => ?_
      split
      next => exact Check.Ensures.fail _ _
      next hseen =>
        refine Check.Ensures.bind (ih (i + 1) (p.id :: seen)) fun ps hps => Check.Ensures.done ?_
        obtain ⟨hroom, hfresh⟩ := hps
        refine ⟨?_, FreshIds.cons_iff.mpr ⟨by simpa using hseen, hfresh⟩⟩
        rw [List.forall_mem_cons, List.forall_mem_cons, hp, hroom]

/-! ## §6. Layouts and pages. -/

theorem ensures_panelList (path : Path) {columns : UInt32}
    (wide : o.isSafe = true → 1 ≤ columns) :
    (panelList o now m path columns).Ensures fun ps =>
      ((∀ p ∈ ps, p.WellFormed o.Accepts columns) ↔
        ∀ v ∈ itemsUnder "panels" (.object m), PanelRoom o columns v) ∧
        (ps.map (·.id)).Nodup := by
  have get : (Value.object m).get? "panels" = m.get? "panels" := rfl
  unfold panelList
  dsimp only
  split
  next items hitems =>
    have hunder : itemsUnder "panels" (.object m) = items := by
      rw [itemsUnder, get, hitems]
      rfl
    rw [hunder]
    exact (ensures_panels _ wide items 0 []).mono fun ps h => ⟨h.1, h.2.distinct⟩
  next hnone =>
    refine Check.Ensures.assume fun _ => ⟨?_, by simp⟩
    rw [itemsUnder, get, hnone]
    simp
  next hnull =>
    refine Check.Ensures.assume fun _ => ⟨?_, by simp⟩
    rw [itemsUnder, get, hnull]
    simp [Value.items?]
  next => exact Check.Ensures.fail _ _

/-- A layout is well formed exactly when its panels have room on its own grid. -/
theorem ensures_layout (v : Value) (path : Path)
    (wide : o.isSafe = true → 1 ≤ o.gridDefaults.columns) :
    (layout o now v path).Ensures fun l =>
      l.WellFormed o.Accepts o.gridDefaults ↔ LayoutRoom o v := by
  unfold layout
  refine Check.Ensures.bind (ensures_object v path _) fun m hm => ?_
  refine Check.Ensures.bind (ensures_any _) fun kind _ => ?_
  refine Check.Ensures.bind ensures_gridSpec fun g hg => ?_
  obtain ⟨hspec, husable⟩ := hg
  -- a page's own grid has a column, whatever the standard one has
  have hwide : o.isSafe = true → 1 ≤ (g.getD o.gridDefaults).columns := by
    cases g with
    | none => exact wide
    | some s => exact fun _ => (husable s rfl).columns
  refine Check.Ensures.bind (ensures_panelList path hwide) fun ps hps => Check.Ensures.done ?_
  obtain ⟨hroom, hnodup⟩ := hps
  subst hm
  have hcolumns : columnsOf o (.object m) = (g.getD o.gridDefaults).columns := by
    rw [hspec]
    rfl
  rw [LayoutRoom, hcolumns, ← hroom]
  constructor
  · intro h
    exact h.panels.each
  · intro h
    exact ⟨husable, ⟨h, hnodup⟩, kept_ne_null m "freeformSpec", kept_ne_null m "splitSpec"⟩

/-- A page without a title takes its id for one. -/
theorem ensures_pageTitle {id : String} (hid : Text.Filled id) :
    (pageTitle o m id path).Ensures Text.Filled := by
  unfold pageTitle
  split
  next s hs => exact Check.Ensures.done (filled_of_filledText? hs)
  next => exact Check.Ensures.mend fun _ => hid

/-- A page is well formed exactly when its layout has room. -/
theorem ensures_page (v : Value) (path : Path)
    (wide : o.isSafe = true → 1 ≤ o.gridDefaults.columns) :
    (page o now v path).Ensures fun p =>
      Text.Filled p.id ∧ (p.WellFormed o.Accepts o.gridDefaults ↔
        ∀ layout ∈ v.get? "layout", LayoutRoom o layout) := by
  unfold page
  refine Check.Ensures.bind (ensures_object v path _) fun m hm => ?_
  refine Check.Ensures.bind (ensures_requiredText "id") fun id hid => ?_
  refine Check.Ensures.bind (ensures_pageTitle hid) fun title htitle => ?_
  subst hm
  have get : (Value.object m).get? "layout" = m.get? "layout" := rfl
  split
  next => exact Check.Ensures.fail _ _
  next v hv =>
    refine Check.Ensures.bind (ensures_layout v _ wide) fun l hl => Check.Ensures.done ?_
    refine ⟨hid, ?_⟩
    rw [get, hv]
    constructor
    · intro h layout hlayout
      cases hlayout
      exact hl.mp h.layout
    · intro h
      exact ⟨hid, htitle, hl.mpr (h v rfl)⟩

theorem ensures_pages (path : Path) (wide : o.isSafe = true → 1 ≤ o.gridDefaults.columns)
    (items : List Value) (i : Nat) (seen : List String) :
    (pages o now path i seen items).Ensures fun ps =>
      ((∀ p ∈ ps, p.WellFormed o.Accepts o.gridDefaults) ↔
        ∀ page ∈ items, ∀ layout ∈ page.get? "layout", LayoutRoom o layout) ∧
        FreshIds Page.id seen ps ∧ (∀ p ∈ ps, Text.Filled p.id) ∧ (items ≠ [] → ps ≠ []) := by
  induction items generalizing i seen with
  | nil => exact Check.Ensures.done ⟨by simp, .nil, by simp, by simp⟩
  | cons v rest ih =>
      unfold pages
      refine Check.Ensures.bind (ensures_page v _ wide) fun p hp => ?_
      split
      next => exact Check.Ensures.fail _ _
      next hseen =>
        refine Check.Ensures.bind (ih (i + 1) (p.id :: seen)) fun ps hps => Check.Ensures.done ?_
        obtain ⟨hroom, hfresh, hfilled, -⟩ := hps
        refine ⟨?_, FreshIds.cons_iff.mpr ⟨by simpa using hseen, hfresh⟩, ?_, by simp⟩
        · rw [List.forall_mem_cons, List.forall_mem_cons, hp.2, hroom]
        · rw [List.forall_mem_cons]
          exact ⟨hp.1, hfilled⟩

/-! ## §7. Documents. -/

/-- The pages of a document, at least one, exactly as well formed as its data
is roomy. -/
theorem ensures_pageList (path : Path) (wide : o.isSafe = true → 1 ≤ o.gridDefaults.columns) :
    (pageList o now m path).Ensures fun ps =>
      ((∀ p ∈ ps, p.WellFormed o.Accepts o.gridDefaults) ↔ Roomy o (.object m)) ∧
        (ps.map (·.id)).Nodup ∧ (∀ p ∈ ps, Text.Filled p.id) ∧ ps ≠ [] := by
  unfold pageList
  dsimp only
  split
  next => exact Check.Ensures.fail _ _
  next => exact Check.Ensures.fail _ _
  next items hne hitems =>
    have hunder : itemsUnder "pages" (.object m) = items := by
      show ((m.get? "pages").bind Value.items?).getD [] = items
      rw [hitems]
      rfl
    rw [Roomy, hunder]
    refine (ensures_pages _ wide items 0 []).mono fun ps h => ?_
    exact ⟨h.1, h.2.1.distinct, h.2.2.1, h.2.2.2 hne⟩

/-- No accepted document is newer than this library. -/
theorem ensures_version : (version m path).Ensures fun n => n ≤ schemaVersion := by
  unfold version
  split
  next => exact Check.Ensures.fail _ _
  next v hv =>
    split
    next => exact Check.Ensures.fail _ _
    next n hn =>
      refine Check.Ensures.ite (fun _ => Check.Ensures.error _) fun hlt => ?_
      refine Check.Ensures.done ?_
      have hsmall : n ≤ schemaVersion.toNat := Nat.not_lt.mp hlt
      have hword : n < 0x100000000 := Nat.lt_of_le_of_lt hsmall schemaVersion.toNat_lt
      rw [UInt32.le_iff_toNat_le, UInt32.toNat_ofNat_of_lt' hword]
      exact hsmall

/-- The first page stands in for a missing default page. -/
theorem ensures_defaultPageId {ps : List Page} (hne : ps ≠ [])
    (hfilled : ∀ p ∈ ps, Text.Filled p.id) :
    (Validation.defaultPageId o m ps path).Ensures Text.Filled := by
  unfold Validation.defaultPageId
  split
  next s hs => exact Check.Ensures.done (filled_of_filledText? hs)
  next =>
    refine Check.Ensures.mend fun _ => ?_
    cases ps with
    | nil => exact absurd rfl hne
    | cons p rest => exact hfilled p List.mem_cons_self

/-- The whole document: nothing but room can be wanting. -/
theorem ensures_workspace (v : Value) (wide : o.isSafe = true → 1 ≤ o.gridDefaults.columns) :
    (workspace o now v).Ensures fun w => w.ValidFor o ↔ Roomy o v := by
  unfold workspace
  dsimp only
  refine Check.Ensures.bind (ensures_object v _ _) fun m hm => ?_
  refine Check.Ensures.bind ensures_version fun n hn => ?_
  refine Check.Ensures.bind (ensures_requiredText "id") fun id hid => ?_
  refine Check.Ensures.bind (ensures_requiredText "name") fun name hname => ?_
  refine Check.Ensures.bind (ensures_pageList _ wide) fun ps hps => ?_
  obtain ⟨hroom, hnodup, hfilled, hne⟩ := hps
  refine Check.Ensures.bind (ensures_defaultPageId hne hfilled) fun dflt hdflt => ?_
  refine Check.Ensures.bind (ensures_timestamp "createdAt") fun createdAt hcreated => ?_
  refine Check.Ensures.bind (ensures_timestamp "updatedAt") fun updatedAt hupdated => ?_
  refine Check.Ensures.done ?_
  subst hm
  rw [← hroom]
  constructor
  · intro h
    exact h.pages
  · intro h
    exact ⟨hn, hid, hname, hdflt, hne, h, hnodup, hcreated, hupdated⟩

end Validation

/-! ## §8. Entry points. -/

theorem validate_eq_ok {o : ValidationOptions} {now : Instant} {v : Value} {r : Validated}
    (h : validate o now v = .ok r) :
    ∃ ws, Validation.workspace o now v = .ok (r.workspace, ws) ∧
      r.warnings = ws.map Warning.message := by
  unfold validate at h
  cases hw : Validation.workspace o now v with
  | error e => rw [hw] at h; cases h
  | ok res =>
      rw [hw] at h
      cases h
      exact ⟨res.2, rfl, rfl⟩

/-- **An accepted document is well formed exactly when its data is roomy.** -/
theorem validate_validFor_iff {o : ValidationOptions} {now : Instant} {v : Value} {r : Validated}
    (wide : o.isSafe = true → 1 ≤ o.gridDefaults.columns) (h : validate o now v = .ok r) :
    r.workspace.ValidFor o ↔ Validation.Roomy o v := by
  obtain ⟨ws, hw, -⟩ := validate_eq_ok h
  exact Validation.ensures_workspace v wide r.workspace ws hw

end Dashboard
