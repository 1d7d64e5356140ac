/-
  Dashboard.Proofs.Document.Completion
  ────────────────────────────────────
  **DATA WITH ALL THE PARTS THAT SAFE MODE WOULD ASSUME.**

  In safe mode there are five parts that a document may lack without a
  warning: the kind and the panels of a layout, and the three records of a
  panel.  A part that is null counts as lacking.  `Complete` says on the JSON
  data that none is lacking, and `completed` writes the standard values where
  one is.  `WellTyped` says that a kind that is there is a text, and that the
  records that are there are records.

  Main results:
    completed_of_complete — complete data stays as it is
    complete_workspace    — strict mode accepts nothing else
-/
import Dashboard.Proofs.Document.Check
import Dashboard.Proofs.Document.Soundness
import Dashboard.Proofs.Keyed

namespace Dashboard

open Grid Json Time

/-! ## §1. Complete data. -/

namespace Validation

/-- What counts as there: anything but null. -/
def isGiven (v : Value) : Bool := !v.isNull

/-- The three records of a panel's data are there. -/
def PanelComplete (panel : Value) : Prop :=
  ∀ key ∈ ["dataSpec", "viewSpec", "frame"], (panel.get? key).any isGiven = true

/-- A layout's data has a kind and panels, and these are complete. -/
def LayoutComplete (layout : Value) : Prop :=
  (layout.get? "kind").any isGiven = true ∧ (layout.get? "panels").any isGiven = true ∧
    ∀ panel ∈ itemsUnder "panels" layout, PanelComplete panel

/-- Every layout of a document's data is complete. -/
def Complete (v : Value) : Prop :=
  ∀ page ∈ itemsUnder "pages" v, ∀ layout ∈ page.get? "layout", LayoutComplete layout

/-- An object. -/
def isRecord (v : Value) : Bool := v.members?.isSome

/-- A text. -/
def isText (v : Value) : Bool := v.text?.isSome

/-- The records of a panel's data that are there are records. -/
def PanelTyped (panel : Value) : Prop :=
  ∀ key ∈ ["dataSpec", "viewSpec", "frame"], ((panel.get? key).filter isGiven).all isRecord = true

/-- A layout's kind is a text if it is there, and its panels are well typed. -/
def LayoutTyped (layout : Value) : Prop :=
  ((layout.get? "kind").filter isGiven).all isText = true ∧
    ∀ panel ∈ itemsUnder "panels" layout, PanelTyped panel

/-- Every layout of a document's data is well typed. -/
def WellTyped (v : Value) : Prop :=
  ∀ page ∈ itemsUnder "pages" v, ∀ layout ∈ page.get? "layout", LayoutTyped layout

/-- A panel's data has a frame, or the grid is wide enough for the standard one. -/
def PanelFits (columns : UInt32) (panel : Value) : Prop :=
  (panel.get? "frame").any isGiven = true ∨ repairRect.w ≤ columns

/-- Every panel of a layout's data fits that way. -/
def LayoutFits (o : ValidationOptions) (layout : Value) : Prop :=
  ∀ panel ∈ itemsUnder "panels" layout, PanelFits (columnsOf o layout) panel

/-- Every standard frame has room on its page. -/
def FramesFit (o : ValidationOptions) (v : Value) : Prop :=
  ∀ page ∈ itemsUnder "pages" v, ∀ layout ∈ page.get? "layout", LayoutFits o layout

instance : DecidablePred PanelComplete := fun panel => inferInstanceAs
  (Decidable (∀ key ∈ ["dataSpec", "viewSpec", "frame"], (panel.get? key).any isGiven = true))

instance : DecidablePred LayoutComplete := fun layout => inferInstanceAs
  (Decidable ((layout.get? "kind").any isGiven = true ∧ (layout.get? "panels").any isGiven = true ∧
    ∀ panel ∈ itemsUnder "panels" layout, PanelComplete panel))

instance : DecidablePred Complete := fun v => inferInstanceAs
  (Decidable (∀ page ∈ itemsUnder "pages" v, ∀ layout ∈ page.get? "layout", LayoutComplete layout))

instance : DecidablePred PanelTyped := fun panel => inferInstanceAs (Decidable (∀ key ∈
  ["dataSpec", "viewSpec", "frame"], ((panel.get? key).filter isGiven).all isRecord = true))

instance : DecidablePred LayoutTyped := fun layout => inferInstanceAs
  (Decidable (((layout.get? "kind").filter isGiven).all isText = true ∧
    ∀ panel ∈ itemsUnder "panels" layout, PanelTyped panel))

instance : DecidablePred WellTyped := fun v => inferInstanceAs
  (Decidable (∀ page ∈ itemsUnder "pages" v, ∀ layout ∈ page.get? "layout", LayoutTyped layout))

instance (columns : UInt32) : DecidablePred (PanelFits columns) := fun panel => inferInstanceAs
  (Decidable ((panel.get? "frame").any isGiven = true ∨ repairRect.w ≤ columns))

instance (o : ValidationOptions) : DecidablePred (LayoutFits o) := fun layout => inferInstanceAs
  (Decidable (∀ panel ∈ itemsUnder "panels" layout, PanelFits (columnsOf o layout) panel))

instance (o : ValidationOptions) : DecidablePred (FramesFit o) := fun v => inferInstanceAs
  (Decidable (∀ page ∈ itemsUnder "pages" v, ∀ layout ∈ page.get? "layout", LayoutFits o layout))

/-- Complete data has its own frames. -/
theorem Complete.framesFit {v : Value} (h : Complete v) (o : ValidationOptions) :
    FramesFit o v := by
  intro page hpage layout hlayout panel hpanel
  exact Or.inl ((h page hpage layout hlayout).2.2 panel hpanel "frame" (by decide))

/-! ## §2. Completed data. -/

/-- Members with a standard value under a key, unless there is a value already. -/
def supplied (key : String) (standard : Value) (m : Members) : Members :=
  if (Keyed.get? key m).any isGiven then m else Keyed.insert key standard m

/-- Under the key stands what was given, or else the standard value. -/
theorem get?_supplied {key : String} {standard : Value} {m : Members} :
    Keyed.get? key (supplied key standard m)
      = some (((Keyed.get? key m).filter isGiven).getD standard) := by
  unfold supplied
  cases hv : Keyed.get? key m with
  | none => exact (Keyed.get?_insert _ _ _ _).trans (if_pos rfl)
  | some v =>
      rw [Option.any_some]
      split
      next hgiven => rw [hv, Option.filter_some, if_pos hgiven, Option.getD_some]
      next hgiven =>
        rw [Keyed.get?_insert, if_pos rfl, Option.filter_some, if_neg hgiven, Option.getD_none]

/-- The other members stay. -/
theorem get?_supplied_of_ne {key k : String} (hk : key ≠ k) {standard : Value} {m : Members} :
    Keyed.get? k (supplied key standard m) = Keyed.get? k m := by
  unfold supplied
  split
  · rfl
  · exact (Keyed.get?_insert _ _ _ _).trans (if_neg hk)

/-- A value that is there is not replaced. -/
theorem supplied_of_given {key : String} {m : Members}
    (h : (Keyed.get? key m).any isGiven = true) (standard : Value) :
    supplied key standard m = m := if_pos h

/-- The same change on each item of a list. -/
def onItems (f : Value → Value) : Value → Value
  | .list items => .list (items.map f)
  | v => v

/-- The frame of a panel that has none. -/
def standardFrame : Frame := ⟨some repairRect, none⟩

/-- The members of a panel with its three records. -/
def panelSupplied (m : Members) : Members :=
  supplied "frame" (standardFrame.encode .inKeyOrder)
    (supplied "viewSpec" (.object (viewSpecFor placeholderWidget))
      (supplied "dataSpec" (.object (dataSpecFor placeholderWidget)) m))

/-- The data of a panel with its three records. -/
def completedPanel : Value → Value
  | .object m => .object (panelSupplied m)
  | v => v

/-- The members of a layout with a kind and panels. -/
def layoutSupplied (m : Members) : Members :=
  supplied "panels" (.list []) (supplied "kind" (.text LayoutKind.grid.name) m)

/-- The data of a layout with both, its panels completed. -/
def completedLayout : Value → Value
  | .object m => .object (Keyed.modify "panels" (onItems completedPanel) (layoutSupplied m))
  | v => v

/-- The data of a page with its layout completed. -/
def completedPage : Value → Value
  | .object m => .object (Keyed.modify "layout" completedLayout m)
  | v => v

/-- The data of a document with every layout completed. -/
def completed : Value → Value
  | .object m => .object (Keyed.modify "pages" (onItems completedPage) m)
  | v => v

/-- The items of the list under a key. -/
theorem mem_itemsUnder {key : String} {m : Members} {v item : Value}
    (hv : Keyed.get? key m = some v) (h : item ∈ v.items?.getD []) :
    item ∈ itemsUnder key (.object m) := by
  show item ∈ ((Keyed.get? key m).bind Value.items?).getD []
  rw [hv]
  exact h

/-- A change that leaves each item leaves the list. -/
theorem onItems_of_fixed {f : Value → Value} {v : Value}
    (h : ∀ item ∈ v.items?.getD [], f item = item) : onItems f v = v := by
  cases v with
  | list items =>
      have hfixed : ∀ item ∈ items, f item = id item := h
      show Value.list (items.map f) = Value.list items
      rw [List.map_congr_left hfixed, List.map_id]
  | _ => rfl

/-- A complete panel is not changed. -/
theorem completedPanel_of_complete {panel : Value} (h : PanelComplete panel) :
    completedPanel panel = panel := by
  cases panel with
  | object m =>
      have given : ∀ key ∈ ["dataSpec", "viewSpec", "frame"],
          (Keyed.get? key m).any isGiven = true := h
      show Value.object (panelSupplied m) = .object m
      rw [panelSupplied, supplied_of_given (given "dataSpec" (by decide)),
        supplied_of_given (given "viewSpec" (by decide)),
        supplied_of_given (given "frame" (by decide))]
  | _ => rfl

/-- A complete layout is not changed, nor are its panels. -/
theorem completedLayout_of_complete {layout : Value} (h : LayoutComplete layout) :
    completedLayout layout = layout := by
  cases layout with
  | object m =>
      obtain ⟨hkind, hgiven, hpanels⟩ := h
      have hkind : (Keyed.get? "kind" m).any isGiven = true := hkind
      have hgiven : (Keyed.get? "panels" m).any isGiven = true := hgiven
      show Value.object (Keyed.modify _ _ (layoutSupplied m)) = .object m
      rw [layoutSupplied, supplied_of_given hkind, supplied_of_given hgiven,
        Keyed.modify_of_fixed]
      intro v hv
      exact onItems_of_fixed fun panel hpanel =>
        completedPanel_of_complete (hpanels panel (mem_itemsUnder hv hpanel))
  | _ => rfl

/-- Complete data is not changed. -/
theorem completed_of_complete {v : Value} (h : Complete v) : completed v = v := by
  cases v with
  | object m =>
      show Value.object (Keyed.modify _ _ m) = .object m
      rw [Keyed.modify_of_fixed]
      intro w hw
      refine onItems_of_fixed fun page hpage => ?_
      have hlayouts : ∀ layout ∈ page.get? "layout", LayoutComplete layout :=
        h page (mem_itemsUnder hw hpage)
      cases page with
      | object p =>
          show Value.object (Keyed.modify _ _ p) = .object p
          rw [Keyed.modify_of_fixed fun layout hlayout =>
            completedLayout_of_complete (hlayouts layout hlayout)]
      | _ => rfl
  | _ => rfl

/-! ## §3. Strict mode only accepts complete data. -/

variable (o : ValidationOptions) (t : Instant) {m : Members} (path : Path)

/-- Strict mode asks for the specification. -/
theorem given_spec (key : String) (standard : Members) :
    (spec (o.inMode .strict) m key path standard).Ensures fun _ =>
      (Keyed.get? key m).any isGiven = true := by
  unfold spec
  split
  next hs => exact Check.Ensures.done (by rw [hs]; rfl)
  next => exact Check.Ensures.assume nofun
  next => exact Check.Ensures.assume nofun
  next => exact Check.Ensures.assume nofun

/-- Strict mode asks for the frame. -/
theorem given_frame (columns : UInt32) :
    (frame (o.inMode .strict) m path columns).Ensures fun _ =>
      (Keyed.get? "frame" m).any isGiven = true := by
  unfold frame
  dsimp only
  split
  next hf =>
    exact Check.Ensures.bind (ensures_any _) fun _ _ => Check.Ensures.done (by rw [hf]; rfl)
  next => exact Check.Ensures.assume nofun
  next => exact Check.Ensures.assume nofun
  next => exact Check.Ensures.assume nofun

/-- Strict mode accepts only complete panels. -/
theorem complete_panel (v : Value) (columns : UInt32) :
    (panel (o.inMode .strict) t v path columns).Ensures fun _ => PanelComplete v := by
  unfold panel
  refine Check.Ensures.bind (ensures_object v path _) fun m hm => ?_
  refine Check.Ensures.bind (ensures_any _) fun id _ => ?_
  refine Check.Ensures.bind (ensures_any _) fun widgetId _ => ?_
  refine Check.Ensures.bind (ensures_any _) fun title _ => ?_
  refine Check.Ensures.bind (given_spec o path "dataSpec" _) fun dataSpec hdata => ?_
  refine Check.Ensures.bind (given_spec o path "viewSpec" _) fun viewSpec hview => ?_
  refine Check.Ensures.bind (given_frame o path columns) fun frame hframe => ?_
  -- whatever comes after the records, they are there
  refine Check.Ensures.mono (P := fun _ => True) (ensures_any _) fun _ _ => ?_
  subst hm
  simp only [PanelComplete, List.forall_mem_cons]
  exact ⟨hdata, hview, hframe, nofun⟩

/-- By induction on the panels. -/
theorem complete_panels (columns : UInt32) (items : List Value) (i : Nat) (seen : List String) :
    (panels (o.inMode .strict) t path columns i seen items).Ensures fun _ =>
      ∀ panel ∈ items, PanelComplete panel := by
  induction items generalizing i seen with
  | nil => exact Check.Ensures.done nofun
  | cons v rest ih =>
      unfold panels
      refine Check.Ensures.bind (complete_panel o t _ v columns) fun p hv => ?_
      split
      next => exact Check.Ensures.fail _ _
      next =>
        refine Check.Ensures.bind (ih (i + 1) (p.id :: seen)) fun ps hrest => ?_
        exact Check.Ensures.done (List.forall_mem_cons.mpr ⟨hv, hrest⟩)

/-- Strict mode asks for a kind, which is a text. -/
theorem given_kind :
    (kind (o.inMode .strict) m path).Ensures fun _ => (Keyed.get? "kind" m).any isGiven = true := by
  unfold kind
  split
  next s hs =>
    obtain ⟨v, hv, htext⟩ := Option.bind_eq_some_iff.mp hs
    refine Check.Ensures.mono (P := fun _ => True) (ensures_any _) fun _ _ => ?_
    rw [hv]
    cases v with
    | text s => rfl
    | _ => cases htext
  next => exact Check.Ensures.assume nofun

theorem complete_panelList (columns : UInt32) :
    (panelList (o.inMode .strict) t m path columns).Ensures fun _ =>
      (Keyed.get? "panels" m).any isGiven = true ∧
        ∀ panel ∈ itemsUnder "panels" (.object m), PanelComplete panel := by
  unfold panelList
  dsimp only
  split
  next items hitems =>
    rw [itemsUnder_eq (by rw [hitems]; rfl)]
    exact (complete_panels o t _ columns items 0 []).mono fun _ h => ⟨by rw [hitems]; rfl, h⟩
  next => exact Check.Ensures.assume nofun
  next => exact Check.Ensures.assume nofun
  next => exact Check.Ensures.fail _ _

/-- Strict mode accepts only complete layouts. -/
theorem complete_layout (v : Value) :
    (layout (o.inMode .strict) t v path).Ensures fun _ => LayoutComplete v := by
  unfold layout
  refine Check.Ensures.bind (ensures_object v path _) fun m hm => ?_
  refine Check.Ensures.bind (given_kind o path) fun kind hkind => ?_
  refine Check.Ensures.bind (ensures_any _) fun g _ => ?_
  refine Check.Ensures.bind (complete_panelList o t path _) fun ps hps => ?_
  subst hm
  exact Check.Ensures.done ⟨hkind, hps⟩

theorem complete_page (v : Value) :
    (page (o.inMode .strict) t v path).Ensures fun _ =>
      ∀ layout ∈ v.get? "layout", LayoutComplete layout := by
  unfold page
  refine Check.Ensures.bind (ensures_object v path _) fun m hm => ?_
  refine Check.Ensures.bind (ensures_any _) fun id _ => ?_
  refine Check.Ensures.bind (ensures_any _) fun title _ => ?_
  subst hm
  have get : (Value.object m).get? "layout" = m.get? "layout" := rfl
  split
  next => exact Check.Ensures.fail _ _
  next v hv =>
    refine Check.Ensures.bind (complete_layout o t _ v) fun l hl => Check.Ensures.done ?_
    rw [get, hv]
    intro layout hlayout
    cases hlayout
    exact hl

/-- By induction on the pages. -/
theorem complete_pages (items : List Value) (i : Nat) (seen : List String) :
    (pages (o.inMode .strict) t path i seen items).Ensures fun _ =>
      ∀ page ∈ items, ∀ layout ∈ page.get? "layout", LayoutComplete layout := by
  induction items generalizing i seen with
  | nil => exact Check.Ensures.done nofun
  | cons v rest ih =>
      unfold pages
      refine Check.Ensures.bind (complete_page o t _ v) fun p hv => ?_
      split
      next => exact Check.Ensures.fail _ _
      next =>
        refine Check.Ensures.bind (ih (i + 1) (p.id :: seen)) fun ps hrest => ?_
        exact Check.Ensures.done (List.forall_mem_cons.mpr ⟨hv, hrest⟩)

theorem complete_pageList :
    (pageList (o.inMode .strict) t m path).Ensures fun _ => Complete (.object m) := by
  unfold pageList
  dsimp only
  split
  next => exact Check.Ensures.fail _ _
  next => exact Check.Ensures.fail _ _
  next items hne hitems =>
    rw [Complete, itemsUnder_eq hitems]
    exact complete_pages o t _ items 0 []

/-- **Strict mode accepts only complete documents.** -/
theorem complete_workspace (v : Value) :
    (workspace (o.inMode .strict) t v).Ensures fun _ => Complete v := by
  unfold workspace
  dsimp only
  refine Check.Ensures.bind (ensures_object v _ _) fun m hm => ?_
  refine Check.Ensures.bind (ensures_any _) fun n _ => ?_
  refine Check.Ensures.bind (ensures_any _) fun id _ => ?_
  refine Check.Ensures.bind (ensures_any _) fun name _ => ?_
  refine Check.Ensures.bind (complete_pageList o t _) fun ps hps => ?_
  refine Check.Ensures.mono (P := fun _ => True) (ensures_any _) fun _ _ => ?_
  subst hm
  exact hps

end Validation

end Dashboard
