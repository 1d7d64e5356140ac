/-
  Dashboard.Proofs.Document.Damage
  ────────────────────────────────
  **SAFE IMPORT LOSES NO PANEL TO DAMAGE.**

  `Damaged` relates a document's data to the same data after any number of its
  optional parts were removed or overwritten, and the widgets of panels
  exchanged.  The checks of the optional parts accept whatever they find in
  safe mode; what is left to refuse a document are the ids, the name, the
  version and the lists, which damage leaves alone.

  Main results:
    lenient_frame, …            — the checks that accept anything
    tolerates_panel, …          — the others, one record each
    damaged_import_keeps_panels — the whole document
-/
import Dashboard.Proofs.Document.Check
import Dashboard.Proofs.Document.Soundness
import Dashboard.Proofs.Keyed
import Mathlib.Data.List.Forall2
import Mathlib.Data.Option.Defs

namespace Dashboard

open Grid Json Time

/-! ## §1. Damage. -/

/-- Both values are objects or neither is, and their members agree except
under some keys. -/
structure AgreesApart (keys : List String) (v v' : Value) : Prop where
  object : v'.members?.isSome = v.members?.isSome
  others : ∀ k, k ∉ keys → v'.get? k = v.get? k

namespace AgreesApart

variable {keys : List String} {v v' v'' : Value} {m : Members} {key : String}

/-- Nothing is damaged. -/
theorem refl (keys : List String) (v : Value) : AgreesApart keys v v := ⟨rfl, fun _ _ => rfl⟩

/-- Damage upon damage. -/
theorem trans (h : AgreesApart keys v v') (h' : AgreesApart keys v' v'') :
    AgreesApart keys v v'' :=
  ⟨h'.object.trans h.object, fun k hk => (h'.others k hk).trans (h.others k hk)⟩

/-- A member overwritten or added. -/
theorem insert (m : Members) (hkey : key ∈ keys) (w : Value) :
    AgreesApart keys (.object m) (.object (m.insert key w)) := by
  refine ⟨rfl, fun k hk => ?_⟩
  have hne : key ≠ k := fun heq => hk (heq ▸ hkey)
  exact (Keyed.get?_insert key k w m).trans (if_neg hne)

/-- A member removed. -/
theorem erase (m : Members) (hkey : key ∈ keys) :
    AgreesApart keys (.object m) (.object (m.erase key)) := by
  refine ⟨rfl, fun k hk => ?_⟩
  have hne : k ≠ key := fun heq => hk (heq ▸ hkey)
  exact Keyed.get?_erase_of_ne hne m

/-- An object only agrees with objects. -/
theorem members (h : AgreesApart keys (.object m) v') :
    ∃ m', v' = .object m' ∧ ∀ k, k ∉ keys → Keyed.get? k m' = Keyed.get? k m := by
  cases v' with
  | object m' => exact ⟨m', rfl, h.others⟩
  | _ => cases h.object

end AgreesApart

/-- Two lists of one length, damaged item by item; anything else stays as it is. -/
inductive ItemsDamaged (R : Value → Value → Prop) : Option Value → Option Value → Prop
  | same (v : Option Value) : ItemsDamaged R v v
  | items {xs ys : List Value} (h : List.Forall₂ R xs ys) :
    ItemsDamaged R (some (.list xs)) (some (.list ys))

/-- A panel whose optional parts are damaged and whose widget may be another one. -/
structure PanelDamaged (v v' : Value) : Prop extends
    AgreesApart ["widgetId", "title", "dataSpec", "viewSpec", "frame", "locked", "pinned",
      "protected", "createdAt", "updatedAt"] v v' where
  widget : v'.get? "widgetId" = v.get? "widgetId" ∨
    ∃ s, Text.Filled s ∧ v'.get? "widgetId" = some (.text s)

/-- A layout whose optional parts are damaged, and its panels. -/
structure LayoutDamaged (v v' : Value) : Prop extends
    AgreesApart ["kind", "gridSpec", "freeformSpec", "splitSpec", "panels"] v v' where
  panels : ItemsDamaged PanelDamaged (v.get? "panels") (v'.get? "panels")

/-- A page whose title is damaged, and its layout. -/
structure PageDamaged (v v' : Value) : Prop extends AgreesApart ["title", "layout"] v v' where
  layout : Option.Rel LayoutDamaged (v.get? "layout") (v'.get? "layout")

/-- A document whose optional parts are damaged, and its pages. -/
structure Damaged (v v' : Value) : Prop extends
    AgreesApart ["defaultPageId", "createdAt", "updatedAt", "pages"] v v' where
  pages : ItemsDamaged PageDamaged (v.get? "pages") (v'.get? "pages")

/-- A panel without damage. -/
theorem PanelDamaged.refl (v : Value) : PanelDamaged v v := ⟨.refl _ v, Or.inl rfl⟩

/-- A layout without damage. -/
theorem LayoutDamaged.refl (v : Value) : LayoutDamaged v v := ⟨.refl _ v, .same _⟩

/-- A page without damage. -/
theorem PageDamaged.refl (v : Value) : PageDamaged v v := by
  refine ⟨.refl _ v, ?_⟩
  cases v.get? "layout" with
  | none => exact .none
  | some l => exact .some (.refl l)

/-- Damaged lists are lists of damaged items. -/
theorem ItemsDamaged.forall₂ {R : Value → Value → Prop} (hR : ∀ v, R v v) {xs : List Value}
    {w : Option Value} (h : ItemsDamaged R (some (.list xs)) w) :
    ∃ ys, w = some (.list ys) ∧ List.Forall₂ R xs ys := by
  cases h with
  | same => exact ⟨xs, rfl, List.forall₂_same.mpr fun v _ => hR v⟩
  | items h => exact ⟨_, rfl, h⟩

namespace Validation

variable (o : ValidationOptions) (t t' : Instant) (m : Members) (path : Path)

/-! ## §2. Checks that accept anything. -/

/-- Whatever stands for a timestamp, the clock can take its place. -/
theorem lenient_timestamp (key : String) :
    (timestamp (o.inMode .safe) t m key path).Lenient := by
  unfold timestamp
  split
  · exact Check.Lenient.done _
  · exact Check.Lenient.done _
  · split
    · exact Check.Lenient.done _
    · exact Check.Lenient.mend rfl _ _ _ _
  · exact Check.Lenient.mend rfl _ _ _ _

/-- Whatever stands for a flag, it can be off. -/
theorem lenient_flag (key : String) : (flag (o.inMode .safe) m key path).Lenient := by
  unfold flag
  split
  · exact Check.Lenient.done _
  · exact Check.Lenient.done _
  · exact Check.Lenient.done _
  · exact Check.Lenient.mend rfl _ _ _ _

/-- Whatever stands for a spec, the placeholder's can take its place. -/
theorem lenient_spec (key : String) (standard : Members) :
    (spec (o.inMode .safe) m key path standard).Lenient := by
  unfold spec
  split
  · exact Check.Lenient.done _
  · exact Check.Lenient.assume rfl _ _ _
  · exact Check.Lenient.assume rfl _ _ _
  · exact Check.Lenient.assume rfl _ _ _

theorem lenient_cell (key : String) (standard : UInt32) :
    (cell (o.inMode .safe) m key path standard).Lenient := by
  unfold cell
  split
  · exact Check.Lenient.done _
  · exact Check.Lenient.mend rfl _ _ _ _

/-- On a grid of any width: what does not fit is clamped. -/
theorem lenient_rect (v : Value) (columns : UInt32) :
    (rect (o.inMode .safe) v path columns).Lenient := by
  unfold rect
  split
  · exact Check.Lenient.mend rfl _ _ _ _
  · refine Check.Lenient.bind (lenient_cell o _ path "x" _) fun x => ?_
    refine Check.Lenient.bind (lenient_cell o _ path "y" _) fun y => ?_
    refine Check.Lenient.bind (lenient_cell o _ path "w" _) fun w => ?_
    refine Check.Lenient.bind (lenient_cell o _ path "h" _) fun h => ?_
    dsimp only
    split
    · exact Check.Lenient.done _
    · exact Check.Lenient.repaired _ _ _

theorem lenient_frameRect (columns : UInt32) :
    (frameRect (o.inMode .safe) m path columns).Lenient := by
  unfold frameRect
  split
  · exact Check.Lenient.done _
  · exact Check.Lenient.done _
  · exact Check.Lenient.bind (lenient_rect o _ _ columns) fun r => Check.Lenient.done _

/-- Whatever stands for a frame, the standard one can take its place. -/
theorem lenient_frame (columns : UInt32) :
    (frame (o.inMode .safe) m path columns).Lenient := by
  unfold frame
  dsimp only
  split
  · exact Check.Lenient.bind (lenient_frameRect o _ _ columns) fun g => Check.Lenient.done _
  · exact Check.Lenient.assume rfl _ _ _
  · exact Check.Lenient.assume rfl _ _ _
  · exact Check.Lenient.assume rfl _ _ _

theorem lenient_panelTitle : (panelTitle (o.inMode .safe) m path).Lenient := by
  unfold panelTitle
  split
  · exact Check.Lenient.done _
  · exact Check.Lenient.done _
  · exact Check.Lenient.done _
  · exact Check.Lenient.mend rfl _ _ _ _

/-- Whatever stands for a kind, the layout can be a grid. -/
theorem lenient_kind : (kind (o.inMode .safe) m path).Lenient := by
  unfold kind
  split
  · split
    · exact Check.Lenient.done _
    · exact Check.Lenient.mend rfl _ _ _ _
  · exact Check.Lenient.assume rfl _ _ _

/-- A grid that is not usable is dropped. -/
theorem lenient_gridSpec : (Validation.gridSpec (o.inMode .safe) m path).Lenient := by
  unfold Validation.gridSpec
  split
  · exact Check.Lenient.done _
  · split
    · exact Check.Lenient.done _
    · exact Check.Lenient.mend rfl _ _ _ _

theorem lenient_pageTitle (id : String) :
    (pageTitle (o.inMode .safe) m id path).Lenient := by
  unfold pageTitle
  split
  · exact Check.Lenient.done _
  · exact Check.Lenient.mend rfl _ _ _ _

/-- The first page can be the default one. -/
theorem lenient_defaultPageId (ps : List Page) :
    (Validation.defaultPageId (o.inMode .safe) m ps path).Lenient := by
  unfold Validation.defaultPageId
  split
  · exact Check.Lenient.done _
  · exact Check.Lenient.mend rfl _ _ _ _

/-! ## §3. Panels. -/

theorem requiredText_congr {m m' : Members} {key : String} (h : m'.get? key = m.get? key) :
    requiredText m' key path = requiredText m key path := by
  rw [requiredText, requiredText, filledText?_congr h]

/-- Another widget is known or becomes the placeholder. -/
theorem tolerates_widget {m m' : Members} (h : m'.get? "widgetId" = m.get? "widgetId" ∨
      ∃ s, Text.Filled s ∧ m'.get? "widgetId" = some (.text s)) :
    Check.Tolerates (fun _ _ => True) (widget (o.inMode .safe) m path)
      (widget (o.inMode .safe) m' path) := by
  have anyway : ∀ id, (if (o.inMode .safe).knows id then Check.done id
      else (o.inMode .safe).mend (path.key "widgetId") (.unknownWidget id)
        (.widgetToPlaceholder id) placeholderWidget).Lenient := by
    intro id
    split
    · exact Check.Lenient.done _
    · exact Check.Lenient.mend rfl _ _ _ _
  unfold widget
  rcases h with h | ⟨s, hs, h⟩
  · rw [requiredText_congr path h]
    refine Check.Tolerates.bind_same fun id => ?_
    intro a ws _
    obtain ⟨b, ws', hb⟩ := anyway id
    exact ⟨b, ws', hb, trivial⟩
  · have hread : requiredText m' "widgetId" path = .done s := by
      rw [requiredText]
      simp only [filledText?, h, Option.bind_some, Value.text?, Option.filter_some]
      rw [if_pos]
      simpa [Text.Filled] using hs
    rw [hread, Check.done_bind]
    intro a ws _
    obtain ⟨b, ws', hb⟩ := anyway s
    exact ⟨b, ws', hb, trivial⟩

/-- A damaged panel is accepted on any grid, under its own id. -/
theorem tolerates_panel {v v' : Value} (h : PanelDamaged v v') (columns columns' : UInt32) :
    Check.Tolerates (fun p q => q.id = p.id) (panel (o.inMode .safe) t v path columns)
      (panel (o.inMode .safe) t' v' path columns') := by
  unfold panel
  cases v with
  | object m =>
      obtain ⟨m', rfl, hothers⟩ := h.members
      show Check.Tolerates _ (Check.done m >>= _) (Check.done m' >>= _)
      rw [Check.done_bind, Check.done_bind, requiredText_congr path (hothers "id" (by decide))]
      refine Check.Tolerates.bind_same fun id => ?_
      refine Check.Tolerates.bind (tolerates_widget o path h.widget) fun _ _ _ => ?_
      refine Check.Tolerates.bind_lenient (lenient_panelTitle o m' path) fun _ _ => ?_
      refine Check.Tolerates.bind_lenient (lenient_spec o m' path "dataSpec" _) fun _ _ => ?_
      refine Check.Tolerates.bind_lenient (lenient_spec o m' path "viewSpec" _) fun _ _ => ?_
      refine Check.Tolerates.bind_lenient (lenient_frame o m' path columns') fun _ _ => ?_
      refine Check.Tolerates.bind_lenient (lenient_flag o m' path "locked") fun _ _ => ?_
      refine Check.Tolerates.bind_lenient (lenient_flag o m' path "pinned") fun _ _ => ?_
      refine Check.Tolerates.bind_lenient (lenient_flag o m' path "protected") fun _ _ => ?_
      refine Check.Tolerates.bind_lenient (lenient_timestamp o t' m' path "createdAt") fun _ _ => ?_
      refine Check.Tolerates.bind_lenient (lenient_timestamp o t' m' path "updatedAt") fun _ _ => ?_
      exact Check.Tolerates.done rfl
  | _ => exact Check.Tolerates.fail _ _ _

/-- Damaged panels keep their ids, so none of them is given twice. -/
theorem tolerates_panels {xs ys : List Value} (h : List.Forall₂ PanelDamaged xs ys)
    (columns columns' : UInt32) (i : Nat) (seen : List String) :
    Check.Tolerates (fun ps qs => qs.map (·.id) = ps.map (·.id))
      (panels (o.inMode .safe) t path columns i seen xs)
      (panels (o.inMode .safe) t' path columns' i seen ys) := by
  induction h generalizing i seen with
  | nil => exact Check.Tolerates.done rfl
  | cons hv _ ih =>
      unfold panels
      refine Check.Tolerates.bind (tolerates_panel o t t' _ hv columns columns') ?_
      intro p q hid
      -- the ids agree, so an id is given twice on both sides or on neither
      rw [hid]
      split
      · exact Check.Tolerates.fail _ _ _
      · refine Check.Tolerates.bind (ih (i + 1) (p.id :: seen)) ?_
        intro ps qs hids
        exact Check.Tolerates.done (by rw [List.map_cons, List.map_cons, hid, hids])

/-! ## §4. Layouts and pages. -/

/-- The panels of a layout, where it has any. -/
theorem tolerates_panelList {m m' : Members}
    (h : ItemsDamaged PanelDamaged (m.get? "panels") (m'.get? "panels"))
    (columns columns' : UInt32) :
    Check.Tolerates (fun ps qs => qs.map (·.id) = ps.map (·.id))
      (panelList (o.inMode .safe) t m path columns)
      (panelList (o.inMode .safe) t' m' path columns') := by
  unfold panelList
  dsimp only
  split
  next xs hxs =>
    rw [hxs] at h
    obtain ⟨ys, hys, hall⟩ := h.forall₂ PanelDamaged.refl
    rw [hys]
    exact tolerates_panels o t t' _ hall columns columns' 0 []
  next hnone =>
    rw [hnone] at h
    generalize m'.get? "panels" = w at h ⊢
    cases h
    exact Check.Tolerates.done rfl
  next hnull =>
    rw [hnull] at h
    generalize m'.get? "panels" = w at h ⊢
    cases h
    exact Check.Tolerates.done rfl
  next => exact Check.Tolerates.fail _ _ _

/-- The panels survive whatever becomes of the grid that they are held to. -/
theorem tolerates_layout {v v' : Value} (h : LayoutDamaged v v') :
    Check.Tolerates (fun l k => k.panels.map (·.id) = l.panels.map (·.id))
      (layout (o.inMode .safe) t v path) (layout (o.inMode .safe) t' v' path) := by
  unfold layout
  cases v with
  | object m =>
      obtain ⟨m', rfl, -⟩ := h.members
      show Check.Tolerates _ (Check.done m >>= _) (Check.done m' >>= _)
      rw [Check.done_bind, Check.done_bind]
      refine Check.Tolerates.bind_lenient (lenient_kind o m' path) fun _ _ => ?_
      refine Check.Tolerates.bind_lenient (lenient_gridSpec o m' path) fun g g' => ?_
      refine Check.Tolerates.bind (tolerates_panelList o t t' path h.panels _ _) ?_
      intro ps qs hids
      exact Check.Tolerates.done hids
  | _ => exact Check.Tolerates.fail _ _ _

end Validation

/-- A page by its id, with the ids of its panels. -/
def Page.outline (p : Page) : String × List String := (p.id, p.layout.panels.map (·.id))

namespace Validation

variable (o : ValidationOptions) (t t' : Instant) (path : Path)

/-- A damaged page keeps its id and its panels. -/
theorem tolerates_page {v v' : Value} (h : PageDamaged v v') :
    Check.Tolerates (fun p q => q.outline = p.outline)
      (page (o.inMode .safe) t v path) (page (o.inMode .safe) t' v' path) := by
  unfold page
  cases v with
  | object m =>
      obtain ⟨m', rfl, hothers⟩ := h.members
      show Check.Tolerates _ (Check.done m >>= _) (Check.done m' >>= _)
      rw [Check.done_bind, Check.done_bind, requiredText_congr path (hothers "id" (by decide))]
      refine Check.Tolerates.bind_same fun id => ?_
      refine Check.Tolerates.bind_lenient (lenient_pageTitle o m' path id) fun _ _ => ?_
      have hlayout : Option.Rel LayoutDamaged (Keyed.get? "layout" m) (Keyed.get? "layout" m') :=
        h.layout
      split
      next => exact Check.Tolerates.fail _ _ _
      next v hv =>
        rw [hv] at hlayout
        generalize Keyed.get? "layout" m' = w at hlayout ⊢
        cases hlayout with
        | some hdamaged =>
            refine Check.Tolerates.bind (tolerates_layout o t t' _ hdamaged) ?_
            intro l k hids
            exact Check.Tolerates.done (congrArg (Prod.mk id) hids)
  | _ => exact Check.Tolerates.fail _ _ _

theorem tolerates_pages {xs ys : List Value} (h : List.Forall₂ PageDamaged xs ys) (i : Nat)
    (seen : List String) :
    Check.Tolerates (fun ps qs => qs.map Page.outline = ps.map Page.outline)
      (pages (o.inMode .safe) t path i seen xs) (pages (o.inMode .safe) t' path i seen ys) := by
  induction h generalizing i seen with
  | nil => exact Check.Tolerates.done rfl
  | cons hv _ ih =>
      unfold pages
      refine Check.Tolerates.bind (tolerates_page o t t' _ hv) ?_
      intro p q houtline
      have hid : q.id = p.id := congrArg Prod.fst houtline
      rw [hid]
      split
      · exact Check.Tolerates.fail _ _ _
      · refine Check.Tolerates.bind (ih (i + 1) (p.id :: seen)) ?_
        intro ps qs houtlines
        exact Check.Tolerates.done (by rw [List.map_cons, List.map_cons, houtline, houtlines])

/-! ## §5. Documents. -/

/-- The pages of a document, of which damage removes none. -/
theorem tolerates_pageList {m m' : Members}
    (h : ItemsDamaged PageDamaged (m.get? "pages") (m'.get? "pages")) :
    Check.Tolerates (fun ps qs => qs.map Page.outline = ps.map Page.outline)
      (pageList (o.inMode .safe) t m path) (pageList (o.inMode .safe) t' m' path) := by
  unfold pageList
  dsimp only
  split
  next => exact Check.Tolerates.fail _ _ _
  next => exact Check.Tolerates.fail _ _ _
  next xs hne hxs =>
    obtain ⟨w, hw, hitems⟩ := Option.bind_eq_some_iff.mp hxs
    cases w with
    | list items =>
        cases hitems
        rw [hw] at h
        obtain ⟨ys, hys, hall⟩ := h.forall₂ PageDamaged.refl
        rw [hys]
        -- a list that is not empty stays so
        cases hall with
        | nil => exact absurd rfl hne
        | cons hv hrest => exact tolerates_pages o t t' _ (.cons hv hrest) 0 []
    | _ => cases hitems

/-- A damaged document keeps its id, its name and its pages. -/
theorem tolerates_workspace {v v' : Value} (h : Damaged v v') :
    Check.Tolerates (fun w u => u.id = w.id ∧ u.name = w.name ∧
        u.pages.map Page.outline = w.pages.map Page.outline)
      (workspace (o.inMode .safe) t v) (workspace (o.inMode .safe) t' v') := by
  unfold workspace
  dsimp only
  cases v with
  | object m =>
      obtain ⟨m', rfl, hothers⟩ := h.members
      show Check.Tolerates _ (Check.done m >>= _) (Check.done m' >>= _)
      have hversion : version m' .root = version m .root := by
        rw [version, version, hothers versionKey (by decide)]
      rw [Check.done_bind, Check.done_bind, hversion,
        requiredText_congr .root (hothers "id" (by decide)),
        requiredText_congr .root (hothers "name" (by decide))]
      refine Check.Tolerates.bind_same fun schemaVersion => ?_
      refine Check.Tolerates.bind_same fun id => ?_
      refine Check.Tolerates.bind_same fun name => ?_
      refine Check.Tolerates.bind (tolerates_pageList o t t' _ h.pages) fun ps qs houtlines => ?_
      refine Check.Tolerates.bind_lenient (lenient_defaultPageId o m' _ qs) fun _ _ => ?_
      refine Check.Tolerates.bind_lenient (lenient_timestamp o t' m' _ "createdAt") fun _ _ => ?_
      refine Check.Tolerates.bind_lenient (lenient_timestamp o t' m' _ "updatedAt") fun _ _ => ?_
      exact Check.Tolerates.done ⟨rfl, rfl, houtlines⟩
  | _ => exact Check.Tolerates.fail _ _ _

end Validation

/-! ## §6. The entry point. -/

/-- **Safe import loses no panel to damage.**  Whatever it accepts, it accepts
with any number of its optional parts removed or overwritten and with any
other widgets, at any clock reading; id and name of the document, the pages
and the panels of each page stay, in their order. -/
theorem damaged_import_keeps_panels {o : ValidationOptions} {t : Instant} {v v' : Value}
    {r : Validated} (damaged : Damaged v v') (h : validate (o.inMode .safe) t v = .ok r)
    (t' : Instant) :
    ∃ r', validate (o.inMode .safe) t' v' = .ok r' ∧
      r'.workspace.id = r.workspace.id ∧ r'.workspace.name = r.workspace.name ∧
      r'.workspace.pages.map Page.outline = r.workspace.pages.map Page.outline := by
  obtain ⟨ws, hw, -⟩ := validate_eq_ok h
  obtain ⟨u, ws', hu, hkept⟩ := Validation.tolerates_workspace o t t' damaged r.workspace ws hw
  refine ⟨⟨u, ws'.map Warning.message⟩, ?_, hkept⟩
  unfold validate
  rw [hu]
  rfl

/-- A panel, and what is left of it: no title, no frame and a widget that is
not known. -/
def savedPanel : Members :=
  [("dataSpec", .object []), ("frame", .object []), ("id", .text "p"), ("title", .text "Links"),
    ("viewSpec", .object []), ("widgetId", .text "quick-nav")]

/-- The panel without a title, with a list for a frame, of a widget that is not
known. -/
def wreckedPanel : Members :=
  Keyed.insert "widgetId" (.text "radar")
    (Keyed.insert "frame" (.list []) (Keyed.erase "title" savedPanel))

/-- Its layout, and the same one on a grid of a single column. -/
def savedLayout : Members :=
  [("kind", .text "grid"), ("panels", .list [.object savedPanel])]

/-- The layout with what is left of its panel, on a grid of a single column. -/
def wreckedLayout : Members :=
  Keyed.insert "panels" (.list [.object wreckedPanel])
    (Keyed.insert "gridSpec" (Grid.Spec.encode .inKeyOrder ⟨1, 80, 12⟩) savedLayout)

/-- Its page, with a title and without. -/
def savedPage : Members :=
  [("id", .text "a"), ("layout", .object savedLayout), ("title", .text "A")]

/-- The page without a title. -/
def wreckedPage : Members :=
  Keyed.insert "layout" (.object wreckedLayout) (Keyed.erase "title" savedPage)

/-- Its document, and the wreck of it. -/
def savedDesk : Members :=
  [("defaultPageId", .text "a"), ("id", .text "desk"), ("name", .text "Desk"),
    ("pages", .list [.object savedPage]), ("schemaVersion", .ofNat 1)]

/-- The document without a default page, with a truth value for a timestamp. -/
def wreckedDesk : Members :=
  Keyed.insert "pages" (.list [.object wreckedPage])
    (Keyed.insert "updatedAt" (.bool true) (Keyed.erase "defaultPageId" savedDesk))

theorem wreckedPanel_damaged : PanelDamaged (.object savedPanel) (.object wreckedPanel) :=
  ⟨(AgreesApart.erase savedPanel (by decide)).trans
      ((AgreesApart.insert _ (by decide) _).trans (AgreesApart.insert _ (by decide) _)),
    Or.inr ⟨"radar", by decide, (Keyed.get?_insert _ _ _ _).trans (if_pos rfl)⟩⟩

theorem wreckedLayout_damaged : LayoutDamaged (.object savedLayout) (.object wreckedLayout) := by
  refine ⟨(AgreesApart.insert savedLayout (by decide) _).trans
    (AgreesApart.insert _ (by decide) _), ?_⟩
  have hpanels : (Value.object wreckedLayout).get? "panels"
      = some (.list [.object wreckedPanel]) :=
    (Keyed.get?_insert _ _ _ _).trans (if_pos rfl)
  rw [hpanels]
  exact .items (.cons wreckedPanel_damaged .nil)

theorem wreckedPage_damaged : PageDamaged (.object savedPage) (.object wreckedPage) := by
  refine ⟨(AgreesApart.erase savedPage (by decide)).trans
    (AgreesApart.insert _ (by decide) _), ?_⟩
  have hlayout : (Value.object wreckedPage).get? "layout" = some (.object wreckedLayout) :=
    (Keyed.get?_insert _ _ _ _).trans (if_pos rfl)
  rw [hlayout]
  exact .some wreckedLayout_damaged

theorem wreckedDesk_damaged : Damaged (.object savedDesk) (.object wreckedDesk) := by
  refine ⟨(AgreesApart.erase savedDesk (by decide)).trans
    ((AgreesApart.insert _ (by decide) _).trans (AgreesApart.insert _ (by decide) _)), ?_⟩
  have hpages : (Value.object wreckedDesk).get? "pages" = some (.list [.object wreckedPage]) :=
    (Keyed.get?_insert _ _ _ _).trans (if_pos rfl)
  rw [hpages]
  exact .items (.cons wreckedPage_damaged .nil)

/-- The wreck is imported with its page and its panel. -/
theorem wreckedDesk_keeps_panel :
    let o := ValidationOptions.ofMode .safe
    ∃ r, validate (o.inMode .safe) ⟨7⟩ (.object wreckedDesk) = .ok r ∧
      r.workspace.id = "desk" ∧ r.workspace.pages.map Page.outline = [("a", ["p"])] := by
  intro o
  have hsaved : (validate (o.inMode .safe) ⟨0⟩ (.object savedDesk)).toOption.map
      (fun r => (r.workspace.id, r.workspace.pages.map Page.outline))
      = some ("desk", [("a", ["p"])]) := by decide
  cases h : validate (o.inMode .safe) ⟨0⟩ (.object savedDesk) with
  | error e => rw [h] at hsaved; cases hsaved
  | ok r =>
      rw [h] at hsaved
      obtain ⟨hid, hpages⟩ := Prod.mk.inj (Option.some.inj hsaved)
      obtain ⟨r', hr', hsameId, -, hsamePages⟩ :=
        damaged_import_keeps_panels wreckedDesk_damaged h ⟨7⟩
      exact ⟨r', hr', hsameId.trans hid, hsamePages.trans hpages⟩

end Dashboard
