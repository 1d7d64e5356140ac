/-
  Dashboard.Proofs.Document.WellFormed
  ────────────────────────────────────
  **WELL-FORMED DOCUMENTS.**

  What a typed document has to satisfy beyond its types: names that are not
  blank, ids given once, rectangles inside the grid of their page, and so on.
  The conditions stand type by type, each a structure of its own, so that an
  edit of one panel only has to answer for that panel.

  Two things are left open: which widget ids are accepted, and the grid of
  the pages that carry none.  `ValidationOptions.Accepts` fills in the first
  for the validator.
-/
import Dashboard.Document.Validation

namespace Dashboard

open Grid Json Time

/-! ## §1. The conditions. -/

/-- The text has a character that is not blank. -/
def Text.Filled (s : String) : Prop := Text.isBlankText s = false

instance (s : String) : Decidable (Text.Filled s) :=
  inferInstanceAs (Decidable (_ = _))

/-- The frame lies in a grid of `columns`. -/
structure Frame.WellFormed (columns : UInt32) (f : Frame) : Prop where
  fits : ∀ r ∈ f.grid, r.fits columns = true
  freeform : f.freeform ≠ some .null

/-- A panel on a grid of `columns`. -/
structure Panel.WellFormed (accepts : String → Prop) (columns : UInt32) (p : Panel) : Prop where
  id : Text.Filled p.id
  widgetId : accepts p.widgetId
  frame : p.frame.WellFormed columns
  createdAt : p.createdAt ≠ ""
  updatedAt : p.updatedAt ≠ ""

/-- Panels on a grid of `columns`, each id once. -/
structure Panel.AllWellFormed (accepts : String → Prop) (columns : UInt32)
    (panels : List Panel) : Prop where
  each : ∀ p ∈ panels, p.WellFormed accepts columns
  distinct : (panels.map (·.id)).Nodup

/-- The grid has a column and rows that can be seen. -/
structure Grid.Spec.Usable (s : Spec) : Prop where
  columns : 1 ≤ s.columns
  rowHeight : 1 ≤ s.rowHeight

/-- A layout, where `standard` is the grid of pages without one. -/
structure Layout.WellFormed (accepts : String → Prop) (standard : Spec) (l : Layout) :
    Prop where
  gridSpec : ∀ g ∈ l.gridSpec, g.Usable
  panels : Panel.AllWellFormed accepts (l.specOr standard).columns l.panels
  freeformSpec : l.freeformSpec ≠ some .null
  splitSpec : l.splitSpec ≠ some .null

/-- A page. -/
structure Page.WellFormed (accepts : String → Prop) (standard : Spec) (p : Page) : Prop where
  id : Text.Filled p.id
  title : Text.Filled p.title
  layout : p.layout.WellFormed accepts standard

/-- A whole document. -/
structure Workspace.WellFormed (accepts : String → Prop) (standard : Spec) (w : Workspace) :
    Prop where
  version : w.schemaVersion ≤ Dashboard.schemaVersion
  id : Text.Filled w.id
  name : Text.Filled w.name
  defaultPageId : Text.Filled w.defaultPageId
  nonempty : w.pages ≠ []
  pages : ∀ p ∈ w.pages, p.WellFormed accepts standard
  distinct : (w.pages.map (·.id)).Nodup
  createdAt : w.createdAt ≠ ""
  updatedAt : w.updatedAt ≠ ""

/-- Neither the version nor the date of change matters beyond its own condition. -/
theorem Workspace.WellFormed.restamp {accepts : String → Prop} {standard : Spec} {w : Workspace}
    (h : w.WellFormed accepts standard) {version : UInt32} {date : String}
    (hversion : version ≤ Dashboard.schemaVersion) (hdate : date ≠ "") :
    ({ w with schemaVersion := version, updatedAt := date } : Workspace).WellFormed accepts
      standard where
  version := hversion
  id := h.id
  name := h.name
  defaultPageId := h.defaultPageId
  nonempty := h.nonempty
  pages := h.pages
  distinct := h.distinct
  createdAt := h.createdAt
  updatedAt := hdate

/-! ## §2. The validator's own. -/

namespace ValidationOptions

/-- The same options in another mode. -/
def inMode (o : ValidationOptions) (mode : ValidationMode) : ValidationOptions := { o with mode }

/-- A widget id that the validator takes as it is. -/
def Accepts (o : ValidationOptions) (id : String) : Prop := Text.Filled id ∧ o.knows id = true

@[simp] theorem isSafe_inMode_strict (o : ValidationOptions) :
    (o.inMode .strict).isSafe = false := rfl

@[simp] theorem isSafe_inMode_safe (o : ValidationOptions) :
    (o.inMode .safe).isSafe = true := rfl

@[simp] theorem gridDefaults_inMode (o : ValidationOptions) (mode : ValidationMode) :
    (o.inMode mode).gridDefaults = o.gridDefaults := rfl

@[simp] theorem accepts_inMode (o : ValidationOptions) (mode : ValidationMode) :
    (o.inMode mode).Accepts = o.Accepts := rfl

theorem accepts_placeholder (o : ValidationOptions) : o.Accepts placeholderWidget :=
  ⟨by decide, by simp [knows]⟩

end ValidationOptions

/-- The document is well formed for the validator. -/
def Workspace.ValidFor (o : ValidationOptions) (w : Workspace) : Prop :=
  w.WellFormed o.Accepts o.gridDefaults

@[simp] theorem Workspace.validFor_inMode (o : ValidationOptions) (mode : ValidationMode)
    (w : Workspace) : w.ValidFor (o.inMode mode) ↔ w.ValidFor o := Iff.rfl

/-! ## §3. Deciding the conditions. -/

section Deciding

/-- A stored null is told apart by its constructor. -/
instance : (v : Option Value) → Decidable (v = some .null)
  | none => isFalse nofun
  | some .null => isTrue rfl
  | some (.bool _) | some (.number _) | some (.text _) | some (.list _) | some (.object _) =>
    isFalse nofun

variable (accepts : String → Prop) [DecidablePred accepts] (standard : Spec) (columns : UInt32)

instance (f : Frame) : Decidable (f.WellFormed columns) :=
  decidable_of_iff ((∀ r ∈ f.grid, r.fits columns = true) ∧ f.freeform ≠ some .null)
    ⟨fun ⟨a, b⟩ => ⟨a, b⟩, fun ⟨a, b⟩ => ⟨a, b⟩⟩

instance (p : Panel) : Decidable (p.WellFormed accepts columns) :=
  decidable_of_iff (Text.Filled p.id ∧ accepts p.widgetId ∧ p.frame.WellFormed columns ∧
      p.createdAt ≠ "" ∧ p.updatedAt ≠ "")
    ⟨fun ⟨a, b, c, d, e⟩ => ⟨a, b, c, d, e⟩, fun ⟨a, b, c, d, e⟩ => ⟨a, b, c, d, e⟩⟩

instance (ps : List Panel) : Decidable (Panel.AllWellFormed accepts columns ps) :=
  decidable_of_iff ((∀ p ∈ ps, p.WellFormed accepts columns) ∧ (ps.map (·.id)).Nodup)
    ⟨fun ⟨a, b⟩ => ⟨a, b⟩, fun ⟨a, b⟩ => ⟨a, b⟩⟩

instance (s : Spec) : Decidable s.Usable :=
  decidable_of_iff (1 ≤ s.columns ∧ 1 ≤ s.rowHeight)
    ⟨fun ⟨a, b⟩ => ⟨a, b⟩, fun ⟨a, b⟩ => ⟨a, b⟩⟩

instance (l : Layout) : Decidable (l.WellFormed accepts standard) :=
  decidable_of_iff ((∀ g ∈ l.gridSpec, g.Usable) ∧
      Panel.AllWellFormed accepts (l.specOr standard).columns l.panels ∧
      l.freeformSpec ≠ some .null ∧ l.splitSpec ≠ some .null)
    ⟨fun ⟨a, b, c, d⟩ => ⟨a, b, c, d⟩, fun ⟨a, b, c, d⟩ => ⟨a, b, c, d⟩⟩

instance (p : Page) : Decidable (p.WellFormed accepts standard) :=
  decidable_of_iff (Text.Filled p.id ∧ Text.Filled p.title ∧ p.layout.WellFormed accepts standard)
    ⟨fun ⟨a, b, c⟩ => ⟨a, b, c⟩, fun ⟨a, b, c⟩ => ⟨a, b, c⟩⟩

instance (w : Workspace) : Decidable (w.WellFormed accepts standard) :=
  decidable_of_iff (w.schemaVersion ≤ Dashboard.schemaVersion ∧ Text.Filled w.id ∧
      Text.Filled w.name ∧ Text.Filled w.defaultPageId ∧ w.pages ≠ [] ∧
      (∀ p ∈ w.pages, p.WellFormed accepts standard) ∧ (w.pages.map (·.id)).Nodup ∧
      w.createdAt ≠ "" ∧ w.updatedAt ≠ "")
    ⟨fun ⟨a, b, c, d, e, f, g, h, i⟩ => ⟨a, b, c, d, e, f, g, h, i⟩,
      fun ⟨a, b, c, d, e, f, g, h, i⟩ => ⟨a, b, c, d, e, f, g, h, i⟩⟩

instance (o : ValidationOptions) : DecidablePred o.Accepts :=
  fun id => inferInstanceAs (Decidable (Text.Filled id ∧ o.knows id = true))

instance (o : ValidationOptions) (w : Workspace) : Decidable (w.ValidFor o) :=
  inferInstanceAs (Decidable (w.WellFormed o.Accepts o.gridDefaults))

end Deciding

/-! ## §4. Ids given once. -/

/-- The ids of the items are given once, and none of them was seen before. -/
structure FreshIds {α : Type} (id : α → String) (seen : List String) (items : List α) : Prop where
  distinct : (items.map id).Nodup
  unseen : ∀ a ∈ items, id a ∉ seen

namespace FreshIds

variable {α : Type} {id : α → String} {seen : List String} {a : α} {items : List α}

theorem nil : FreshIds id seen [] := ⟨List.nodup_nil, nofun⟩

theorem of_distinct (h : (items.map id).Nodup) : FreshIds id [] items := ⟨h, fun _ _ => nofun⟩

/-- The first item is not seen before, and the others are not seen after it. -/
theorem cons_iff : FreshIds id seen (a :: items) ↔
    id a ∉ seen ∧ FreshIds id (id a :: seen) items := by
  constructor
  · intro h
    have hdistinct := h.distinct
    rw [List.map_cons, List.nodup_cons] at hdistinct
    refine ⟨h.unseen a List.mem_cons_self, hdistinct.2, ?_⟩
    intro b hb hmem
    rcases List.mem_cons.mp hmem with heq | hmem
    · exact hdistinct.1 (heq ▸ List.mem_map_of_mem hb)
    · exact h.unseen b (List.mem_cons_of_mem _ hb) hmem
  · rintro ⟨ha, hitems⟩
    constructor
    · rw [List.map_cons, List.nodup_cons]
      refine ⟨?_, hitems.distinct⟩
      intro hmem
      obtain ⟨b, hb, heq⟩ := List.mem_map.mp hmem
      exact hitems.unseen b hb (heq ▸ List.mem_cons_self)
    · intro b hb
      rcases List.mem_cons.mp hb with rfl | hb
      · exact ha
      · exact fun hmem => hitems.unseen b hb (List.mem_cons_of_mem _ hmem)

end FreshIds

/-! ## §5. Clock stamps. -/

theorem Time.Instant.stamp_ne_empty (t : Instant) : t.stamp ≠ "" := by
  intro h
  have hlen := congrArg String.length h
  simp [Instant.stamp, String.length_append] at hlen

end Dashboard
