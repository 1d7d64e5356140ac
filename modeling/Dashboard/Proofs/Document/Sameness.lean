/-
  Dashboard.Proofs.Document.Sameness
  ──────────────────────────────────
  **WHAT SAMENESS OF CONTENT COMPARES.**

  Two documents are compared by a walk that lets the sign of a zero pass and
  leaves out when the document was created and changed.  Everything else
  counts, the timestamps of its panels among it.

  Main results:
    sameContent_of_eq         — equal content is the same
    map_panels_of_sameContent — what the same content has in common panel by panel
    dates_of_sameContent      — the same content has the same panel timestamps
-/
import Dashboard.Document.Workspace

namespace Dashboard

open Grid Json

/-! ## §1. Data is the same as itself. -/

namespace Json

/-- A number is the same as itself. -/
theorem Number.same_refl (n : Number) : n.same n = true := by
  cases n <;> simp [Number.same, Binary64.same]

mutual

/-- By recursion on the value, together with its items and members. -/
theorem Value.same_refl : (v : Value) → v.same v = true
  | .null => rfl
  | .bool b => by simp [Value.same]
  | .number n => n.same_refl
  | .text s => by simp [Value.same]
  | .list items => sameItems_refl items
  | .object m => sameMembers_refl m

theorem sameItems_refl : (items : List Value) → sameItems items items = true
  | [] => rfl
  | v :: rest => by rw [sameItems, v.same_refl, sameItems_refl rest]; rfl

theorem sameMembers_refl : (m : Members) → sameMembers m m = true
  | [] => rfl
  | (k, v) :: rest => by
      rw [sameMembers, v.same_refl, sameMembers_refl rest, beq_self_eq_true]
      rfl

end

end Json

/-! ## §2. Documents are the same as themselves. -/

/-- Optional data is the same as itself, be it there or not. -/
theorem sameOptional_refl (v : Option Value) : sameOptional v v = true := by
  cases v with
  | none => rfl
  | some v => exact v.same_refl

/-- A list is the same as itself if its items are. -/
theorem allSame_refl {α : Type} {same : α → α → Bool} (h : ∀ a, same a a = true)
    (as : List α) : allSame same as as = true := by
  induction as with
  | nil => rfl
  | cons a rest ih => rw [allSame, h a, ih]; rfl

theorem Frame.same_refl (f : Frame) : f.same f = true := by
  rw [Frame.same, sameOptional_refl, beq_self_eq_true]
  rfl

theorem Panel.same_refl (p : Panel) : p.same p = true := by
  simp only [Panel.same, beq_self_eq_true, sameMembers_refl, p.frame.same_refl, Bool.and_self]

theorem Layout.same_refl (l : Layout) : l.same l = true := by
  simp only [Layout.same, beq_self_eq_true, allSame_refl Panel.same_refl, sameOptional_refl,
    Bool.and_self]

theorem Page.same_refl (p : Page) : p.same p = true := by
  simp only [Page.same, beq_self_eq_true, p.layout.same_refl, Bool.and_self]

/-- Equal content is the same, whenever the two documents were created and
changed. -/
theorem Workspace.sameContent_of_eq {a b : Workspace} (id : a.id = b.id) (name : a.name = b.name)
    (pages : a.pages = b.pages) (defaultPageId : a.defaultPageId = b.defaultPageId)
    (version : a.schemaVersion = b.schemaVersion) : a.sameContent b = true := by
  rw [sameContent, id, name, pages, defaultPageId, version]
  simp only [beq_self_eq_true, allSame_refl Page.same_refl, Bool.and_self]

/-- A document has the same content as itself. -/
theorem Workspace.sameContent_refl (w : Workspace) : w.sameContent w = true :=
  sameContent_of_eq rfl rfl rfl rfl rfl

/-! ## §3. Timestamps of panels. -/

/-- The timestamps of a panel. -/
def Panel.dates (p : Panel) : String × String := (p.createdAt, p.updatedAt)

/-- The timestamps of the panels of a page. -/
def Page.dates (p : Page) : List (String × String) := p.layout.panels.map (·.dates)

/-- What sameness of items keeps is equal along lists that are the same. -/
theorem map_eq_of_allSame {α β : Type} {same : α → α → Bool} {f : α → β}
    (h : ∀ a b, same a b = true → f a = f b) {as bs : List α} (hs : allSame same as bs = true) :
    as.map f = bs.map f := by
  induction as generalizing bs with
  | nil =>
      cases bs with
      | nil => rfl
      | cons b rest => cases hs
  | cons a rest ih =>
      cases bs with
      | nil => cases hs
      | cons b more =>
          obtain ⟨hab, hrest⟩ := (Bool.and_eq_true _ _).mp hs
          rw [List.map_cons, List.map_cons, h a b hab, ih hrest]

/-- Panels that are the same have the same timestamps. -/
theorem Panel.dates_of_same (p q : Panel) (h : p.same q = true) : p.dates = q.dates := by
  simp only [Panel.same, Bool.and_eq_true, beq_iff_eq] at h
  obtain ⟨⟨-, hcreated⟩, hupdated⟩ := h
  rw [dates, dates, hcreated, hupdated]

/-- What sameness keeps of each panel is the same on pages that are. -/
theorem Page.map_panels_of_same {β : Type} {f : Panel → β}
    (hf : ∀ p q : Panel, p.same q = true → f p = f q) (a b : Page) (h : a.same b = true) :
    a.layout.panels.map f = b.layout.panels.map f := by
  simp only [Page.same, Layout.same, Bool.and_eq_true] at h
  obtain ⟨-, ⟨⟨⟨-, hpanels⟩, -⟩, -⟩, -⟩ := h
  exact map_eq_of_allSame hf hpanels

/-- What sameness keeps of each panel is the same, page by page, in documents
of the same content. -/
theorem Workspace.map_panels_of_sameContent {β : Type} {f : Panel → β}
    (hf : ∀ p q : Panel, p.same q = true → f p = f q) {a b : Workspace}
    (h : a.sameContent b = true) :
    a.pages.map (fun page => page.layout.panels.map f)
      = b.pages.map fun page => page.layout.panels.map f := by
  simp only [sameContent, Bool.and_eq_true] at h
  obtain ⟨⟨⟨-, hpages⟩, -⟩, -⟩ := h
  exact map_eq_of_allSame (Page.map_panels_of_same hf) hpages

/-- Documents of the same content have the same panel timestamps. -/
theorem Workspace.dates_of_sameContent {a b : Workspace} (h : a.sameContent b = true) :
    a.pages.map Page.dates = b.pages.map Page.dates :=
  map_panels_of_sameContent Panel.dates_of_same h

end Dashboard
