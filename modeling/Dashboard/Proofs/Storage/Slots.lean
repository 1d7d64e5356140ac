/-
  Dashboard.Proofs.Storage.Slots
  ──────────────────────────────
  **WHAT A SLOT GIVES BACK.**

  A well-formed document of the current version that was written to a slot is
  read back as it is, with nothing to report, provided that its text is read
  back to its data.  On top of the map that a reliable backend is, the calls
  of a store become equations on the entries.

  Main results:
    readSlot_of_document — a written document is read back
    write_spec, clearDraft_spec, commit_spec
    load_of_absent, load_of_committed, load_of_both — a load of what was written
-/
import Dashboard.Proofs.Document.Migration
import Dashboard.Proofs.Document.Sameness
import Dashboard.Proofs.Document.Stored
import Dashboard.Proofs.Storage.Media

namespace Dashboard

open Json Time

/-! ## §1. Documents that can be stored. -/

/-- A document that a store writes: of the current version and well formed. -/
structure Workspace.Storable (o : ValidationOptions) (w : Workspace) : Prop where
  valid : w.ValidFor o
  current : w.schemaVersion = Dashboard.schemaVersion

/-- Whether the document is read back with nothing to report. -/
def Workspace.isQuiet (o : ValidationOptions) (now : Instant) (w : Workspace) : Bool :=
  match migrateAndValidate o now w.asValue with
  | .ok v => v.warnings.isEmpty
  | .error _ => false

/-- A document is never written as a blank text. -/
theorem Workspace.compactText_filled (w : Workspace) : Text.isBlankText w.compactText = false := by
  show Text.isBlankList (String.ofList ('\x7b' :: _)).toList = false
  rw [String.toList_ofList]
  rfl

/-- A new date of change keeps a document storable. -/
theorem Workspace.Storable.touch {o : ValidationOptions} {w : Workspace} (h : w.Storable o)
    (now : Instant) : (w.touch now).Storable o where
  valid := Workspace.WellFormed.restamp h.valid h.valid.version now.stamp_ne_empty
  current := h.current

/-- The committed form of a well-formed document can be stored. -/
theorem Workspace.ValidFor.committedForm {o : ValidationOptions} {w : Workspace}
    (h : w.ValidFor o) (now : Instant) : (Store.committedForm now w).Storable o where
  valid := Workspace.WellFormed.restamp h (UInt32.le_refl _) now.stamp_ne_empty
  current := rfl

namespace Store

/-! ## §2. Reading. -/

variable {s : Store} {e : Keyed String}

/-- A slot without a text is empty. -/
theorem readSlot_of_absent (hold : s.backend.Holds e) {key : String} (h : e.get? key = none)
    (now : Instant) : s.readSlot now key = .empty := by
  rw [readSlot, hold.get, h]

/-- A document that is stored without loss goes from its text to the validator. -/
theorem readSlot_of_text {key : String} {w : Workspace}
    (h : s.backend.get key = .ok (some w.compactText)) (lossless : w.Lossless) (now : Instant) :
    s.readSlot now key = match migrateAndValidate s.options now w.asValue with
      | .ok v => ⟨some v.workspace, v.warnings.map fun warning => ⟨key, .repaired warning⟩⟩
      | .error .corrupted => ⟨none, [⟨key, .corrupted⟩]⟩
      | .error e => ⟨none, [⟨key, .invalid e⟩]⟩ := by
  rw [readSlot, h]
  -- the text is not blank, and it is read as the data of the document
  show (if Text.isBlankText w.compactText = true then LoadedWorkspace.empty
    else s.readText now key w.compactText) = _
  have hread : parseAndValidate s.options now w.compactText
      = migrateAndValidate s.options now w.asValue := by
    unfold parseAndValidate
    rw [lossless]
  rw [w.compactText_filled, if_neg nofun]
  unfold readText
  cases hcase : migrateAndValidate s.options now w.asValue with
  | ok v => rw [hread.trans hcase]
  | error e => cases e <;> rw [hread.trans hcase]

/-- The text of a document that can be stored gives it back, with nothing to report. -/
theorem readSlot_of_written {key : String} {w : Workspace}
    (h : s.backend.get key = .ok (some w.compactText)) (hw : w.Storable s.options)
    (lossless : w.Lossless) (now : Instant) : s.readSlot now key = ⟨some w, []⟩ := by
  rw [readSlot_of_text h lossless, migrateAndValidate_asValue s.options now hw.current hw.valid]
  rfl

/-- A slot with the text of a document is read as the document's data. -/
theorem readSlot_of_lossless (hold : s.backend.Holds e) {key : String} {w : Workspace}
    (h : e.get? key = some w.compactText) (lossless : w.Lossless) (now : Instant) :
    s.readSlot now key = match migrateAndValidate s.options now w.asValue with
      | .ok v => ⟨some v.workspace, v.warnings.map fun warning => ⟨key, .repaired warning⟩⟩
      | .error .corrupted => ⟨none, [⟨key, .corrupted⟩]⟩
      | .error e => ⟨none, [⟨key, .invalid e⟩]⟩ :=
  readSlot_of_text (by rw [hold.get, h]) lossless now

/-- **A written document is read back**, with nothing to report. -/
theorem readSlot_of_document (hold : s.backend.Holds e) {key : String} {w : Workspace}
    (h : e.get? key = some w.compactText) (hw : w.Storable s.options) (lossless : w.Lossless)
    (now : Instant) : s.readSlot now key = ⟨some w, []⟩ :=
  readSlot_of_written (by rw [hold.get, h]) hw lossless now

/-- A document that is not read back quietly is reported. -/
theorem issues_of_loud (hold : s.backend.Holds e) {key : String} {w : Workspace}
    (h : e.get? key = some w.compactText) (lossless : w.Lossless) {now : Instant}
    (loud : w.isQuiet s.options now = false) : (s.readSlot now key).issues ≠ [] := by
  rw [readSlot_of_lossless hold h lossless]
  unfold Workspace.isQuiet at loud
  split
  next v hv =>
    rw [hv] at loud
    dsimp only at loud
    -- accepted, so what is not quiet are its warnings
    intro hnil
    rw [List.map_eq_nil_iff.mp hnil] at loud
    cases loud
  next => exact nofun
  next => exact nofun

/-! ## §3. Writing. -/

/-- A text is stored under its key. -/
theorem write_spec (hold : s.backend.Holds e) (key text : String) :
    ∃ b, s.write key text = (.ok (), { s with backend := b }) ∧ b.Holds (e.insert key text) := by
  obtain ⟨b, hb, hholds⟩ := hold.set key text
  refine ⟨b, ?_, hholds⟩
  rw [write, hb]

/-- The slot of the draft is emptied. -/
theorem clearDraft_spec (hold : s.backend.Holds e) :
    ∃ b, s.clearDraft = (.ok (), { s with backend := b }) ∧ b.Holds (e.erase s.keys.draft) := by
  obtain ⟨b, hb, hholds⟩ := hold.remove s.keys.draft
  refine ⟨b, ?_, hholds⟩
  rw [clearDraft, hb]

theorem commit_spec (hold : s.backend.Holds e) (now : Instant) (w : Workspace) :
    ∃ b, s.commit now w = (.ok (committedForm now w), { s with backend := b }) ∧
      b.Holds ((e.insert s.keys.committed (committedForm now w).compactText).erase
        s.keys.draft) := by
  obtain ⟨b, hwrite, hold'⟩ := write_spec hold s.keys.committed (committedForm now w).compactText
  have hold'' : ({ s with backend := b } : Store).backend.Holds _ := hold'
  obtain ⟨b', hclear, hholds⟩ := clearDraft_spec hold''
  -- first the committed slot is written, then the draft's is cleared
  refine ⟨b', ?_, hholds⟩
  rw [commit, hwrite]
  dsimp only
  rw [hclear]

/-! ## §4. Loading. -/

/-- A load leaves the store as it is, or drops the draft. -/
theorem load_store (s : Store) (now : Instant) :
    (s.load now).2 = s ∨ (s.load now).2 = s.clearDraft.2 := by
  unfold load reconcile
  split
  next => exact Or.inl rfl
  next => exact Or.inl rfl
  next => exact Or.inl rfl
  next =>
    split
    next => exact Or.inr rfl
    next =>
      split
      next => exact Or.inr rfl
      next => exact Or.inl rfl

/-- The choice of the working copy drops no issue. -/
theorem reconcile_issues (s : Store) (committed draft : LoadedWorkspace) :
    committed.issues ++ draft.issues <+: (s.reconcile committed draft).1.issues := by
  unfold reconcile
  split
  next => exact List.prefix_rfl
  next => exact List.prefix_rfl
  next => exact List.prefix_rfl
  next =>
    split
    next => exact List.prefix_rfl
    next =>
      split
      next => exact List.prefix_append _ _
      next => exact List.prefix_rfl

/-- Nothing stored, nothing loaded. -/
theorem load_of_absent (hold : s.backend.Holds e) (hc : e.get? s.keys.committed = none)
    (hd : e.get? s.keys.draft = none) (now : Instant) :
    s.load now = (⟨none, none, .empty, []⟩, s) := by
  rw [load, loadCommitted, loadDraft, readSlot_of_absent hold hc, readSlot_of_absent hold hd]
  rfl

/-- A committed document alone is loaded as both. -/
theorem load_of_committed (hold : s.backend.Holds e) {c : Workspace}
    (hc : e.get? s.keys.committed = some c.compactText) (hstorable : c.Storable s.options)
    (lossless : c.Lossless) (hd : e.get? s.keys.draft = none) (now : Instant) :
    s.load now = (⟨some c, some c, .committed, []⟩, s) := by
  rw [load, loadCommitted, loadDraft, readSlot_of_document hold hc hstorable lossless,
    readSlot_of_absent hold hd]
  rfl

/-- A draft that is not before the committed document is the working copy, and
is dropped where its content is the committed one. -/
theorem load_of_both (hold : s.backend.Holds e) {c d : Workspace}
    (hc : e.get? s.keys.committed = some c.compactText) (hstorable : c.Storable s.options)
    (lossless : c.Lossless) (hd : e.get? s.keys.draft = some d.compactText)
    (hstorable' : d.Storable s.options) (lossless' : d.Lossless)
    (hnot : Rfc3339.isBefore d.updatedAt c.updatedAt = false) (now : Instant) :
    s.load now = if d.sameContent c then (⟨some c, some c, .committed, []⟩, s.clearDraft.2)
      else (⟨some d, some c, .draft, []⟩, s) := by
  rw [load, loadCommitted, loadDraft, readSlot_of_document hold hc hstorable lossless,
    readSlot_of_document hold hd hstorable' lossless', reconcile]
  dsimp only
  rw [hnot]
  rfl

end Store

end Dashboard
