/-
  Dashboard.Proofs.Document.Refusal
  ─────────────────────────────────
  **ONLY ITS VERSION CAN MAKE A DOCUMENT UNSUPPORTED.**

  Every check of the walk refuses for a fault at a place; the check of the
  version is the one that has another reason, and it looks at the version
  alone.  So in either mode a document is refused as unsupported exactly if it
  records a newer version under the current key.

  Main results:
    placed_panel, …          — one check each
    validate_unsupported_iff — the whole document
-/
import Dashboard.Proofs.Document.Check
import Dashboard.Proofs.Document.WellFormed

namespace Dashboard

open Grid Json Time

namespace Validation

variable (o : ValidationOptions) (now : Instant) (m : Members) (path : Path)

/-! ## §1. Fields. -/

/-- What is no object is a fault at its place. -/
theorem placed_object (v : Value) (what : String) : (object v path what).Placed := by
  unfold object
  split
  · exact Check.Placed.done _
  · exact Check.Placed.fail _ _

/-- A missing text is a fault under its key. -/
theorem placed_requiredText (key : String) : (requiredText m key path).Placed := by
  unfold requiredText
  split
  · exact Check.Placed.done _
  · exact Check.Placed.fail _ _

/-- Either mode: a fault is mended or refused at its place. -/
theorem placed_timestamp (key : String) : (timestamp o now m key path).Placed := by
  unfold timestamp
  split
  · exact Check.Placed.done _
  · exact Check.Placed.done _
  · split
    · exact Check.Placed.done _
    · exact Check.Placed.mend o _ _ _ _
  · exact Check.Placed.mend o _ _ _ _

/-- Only strict mode refuses a flag, at its place. -/
theorem placed_flag (key : String) : (flag o m key path).Placed := by
  unfold flag
  split
  · exact Check.Placed.done _
  · exact Check.Placed.done _
  · exact Check.Placed.done _
  · exact Check.Placed.mend o _ _ _ _

/-! ## §2. Panels. -/

/-- Only strict mode refuses a specification, at its place. -/
theorem placed_spec (key : String) (standard : Members) :
    (spec o m key path standard).Placed := by
  unfold spec
  split
  · exact Check.Placed.done _
  · exact Check.Placed.assume o _ _ _
  · exact Check.Placed.assume o _ _ _
  · exact Check.Placed.assume o _ _ _

theorem placed_cell (key : String) (standard : UInt32) : (cell o m key path standard).Placed := by
  unfold cell
  split
  · exact Check.Placed.done _
  · exact Check.Placed.mend o _ _ _ _

/-- The cells are refused one by one, then the rectangle as a whole. -/
theorem placed_rect (v : Value) (columns : UInt32) : (rect o v path columns).Placed := by
  unfold rect
  split
  · exact Check.Placed.mend o _ _ _ _
  · refine Check.Placed.bind (placed_cell o _ path "x" _) fun x => ?_
    refine Check.Placed.bind (placed_cell o _ path "y" _) fun y => ?_
    refine Check.Placed.bind (placed_cell o _ path "w" _) fun w => ?_
    refine Check.Placed.bind (placed_cell o _ path "h" _) fun h => ?_
    dsimp only
    split
    · exact Check.Placed.done _
    · split
      · exact Check.Placed.repaired _ _ _
      · exact Check.Placed.fail _ _

theorem placed_frameRect (columns : UInt32) : (frameRect o m path columns).Placed := by
  unfold frameRect
  split
  · exact Check.Placed.done _
  · exact Check.Placed.done _
  · exact Check.Placed.bind (placed_rect o _ _ columns) fun r => Check.Placed.done _

/-- A frame is refused as such, or for its rectangle. -/
theorem placed_frame (columns : UInt32) : (frame o m path columns).Placed := by
  unfold frame
  dsimp only
  split
  · exact Check.Placed.bind (placed_frameRect o _ _ columns) fun g => Check.Placed.done _
  · exact Check.Placed.assume o _ _ _
  · exact Check.Placed.assume o _ _ _
  · exact Check.Placed.assume o _ _ _

/-- A widget is refused for lack of an id, or for an unknown one. -/
theorem placed_widget : (widget o m path).Placed := by
  unfold widget
  refine Check.Placed.bind (placed_requiredText m path "widgetId") fun id => ?_
  split
  · exact Check.Placed.done _
  · exact Check.Placed.mend o _ _ _ _

theorem placed_panelTitle : (panelTitle o m path).Placed := by
  unfold panelTitle
  split
  · exact Check.Placed.done _
  · exact Check.Placed.done _
  · exact Check.Placed.done _
  · exact Check.Placed.mend o _ _ _ _

/-- The fields in the order of the walk. -/
theorem placed_panel (v : Value) (columns : UInt32) : (panel o now v path columns).Placed := by
  unfold panel
  refine Check.Placed.bind (placed_object path v _) fun m => ?_
  refine Check.Placed.bind (placed_requiredText m path "id") fun id => ?_
  refine Check.Placed.bind (placed_widget o m path) fun widgetId => ?_
  refine Check.Placed.bind (placed_panelTitle o m path) fun title => ?_
  refine Check.Placed.bind (placed_spec o m path "dataSpec" _) fun dataSpec => ?_
  refine Check.Placed.bind (placed_spec o m path "viewSpec" _) fun viewSpec => ?_
  refine Check.Placed.bind (placed_frame o m path columns) fun frame => ?_
  refine Check.Placed.bind (placed_flag o m path "locked") fun locked => ?_
  refine Check.Placed.bind (placed_flag o m path "pinned") fun pinned => ?_
  refine Check.Placed.bind (placed_flag o m path "protected") fun guarded => ?_
  refine Check.Placed.bind (placed_timestamp o now m path "createdAt") fun createdAt => ?_
  refine Check.Placed.bind (placed_timestamp o now m path "updatedAt") fun updatedAt => ?_
  exact Check.Placed.done _

/-- By induction on the panels; a repeated id is a fault at the later one. -/
theorem placed_panels (columns : UInt32) (items : List Value) (i : Nat) (seen : List String) :
    (panels o now path columns i seen items).Placed := by
  induction items generalizing i seen with
  | nil => exact Check.Placed.done _
  | cons v rest ih =>
      unfold panels
      refine Check.Placed.bind (placed_panel o now _ v columns) fun p => ?_
      split
      · exact Check.Placed.fail _ _
      · exact Check.Placed.bind (ih _ _) fun ps => Check.Placed.done _

/-! ## §3. Pages. -/

theorem placed_kind : (kind o m path).Placed := by
  unfold kind
  split
  · split
    · exact Check.Placed.done _
    · exact Check.Placed.mend o _ _ _ _
  · exact Check.Placed.assume o _ _ _

theorem placed_gridSpec : (Validation.gridSpec o m path).Placed := by
  unfold Validation.gridSpec
  split
  · exact Check.Placed.done _
  · split
    · exact Check.Placed.done _
    · exact Check.Placed.mend o _ _ _ _

/-- What is no list of panels is a fault at its place. -/
theorem placed_panelList (columns : UInt32) : (panelList o now m path columns).Placed := by
  unfold panelList
  dsimp only
  split
  · exact placed_panels o now _ columns _ 0 []
  · exact Check.Placed.assume o _ _ _
  · exact Check.Placed.assume o _ _ _
  · exact Check.Placed.fail _ _

/-- Kind, grid and panels. -/
theorem placed_layout (v : Value) : (layout o now v path).Placed := by
  unfold layout
  refine Check.Placed.bind (placed_object path v _) fun m => ?_
  refine Check.Placed.bind (placed_kind o m path) fun kind => ?_
  refine Check.Placed.bind (placed_gridSpec o m path) fun gridSpec => ?_
  refine Check.Placed.bind (placed_panelList o now m path _) fun panels => ?_
  exact Check.Placed.done _

theorem placed_pageTitle (id : String) : (pageTitle o m id path).Placed := by
  unfold pageTitle
  split
  · exact Check.Placed.done _
  · exact Check.Placed.mend o _ _ _ _

/-- A missing layout is a fault at its place. -/
theorem placed_page (v : Value) : (page o now v path).Placed := by
  unfold page
  refine Check.Placed.bind (placed_object path v _) fun m => ?_
  refine Check.Placed.bind (placed_requiredText m path "id") fun id => ?_
  refine Check.Placed.bind (placed_pageTitle o m path id) fun title => ?_
  split
  · exact Check.Placed.fail _ _
  · exact Check.Placed.bind (placed_layout o now _ _) fun l => Check.Placed.done _

/-- By induction on the pages; a repeated id is a fault at the later one. -/
theorem placed_pages (items : List Value) (i : Nat) (seen : List String) :
    (pages o now path i seen items).Placed := by
  induction items generalizing i seen with
  | nil => exact Check.Placed.done _
  | cons v rest ih =>
      unfold pages
      refine Check.Placed.bind (placed_page o now _ v) fun p => ?_
      split
      · exact Check.Placed.fail _ _
      · exact Check.Placed.bind (ih _ _) fun ps => Check.Placed.done _

/-! ## §4. Documents. -/

/-- A document without pages is refused at the list. -/
theorem placed_pageList : (pageList o now m path).Placed := by
  unfold pageList
  dsimp only
  split
  · exact Check.Placed.fail _ _
  · exact Check.Placed.fail _ _
  · exact placed_pages o now _ _ 0 []

/-- A default page that is none of the pages is a fault at its place. -/
theorem placed_defaultPageId (ps : List Page) :
    (Validation.defaultPageId o m ps path).Placed := by
  unfold Validation.defaultPageId
  split
  · exact Check.Placed.done _
  · exact Check.Placed.mend o _ _ _ _

/-- The version alone decides whether it is supported. -/
theorem version_unsupported_iff {n : Nat} :
    version m path = .error (.unsupportedVersion n) ↔
      (m.get? versionKey).bind Value.nat? = some n ∧ schemaVersion.toNat < n := by
  cases hm : m.get? versionKey with
  | none =>
      unfold version
      rw [hm]
      exact iff_of_false nofun nofun
  | some v =>
      rw [Option.bind_some]
      cases hnat : v.nat? with
      | none =>
          unfold version
          simp only [hm, hnat]
          exact iff_of_false nofun nofun
      | some k =>
          by_cases hnew : schemaVersion.toNat < k
          · have hversion : version m path = .error (.unsupportedVersion k) := by
              unfold version
              simp only [hm, hnat]
              exact if_pos hnew
            rw [hversion]
            constructor
            · intro h
              cases h
              exact ⟨rfl, hnew⟩
            · rintro ⟨h, -⟩
              cases h
              rfl
          · have hversion : version m path = .done (UInt32.ofNat k) := by
              unfold version
              simp only [hm, hnat]
              exact if_neg hnew
            rw [hversion]
            refine iff_of_false nofun ?_
            rintro ⟨h, hlt⟩
            cases h
            exact hnew hlt

/-- The version is read first; what comes after it refuses for faults only. -/
theorem workspace_unsupported_iff (v : Value) {n : Nat} :
    workspace o now v = .error (.unsupportedVersion n) ↔
      (v.get? versionKey).bind Value.nat? = some n ∧ schemaVersion.toNat < n := by
  unfold workspace
  dsimp only
  cases v with
  | object m =>
      show (Check.done m >>= _) = _ ↔ (Keyed.get? versionKey m).bind Value.nat? = some n ∧ _
      rw [Check.done_bind, ← version_unsupported_iff m .root]
      constructor
      · intro h
        rcases Check.bind_eq_error h with h | ⟨k, -, -, h⟩
        · exact h
        · -- all that follows the version refuses for a fault at a place
          refine absurd h (fun h => ?_)
          have hplaced : ∃ fault path, ValidationError.unsupportedVersion n = .schema fault path := by
            refine Check.Placed.bind (placed_requiredText m _ "id") (fun id => ?_) _ h
            refine Check.Placed.bind (placed_requiredText m _ "name") fun name => ?_
            refine Check.Placed.bind (placed_pageList o now m _) fun ps => ?_
            refine Check.Placed.bind (placed_defaultPageId o m _ ps) fun dflt => ?_
            refine Check.Placed.bind (placed_timestamp o now m _ "createdAt") fun createdAt => ?_
            refine Check.Placed.bind (placed_timestamp o now m _ "updatedAt") fun updatedAt => ?_
            exact Check.Placed.done _
          obtain ⟨fault, path, h⟩ := hplaced
          cases h
      · intro h
        rw [h]
        rfl
  | _ => exact iff_of_false nofun (fun h => nomatch h.1)

end Validation

/-! ## §5. The entry point. -/

/-- **A document is refused as unsupported exactly if a newer version stands
under the current key**, in either mode. -/
theorem validate_unsupported_iff (o : ValidationOptions) (now : Instant) (v : Value) {n : Nat} :
    validate o now v = .error (.unsupportedVersion n) ↔
      (v.get? versionKey).bind Value.nat? = some n ∧ schemaVersion.toNat < n := by
  rw [← Validation.workspace_unsupported_iff o now v]
  unfold validate
  cases Validation.workspace o now v with
  | error e =>
      show (Except.error e : Except ValidationError Validated) = _ ↔
        (Except.error e : Check Workspace) = _
      rw [Except.error.injEq, Except.error.injEq]
  | ok r => exact iff_of_false nofun nofun

end Dashboard
