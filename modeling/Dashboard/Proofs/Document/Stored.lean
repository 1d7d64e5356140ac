/-
  Dashboard.Proofs.Document.Stored
  ────────────────────────────────
  **PLAIN DOCUMENTS ARE STORED WITHOUT LOSS.**

  A document is written with the members of its records in the order of the
  field tables, and is read with all members in key order.  Between the two
  stands `Stands`: a value can be read back within a depth, and its normal
  form is another value.  It goes through the records one by one, so that a
  document comes back from its text as soon as the data that it only carries
  does.

  Main results:
    Workspace.stands_encode — the two forms of a document
    lossless_of_plain       — the text of a plain document is read back
-/
import Dashboard.Document.Encoding
import Dashboard.Proofs.Json.Reading

namespace Dashboard

open Grid Json

/-! ## §1. Values. -/

/-- `v` is read back from its text within the depth, as `w`. -/
structure Json.Stands (depth : Nat) (v w : Value) : Prop where
  whole : v.isWhole = true
  depth : v.depth ≤ depth
  normal : v.normalize = w

namespace Json.Stands

variable {n m : Nat} {v w : Value}

/-- A greater depth allows as much. -/
theorem mono (h : Stands n v w) (hle : n ≤ m) : Stands m v w :=
  ⟨h.whole, h.depth.trans hle, h.normal⟩

theorem text (n : Nat) (s : String) : Stands n (.text s) (.text s) :=
  ⟨rfl, Nat.zero_le n, rfl⟩

theorem bool (n : Nat) (b : Bool) : Stands n (.bool b) (.bool b) := ⟨rfl, Nat.zero_le n, rfl⟩

/-- A 32-bit number is no double. -/
theorem word (n : Nat) (k : UInt32) : Stands n (wordValue k) (wordValue k) := by
  refine ⟨?_, Nat.zero_le n, rfl⟩
  have hk := k.toNat_lt
  simp only [wordValue, Value.ofNat, Value.isWhole, Number.isWhole, Bool.and_eq_true,
    decide_eq_true_eq]
  omega

/-- A list is one container deeper than its items. -/
theorem list {α : Type} {f g : α → Value} {as : List α} (h : ∀ a ∈ as, Stands n (f a) (g a)) :
    Stands (n + 1) (.list (as.map f)) (.list (as.map g)) := by
  -- the three properties go through the items together
  suffices hall : allWhole (as.map f) = true ∧ itemDepth (as.map f) ≤ n ∧
      normalizeItems (as.map f) = as.map g by
    exact ⟨hall.1, Nat.succ_le_succ hall.2.1, congrArg Value.list hall.2.2⟩
  induction as with
  | nil => exact ⟨rfl, Nat.zero_le n, rfl⟩
  | cons a rest ih =>
      have ha := h a List.mem_cons_self
      obtain ⟨hwhole, hdepth, hnormal⟩ := ih fun b hb => h b (List.mem_cons_of_mem a hb)
      refine ⟨?_, ?_, ?_⟩
      · rw [List.map_cons, allWhole, ha.whole, hwhole]
        rfl
      · exact Nat.max_le.mpr ⟨ha.depth, hdepth⟩
      · rw [List.map_cons, normalizeItems, ha.normal, hnormal, List.map_cons]

/-- The fields of a record, one by one. -/
inductive Fields (n : Nat) :
    List (String × Option Value) → List (String × Option Value) → Prop
  | nil : Fields n [] []
  | absent (key : String) {fs gs : List (String × Option Value)} (h : Fields n fs gs) :
      Fields n ((key, none) :: fs) ((key, none) :: gs)
  | present (key : String) {v w : Value} {fs gs : List (String × Option Value)}
      (hv : Stands n v w) (h : Fields n fs gs) :
      Fields n ((key, some v) :: fs) ((key, some w) :: gs)

/-- A field that may be absent is absent in both forms or in neither. -/
theorem Fields.optional (key : String) {α : Type} {f g : α → Value} {a : Option α}
    {fs gs : List (String × Option Value)} (ha : ∀ b ∈ a, Stands n (f b) (g b))
    (h : Fields n fs gs) : Fields n ((key, a.map f) :: fs) ((key, a.map g) :: gs) := by
  cases a with
  | none => exact .absent key h
  | some b => exact .present key (ha b rfl) h

/-- A flag is written only when it is on. -/
theorem Fields.flag (key : String) (b : Bool) {fs gs : List (String × Option Value)}
    (h : Fields n fs gs) : Fields n ((key, flagField b) :: fs) ((key, flagField b) :: gs) := by
  cases b with
  | false => exact .absent key h
  | true => exact .present key (.bool n true) h

/-- A record, its members in the two orders. -/
theorem record {fs gs : List (String × Option Value)} (h : Fields n fs gs) :
    Stands (n + 1) (Shape.inFieldOrder (presentFields fs))
      (Shape.inKeyOrder (presentFields gs)) := by
  -- the members are sorted last, so the induction sees them in field order
  suffices hall : allWholeMembers (presentFields fs) = true ∧
      memberDepth (presentFields fs) ≤ n ∧
      normalizeMembers (presentFields fs) = presentFields gs by
    refine ⟨hall.1, Nat.succ_le_succ hall.2.1, ?_⟩
    show Value.object (Keyed.ofList (normalizeMembers (presentFields fs))) = _
    rw [hall.2.2]
    rfl
  induction h with
  | nil => exact ⟨rfl, Nat.zero_le n, rfl⟩
  | absent key _ ih => exact ih
  | @present key v w fs gs hv _ ih =>
      obtain ⟨hwhole, hdepth, hnormal⟩ := ih
      show allWholeMembers ((key, v) :: presentFields fs) = true ∧
        memberDepth ((key, v) :: presentFields fs) ≤ n ∧
        normalizeMembers ((key, v) :: presentFields fs) = (key, w) :: presentFields gs
      refine ⟨?_, Nat.max_le.mpr ⟨hv.depth, hdepth⟩, ?_⟩
      · rw [allWholeMembers, hv.whole, hwhole]
        rfl
      · rw [normalizeMembers, hv.normal, hnormal]

end Json.Stands

/-! ## §2. Plain documents. -/

/-- How deep the data may be that a document only carries: seven containers
of the document itself stand around it. -/
def carriedDepth : Nat := nestingLimit - 7

/-- Data without doubles, in normal form and not too deep. -/
def Json.Value.isPlain (v : Value) : Bool :=
  v.isWhole && v.isNormal && decide (v.depth ≤ carriedDepth)

/-- The data that a panel carries is plain. -/
def Panel.isPlain (p : Panel) : Bool :=
  (Value.object p.dataSpec).isPlain && (Value.object p.viewSpec).isPlain &&
    p.frame.freeform.all (·.isPlain)

/-- The data that a layout carries is plain. -/
def Layout.isPlain (l : Layout) : Bool :=
  l.panels.all (·.isPlain) && l.freeformSpec.all (·.isPlain) && l.splitSpec.all (·.isPlain)

/-- The data that a document carries is plain. -/
def Workspace.isPlain (w : Workspace) : Bool := w.pages.all (·.layout.isPlain)

/-- Plain data is in normal form already. -/
theorem Json.Value.stands_of_plain {v : Value} (h : v.isPlain = true) :
    Stands carriedDepth v v := by
  obtain ⟨hboth, hdepth⟩ := (Bool.and_eq_true _ _).mp h
  obtain ⟨hwhole, hnormal⟩ := (Bool.and_eq_true _ _).mp hboth
  exact ⟨hwhole, of_decide_eq_true hdepth, v.normalize_of_normal hnormal⟩

/-- A field of data that a record only carries. -/
theorem Json.Stands.Fields.carried {n : Nat} (hle : carriedDepth ≤ n) (key : String) {v : Option Value}
    (hv : v.all (·.isPlain) = true) {fs gs : List (String × Option Value)} (h : Fields n fs gs) :
    Fields n ((key, v) :: fs) ((key, v) :: gs) := by
  cases v with
  | none => exact .absent key h
  | some v => exact .present key ((v.stands_of_plain hv).mono hle) h

/-! ## §3. Records. -/

theorem Grid.Rect.stands_encode (r : Rect) :
    Stands 1 (r.encode .inFieldOrder) (r.encode .inKeyOrder) := by
  have hfields := Stands.Fields.present "x" (.word 0 r.x) (.present "y" (.word 0 r.y)
    (.present "w" (.word 0 r.w) (.present "h" (.word 0 r.h) .nil)))
  exact .record hfields

theorem Grid.Spec.stands_encode (s : Spec) :
    Stands 1 (s.encode .inFieldOrder) (s.encode .inKeyOrder) := by
  have hfields := Stands.Fields.present "columns" (.word 0 s.columns)
    (.present "rowHeight" (.word 0 s.rowHeight) (.present "gap" (.word 0 s.gap) .nil))
  exact .record hfields

/-- Its rectangle is shallow; the data beside it may be as deep as allowed. -/
theorem Frame.stands_encode {f : Frame} (h : f.freeform.all (·.isPlain) = true) :
    Stands (carriedDepth + 1) (f.encode .inFieldOrder) (f.encode .inKeyOrder) := by
  have hgrid : ∀ r ∈ f.grid, Stands carriedDepth (r.encode .inFieldOrder) (r.encode .inKeyOrder) :=
    fun r _ => r.stands_encode.mono (by decide)
  have hfields := Stands.Fields.optional "grid" hgrid
    (.carried (Nat.le_refl _) "freeform" h .nil)
  exact .record hfields

/-- Its specifications and its frame, one container deeper. -/
theorem Panel.stands_encode {p : Panel} (h : p.isPlain = true) :
    Stands (carriedDepth + 2) (p.encode .inFieldOrder) (p.encode .inKeyOrder) := by
  obtain ⟨hspecs, hfree⟩ := (Bool.and_eq_true _ _).mp h
  obtain ⟨hdata, hview⟩ := (Bool.and_eq_true _ _).mp hspecs
  have hle : carriedDepth ≤ carriedDepth + 1 := Nat.le_succ _
  have htitle : ∀ s ∈ p.title, Stands (carriedDepth + 1) (.text s) (.text s) :=
    fun s _ => .text _ s
  have hfields := Stands.Fields.present "id" (.text _ p.id) (.present "widgetId"
    (.text _ p.widgetId) (.optional "title" htitle
    (.present "dataSpec" ((Value.stands_of_plain hdata).mono hle)
    (.present "viewSpec" ((Value.stands_of_plain hview).mono hle)
    (.present "frame" (Frame.stands_encode hfree)
    (.flag "locked" p.locked (.flag "pinned" p.pinned (.flag "protected" p.guarded
    (.present "createdAt" (.text _ p.createdAt) (.present "updatedAt" (.text _ p.updatedAt)
      .nil))))))))))
  exact .record hfields

/-- The list of panels and the layout itself are two more containers. -/
theorem Layout.stands_encode {l : Layout} (h : l.isPlain = true) :
    Stands (carriedDepth + 4) (l.encode .inFieldOrder) (l.encode .inKeyOrder) := by
  obtain ⟨hfirst, hsplit⟩ := (Bool.and_eq_true _ _).mp h
  obtain ⟨hpanels, hfree⟩ := (Bool.and_eq_true _ _).mp hfirst
  have hpanel : ∀ p ∈ l.panels, Stands (carriedDepth + 2) (p.encode .inFieldOrder)
      (p.encode .inKeyOrder) := fun p hp => Panel.stands_encode (List.all_eq_true.mp hpanels p hp)
  have hspec : ∀ g ∈ l.gridSpec, Stands (carriedDepth + 3) (g.encode .inFieldOrder)
      (g.encode .inKeyOrder) := fun g _ => g.stands_encode.mono (by decide)
  have hle : carriedDepth ≤ carriedDepth + 3 := Nat.le_add_right _ 3
  have hfields := Stands.Fields.present "kind" (.text _ l.kind.name) (.present "panels"
    (.list hpanel) (.optional "gridSpec" hspec (.carried hle "freeformSpec" hfree
    (.carried hle "splitSpec" hsplit .nil))))
  exact .record hfields

/-- A page adds one more. -/
theorem Page.stands_encode {p : Page} (h : p.layout.isPlain = true) :
    Stands (carriedDepth + 5) (p.encode .inFieldOrder) (p.encode .inKeyOrder) := by
  have hfields := Stands.Fields.present "id" (.text _ p.id) (.present "title" (.text _ p.title)
    (.present "layout" (Layout.stands_encode h) .nil))
  exact .record hfields

/-- **The two forms of a document.** -/
theorem Workspace.stands_encode {w : Workspace} (h : w.isPlain = true) :
    Stands nestingLimit (w.encode .inFieldOrder) w.asValue := by
  have hpage : ∀ p ∈ w.pages, Stands (carriedDepth + 5) (p.encode .inFieldOrder)
      (p.encode .inKeyOrder) := fun p hp => Page.stands_encode (List.all_eq_true.mp h p hp)
  have hfields := Stands.Fields.present "id" (.text _ w.id) (.present "name" (.text _ w.name)
    (.present "pages" (.list hpage) (.present "defaultPageId" (.text _ w.defaultPageId)
    (.present "createdAt" (.text _ w.createdAt) (.present "updatedAt" (.text _ w.updatedAt)
    (.present "schemaVersion" (.word _ w.schemaVersion) .nil))))))
  exact .record hfields

/-! ## §4. The text of a document. -/

/-- The text of the document is read back to its data. -/
def Workspace.Lossless (w : Workspace) : Prop := readNormal w.compactText = some w.asValue

/-- **A plain document is stored without loss.** -/
theorem Workspace.lossless_of_plain {w : Workspace} (h : w.isPlain = true) : w.Lossless := by
  have hstands := Workspace.stands_encode h
  rw [Lossless, compactText, readNormal_compact hstands.whole hstands.depth, hstands.normal]

end Dashboard
