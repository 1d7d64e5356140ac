/-
  Dashboard.Proofs.Document.Export
  ────────────────────────────────
  **VALIDATION READS BACK WHAT WAS WRITTEN.**

  A typed document is written by field tables and read by a walk over the
  JSON data; the two name every field on their own.  This file brings them
  together, table by table: on the members that a well-formed record writes,
  each check accepts the field's own value and reports nothing.  The mode
  plays no part, since nothing has to be repaired.

  Main results:
    Panel.check_encode, Layout.check_encode, Page.check_encode
                        — one record each
    validate_asValue    — a whole document
-/
import Dashboard.Proofs.Document.Check
import Dashboard.Proofs.Document.WellFormed
import Dashboard.Proofs.Keyed

namespace Dashboard

open Grid Json Time

/-! ## §1. Looking up what a table writes. -/

/-- A member is written for a field that is there, under its own key. -/
theorem get?_presentFields (k : String) (fields : List (String × Option Value))
    (nodup : (fields.map (·.1)).Nodup) :
    Keyed.get? k (presentFields fields) = (Keyed.get? k fields).join := by
  induction fields with
  | nil => rfl
  | cons f rest ih =>
      obtain ⟨l, v⟩ := f
      rw [List.map_cons, List.nodup_cons] at nodup
      have habsent : l = k → Keyed.get? k (presentFields rest) = none := by
        rintro rfl
        rw [ih nodup.2, Keyed.get?_eq_none_of_notMem nodup.1]
        rfl
      cases v with
      | none =>
          -- an absent field is not written, and no other field has its key
          show Keyed.get? k (presentFields rest) = _
          by_cases h : l = k
          · rw [habsent h, Keyed.get?, if_pos h]
            rfl
          · rw [ih nodup.2, Keyed.get?, if_neg h]
      | some v =>
          show Keyed.get? k ((l, v) :: presentFields rest) = _
          rw [Keyed.get?, Keyed.get?]
          by_cases h : l = k
          · rw [if_pos h, if_pos h]
            rfl
          · rw [if_neg h, if_neg h, ih nodup.2]

/-- The keys written are among those of the table, in its order. -/
theorem keys_presentFields (fields : List (String × Option Value)) :
    ((presentFields fields).map (·.1)).Sublist (fields.map (·.1)) := by
  induction fields with
  | nil => exact List.Sublist.refl _
  | cons f rest ih =>
      obtain ⟨l, v⟩ := f
      cases v with
      | none => exact ih.cons _
      | some v => exact ih.cons_cons _

/-- The members of a record in key order answer as its table does. -/
theorem get?_record (k : String) (fields : List (String × Option Value))
    (nodup : (fields.map (·.1)).Nodup) :
    Keyed.get? k (Keyed.ofList (presentFields fields)) = (Keyed.get? k fields).join := by
  rw [Keyed.get?_ofList_of_nodup k _ (nodup.sublist (keys_presentFields fields)),
    get?_presentFields k fields nodup]

/-! ## §2. One field. -/

/-- A number written as such is read back. -/
theorem nat?_ofNat (n : Nat) : (Value.ofNat n).nat? = some n := by
  simp [Value.ofNat, Value.nat?]

/-- A 32-bit number is read back as one. -/
theorem word32?_wordValue (n : UInt32) : (wordValue n).word32? = some n := by
  rw [wordValue, Value.word32?, nat?_ofNat, Option.bind_some, if_pos n.toNat_lt,
    UInt32.ofNat_toNat]

namespace Validation

variable (o : ValidationOptions) (now : Instant) {m : Members} {key : String} (path : Path)

/-- A text that is not blank is found. -/
theorem filledText?_eq {s : String} (h : m.get? key = some (.text s)) (hs : Text.Filled s) :
    filledText? m key = some s := by
  unfold Text.Filled at hs
  simp [filledText?, h, Value.text?, hs]

theorem requiredText_eq {s : String} (h : m.get? key = some (.text s)) (hs : Text.Filled s) :
    requiredText m key path = .done s := by
  rw [requiredText, filledText?_eq h hs]

/-- A timestamp need not be a date, only a text that is not empty. -/
theorem timestamp_eq {s : String} (h : m.get? key = some (.text s)) (hs : s ≠ "") :
    timestamp o now m key path = .done s := by
  rw [timestamp, h]
  exact if_pos hs

/-- A flag that is off is not written, and read as off. -/
theorem flag_eq {b : Bool} (h : m.get? key = flagField b) : flag o m key path = .done b := by
  rw [flag, h]
  cases b <;> rfl

/-- Data that is only carried is read back, unless it is null. -/
theorem kept_eq {v : Option Value} (h : m.get? key = v) (hv : v ≠ some .null) :
    kept m key = v := by
  rw [kept, h]
  match v with
  | none => rfl
  | some .null => exact absurd rfl hv
  | some (.bool _) | some (.number _) | some (.text _) | some (.list _) | some (.object _) => rfl

theorem spec_eq {s : Members} (standard : Members) (h : m.get? key = some (.object s)) :
    spec o m key path standard = .done s := by
  rw [spec, h]

theorem cell_eq {n : UInt32} (standard : UInt32) (h : m.get? key = some (wordValue n)) :
    cell o m key path standard = .done n := by
  rw [cell, word?, h, Option.bind_some, word32?_wordValue]

theorem panelTitle_eq {t : Option String} (h : m.get? "title" = t.map .text) :
    panelTitle o m path = .done t := by
  rw [panelTitle, h]
  cases t <;> rfl

/-- The id is filled and known, so nothing takes its place. -/
theorem widget_eq {id : String} (h : m.get? "widgetId" = some (.text id)) (hid : o.Accepts id) :
    widget o m path = .done id := by
  rw [widget, requiredText_eq path h hid.1, Check.done_bind]
  exact if_pos hid.2

/-- Each kind is known by its name. -/
theorem kind_eq {k : LayoutKind} (h : m.get? "kind" = some (.text k.name)) :
    kind o m path = .done k := by
  rw [kind, h]
  cases k <;> rfl

end Validation

/-! ## §3. Rectangles, grids and frames. -/

open Validation

/-- A rectangle that fits is read back without being clamped. -/
theorem Grid.Rect.check_encode (o : ValidationOptions) (path : Path) {columns : UInt32}
    {r : Rect} (h : r.fits columns = true) :
    rect o (r.encode .inKeyOrder) path columns = .done r := by
  have look : ∀ k, Keyed.get? k (Keyed.ofList [("x", wordValue r.x), ("y", wordValue r.y),
      ("w", wordValue r.w), ("h", wordValue r.h)]) = Keyed.get? k _ := fun k =>
    Keyed.get?_ofList_of_nodup k _ (show ["x", "y", "w", "h"].Nodup by decide)
  have hx := cell_eq o path 0 ((look "x").trans rfl)
  have hy := cell_eq o path 0 ((look "y").trans rfl)
  have hw := cell_eq o path repairRect.w ((look "w").trans rfl)
  have hh := cell_eq o path repairRect.h ((look "h").trans rfl)
  unfold rect
  simp only [Rect.encode, Shape.inKeyOrder, Value.ofMembers, Value.members?, hx, hy, hw, hh,
    Check.done_bind, h, if_true]

/-- A usable grid is read back. -/
theorem Grid.Spec.usableSpec?_encode {s : Spec} (h : s.Usable) :
    usableSpec? (s.encode .inKeyOrder) = some s := by
  have look : ∀ k, Keyed.get? k (Keyed.ofList [("columns", wordValue s.columns),
      ("rowHeight", wordValue s.rowHeight), ("gap", wordValue s.gap)]) = Keyed.get? k _ := fun k =>
    Keyed.get?_ofList_of_nodup k _ (show ["columns", "rowHeight", "gap"].Nodup by decide)
  have word : ∀ {k n}, Keyed.get? k (Keyed.ofList [("columns", wordValue s.columns),
      ("rowHeight", wordValue s.rowHeight), ("gap", wordValue s.gap)]) = some (wordValue n) →
      word? (Keyed.ofList [("columns", wordValue s.columns),
        ("rowHeight", wordValue s.rowHeight), ("gap", wordValue s.gap)]) k = some n := by
    intro k n hk
    rw [word?, hk, Option.bind_some, word32?_wordValue]
  have hc := word ((look "columns").trans rfl)
  have hr := word ((look "rowHeight").trans rfl)
  have hg := word ((look "gap").trans rfl)
  simp [usableSpec?, Spec.encode, Shape.inKeyOrder, Value.ofMembers, Value.members?, hc, hr, hg,
    h.columns, h.rowHeight]

/-- The field table of a frame. -/
def Frame.fields (f : Frame) : List (String × Option Value) :=
  [("grid", f.grid.map (·.encode .inKeyOrder)), ("freeform", f.freeform)]

/-- With a rectangle or without one. -/
theorem Frame.check_encode (o : ValidationOptions) {m : Members} (path : Path)
    {columns : UInt32} {f : Frame} (hm : m.get? "frame" = some (f.encode .inKeyOrder))
    (h : f.WellFormed columns) : frame o m path columns = .done f := by
  have look : ∀ k, Keyed.get? k (Keyed.ofList (presentFields f.fields))
      = (Keyed.get? k f.fields).join := fun k =>
    get?_record k f.fields (show ["grid", "freeform"].Nodup by decide)
  have hgrid : frameRect o (Keyed.ofList (presentFields f.fields)) (path.key "frame") columns
      = .done f.grid := by
    have hg : Keyed.get? "grid" (Keyed.ofList (presentFields f.fields))
        = f.grid.map (·.encode .inKeyOrder) := look "grid"
    rw [frameRect, hg]
    cases hgr : f.grid with
    | none => rfl
    | some r =>
        show (rect o (r.encode .inKeyOrder) _ columns >>= fun r => Check.done (some r)) = _
        rw [Rect.check_encode o _ (h.fits r hgr), Check.done_bind]
  have hfree : kept (Keyed.ofList (presentFields f.fields)) "freeform" = f.freeform :=
    kept_eq (look "freeform") h.freeform
  unfold frame
  rw [hm]
  show (frameRect o (Keyed.ofList (presentFields f.fields)) (path.key "frame") columns >>=
    fun grid => Check.done
      (Frame.mk grid (kept (Keyed.ofList (presentFields f.fields)) "freeform"))) = _
  rw [hgrid, Check.done_bind, hfree]

/-! ## §4. Panels. -/

/-- The field table of a panel. -/
def Panel.fields (p : Panel) : List (String × Option Value) :=
  [("id", some (.text p.id)), ("widgetId", some (.text p.widgetId)),
    ("title", p.title.map .text), ("dataSpec", some (.object p.dataSpec)),
    ("viewSpec", some (.object p.viewSpec)), ("frame", some (p.frame.encode .inKeyOrder)),
    ("locked", flagField p.locked), ("pinned", flagField p.pinned),
    ("protected", flagField p.guarded), ("createdAt", some (.text p.createdAt)),
    ("updatedAt", some (.text p.updatedAt))]

/-- The members of a panel answer as its table does. -/
theorem Panel.get?_fields (p : Panel) (k : String) :
    Keyed.get? k (Keyed.ofList (presentFields p.fields)) = (Keyed.get? k p.fields).join :=
  get?_record k p.fields (show ["id", "widgetId", "title", "dataSpec", "viewSpec", "frame",
    "locked", "pinned", "protected", "createdAt", "updatedAt"].Nodup by decide)

/-- **One panel is read back.** -/
theorem Panel.check_encode (o : ValidationOptions) (now : Instant) (path : Path)
    {columns : UInt32} {p : Panel} (h : p.WellFormed o.Accepts columns) :
    panel o now (p.encode .inKeyOrder) path columns = .done p := by
  have look := p.get?_fields
  have hid := requiredText_eq path (look "id") h.id
  have hwidget := widget_eq o path (look "widgetId") h.widgetId
  have htitle := panelTitle_eq o path (look "title")
  have hdata := spec_eq o path (dataSpecFor placeholderWidget)
    (look "dataSpec")
  have hview := spec_eq o path (viewSpecFor placeholderWidget)
    (look "viewSpec")
  have hframe := Frame.check_encode o path (look "frame") h.frame
  have hlocked := flag_eq o path (look "locked")
  have hpinned := flag_eq o path (look "pinned")
  have hguarded := flag_eq o path (look "protected")
  have hcreated := timestamp_eq o now path (look "createdAt") h.createdAt
  have hupdated := timestamp_eq o now path (look "updatedAt") h.updatedAt
  -- every field is read back by now, so the walk goes through
  have hobject : object (p.encode .inKeyOrder) path "panel"
      = .done (Keyed.ofList (presentFields p.fields)) := rfl
  unfold panel
  simp only [hobject, hid, hwidget, htitle, hdata, hview, hframe, hlocked, hpinned, hguarded,
    hcreated, hupdated, Check.done_bind]

/-- By induction on the panels; none of their ids has been seen before. -/
theorem Panel.checkAll_encode (o : ValidationOptions) (now : Instant) (path : Path)
    {columns : UInt32} {ps : List Panel} (h : ∀ p ∈ ps, p.WellFormed o.Accepts columns)
    (i : Nat) {seen : List String} (fresh : FreshIds Panel.id seen ps) :
    panels o now path columns i seen (ps.map (·.encode .inKeyOrder)) = .done ps := by
  induction ps generalizing i seen with
  | nil => rfl
  | cons p rest ih =>
      obtain ⟨hunseen, hfresh⟩ := FreshIds.cons_iff.mp fresh
      have hseen : seen.contains p.id = false := by simpa using hunseen
      have hrest : panels o now path columns (i + 1) (p.id :: seen)
          (rest.map (·.encode .inKeyOrder)) = .done rest :=
        ih (fun q hq => h q (List.mem_cons_of_mem _ hq)) (i + 1) hfresh
      rw [List.map_cons, panels,
        Panel.check_encode o now (path.index i) (h p List.mem_cons_self), Check.done_bind, hseen]
      show (panels o now path columns (i + 1) (p.id :: seen) _ >>= fun more =>
        Check.done (p :: more)) = _
      rw [hrest, Check.done_bind]

/-! ## §5. Layouts and pages. -/

/-- The field table of a layout. -/
def Layout.fields (l : Layout) : List (String × Option Value) :=
  [("kind", some (.text l.kind.name)),
    ("panels", some (.list (l.panels.map (·.encode .inKeyOrder)))),
    ("gridSpec", l.gridSpec.map (·.encode .inKeyOrder)),
    ("freeformSpec", l.freeformSpec), ("splitSpec", l.splitSpec)]

/-- The members of a layout answer as its table does. -/
theorem Layout.get?_fields (l : Layout) (k : String) :
    Keyed.get? k (Keyed.ofList (presentFields l.fields)) = (Keyed.get? k l.fields).join :=
  get?_record k l.fields
    (show ["kind", "panels", "gridSpec", "freeformSpec", "splitSpec"].Nodup by decide)

theorem Validation.gridSpec_eq (o : ValidationOptions) (path : Path) {m : Members}
    {g : Option Spec} (hm : m.get? "gridSpec" = g.map (·.encode .inKeyOrder))
    (h : ∀ s ∈ g, s.Usable) : gridSpec o m path = .done g := by
  have hkept : kept m "gridSpec" = g.map (·.encode .inKeyOrder) := by
    refine kept_eq hm ?_
    cases g with
    | none => exact nofun
    | some s => exact fun hnull => nomatch Option.some.inj hnull
  rw [gridSpec, hkept]
  cases g with
  | none => rfl
  | some s =>
      -- a usable grid is taken as it is
      dsimp only [Option.map_some]
      rw [Spec.usableSpec?_encode (h s rfl)]

/-- **One layout is read back**, its panels by the columns of its own grid. -/
theorem Layout.check_encode (o : ValidationOptions) (now : Instant) (path : Path) {l : Layout}
    (h : l.WellFormed o.Accepts o.gridDefaults) :
    layout o now (l.encode .inKeyOrder) path = .done l := by
  have look := l.get?_fields
  have hkind := kind_eq o path (look "kind")
  have hgrid := Validation.gridSpec_eq o path (look "gridSpec") h.gridSpec
  have hpanels : panelList o now (Keyed.ofList (presentFields l.fields)) path
      (l.gridSpec.getD o.gridDefaults).columns = .done l.panels := by
    unfold panelList
    rw [look "panels"]
    exact Panel.checkAll_encode o now _ h.panels.each 0 (.of_distinct h.panels.distinct)
  have hfree := kept_eq (look "freeformSpec") h.freeformSpec
  have hsplit := kept_eq (look "splitSpec") h.splitSpec
  have hobject : object (l.encode .inKeyOrder) path "layout"
      = .done (Keyed.ofList (presentFields l.fields)) := rfl
  unfold layout
  simp only [hobject, hkind, hgrid, hpanels, Check.done_bind]
  rw [hfree, hsplit]
  rfl

/-- The members of a page answer as its table does. -/
theorem Page.get?_fields (p : Page) (k : String) :
    Keyed.get? k (Keyed.ofList [("id", .text p.id), ("title", .text p.title),
      ("layout", p.layout.encode .inKeyOrder)])
      = Keyed.get? k [("id", Value.text p.id), ("title", .text p.title),
        ("layout", p.layout.encode .inKeyOrder)] :=
  Keyed.get?_ofList_of_nodup k _ (show ["id", "title", "layout"].Nodup by decide)

/-- **One page is read back.** -/
theorem Page.check_encode (o : ValidationOptions) (now : Instant) (path : Path) {p : Page}
    (h : p.WellFormed o.Accepts o.gridDefaults) :
    page o now (p.encode .inKeyOrder) path = .done p := by
  have look := p.get?_fields
  have hid := requiredText_eq path (look "id") h.id
  have htitle : pageTitle o (Keyed.ofList [("id", .text p.id), ("title", .text p.title),
      ("layout", p.layout.encode .inKeyOrder)]) p.id path = .done p.title := by
    rw [pageTitle, filledText?_eq (look "title") h.title]
  have hlayout := Layout.check_encode o now (path.key "layout") h.layout
  have hobject : object (p.encode .inKeyOrder) path "page" = .done (Keyed.ofList
      [("id", .text p.id), ("title", .text p.title), ("layout", p.layout.encode .inKeyOrder)]) := rfl
  unfold page
  simp only [hobject, hid, htitle, Check.done_bind]
  rw [look "layout"]
  show (Validation.layout o now (p.layout.encode .inKeyOrder) _ >>= fun layout =>
    Check.done (Page.mk p.id p.title layout)) = _
  rw [hlayout, Check.done_bind]

/-- By induction on the pages; none of their ids has been seen before. -/
theorem Page.checkAll_encode (o : ValidationOptions) (now : Instant) (path : Path)
    {ps : List Page} (h : ∀ p ∈ ps, p.WellFormed o.Accepts o.gridDefaults) (i : Nat)
    {seen : List String} (fresh : FreshIds Page.id seen ps) :
    pages o now path i seen (ps.map (·.encode .inKeyOrder)) = .done ps := by
  induction ps generalizing i seen with
  | nil => rfl
  | cons p rest ih =>
      obtain ⟨hunseen, hfresh⟩ := FreshIds.cons_iff.mp fresh
      have hseen : seen.contains p.id = false := by simpa using hunseen
      have hrest : pages o now path (i + 1) (p.id :: seen)
          (rest.map (·.encode .inKeyOrder)) = .done rest :=
        ih (fun q hq => h q (List.mem_cons_of_mem _ hq)) (i + 1) hfresh
      rw [List.map_cons, pages,
        Page.check_encode o now (path.index i) (h p List.mem_cons_self), Check.done_bind, hseen]
      show (pages o now path (i + 1) (p.id :: seen) _ >>= fun more =>
        Check.done (p :: more)) = _
      rw [hrest, Check.done_bind]

/-! ## §6. Documents. -/

/-- The field table of a document. -/
def Workspace.fields (w : Workspace) : Members :=
  [("id", .text w.id), ("name", .text w.name),
    ("pages", .list (w.pages.map (·.encode .inKeyOrder))),
    ("defaultPageId", .text w.defaultPageId), ("createdAt", .text w.createdAt),
    ("updatedAt", .text w.updatedAt), ("schemaVersion", wordValue w.schemaVersion)]

/-- The members of a document answer as its table does. -/
theorem Workspace.get?_fields (w : Workspace) (k : String) :
    Keyed.get? k (Keyed.ofList w.fields) = Keyed.get? k w.fields :=
  Keyed.get?_ofList_of_nodup k _ (show ["id", "name", "pages", "defaultPageId", "createdAt",
    "updatedAt", "schemaVersion"].Nodup by decide)

/-- A version that is not newer is read back. -/
theorem Validation.version_eq (path : Path) {m : Members} {n : UInt32}
    (hm : m.get? versionKey = some (wordValue n)) (h : n ≤ schemaVersion) :
    version m path = .done n := by
  have hle : ¬ schemaVersion.toNat < n.toNat := not_lt.mpr (UInt32.le_iff_toNat_le.mp h)
  have hnat : (wordValue n).nat? = some n.toNat := nat?_ofNat _
  unfold version
  simp only [hm, hnat, UInt32.ofNat_toNat]
  exact if_neg hle

/-- The walk over a whole document; it has pages, among them the default one. -/
theorem Workspace.check_encode (o : ValidationOptions) (now : Instant) {w : Workspace}
    (h : w.ValidFor o) : workspace o now w.asValue = .done w := by
  have look := w.get?_fields
  have hversion := Validation.version_eq Path.root (look versionKey) h.version
  have hid := requiredText_eq Path.root (look "id") h.id
  have hname := requiredText_eq Path.root (look "name") h.name
  have hpages : pageList o now (Keyed.ofList w.fields) Path.root = .done w.pages := by
    have hitems : (Keyed.get? "pages" (Keyed.ofList w.fields)).bind Value.items?
        = some (w.pages.map (·.encode .inKeyOrder)) := by
      rw [look "pages"]
      rfl
    have hall := Page.checkAll_encode o now (Path.root.key "pages") h.pages 0
      (.of_distinct h.distinct)
    unfold pageList
    rw [hitems]
    -- a list of pages without an item is refused
    cases hp : w.pages with
    | nil => exact absurd hp h.nonempty
    | cons p rest =>
        rw [hp] at hall
        exact hall
  have hdefault : Validation.defaultPageId o (Keyed.ofList w.fields) w.pages Path.root
      = .done w.defaultPageId := by
    rw [Validation.defaultPageId, filledText?_eq (look "defaultPageId") h.defaultPageId]
  have hcreated := timestamp_eq o now Path.root (look "createdAt") h.createdAt
  have hupdated := timestamp_eq o now Path.root (look "updatedAt") h.updatedAt
  have hobject : object w.asValue Path.root "workspace" = .done (Keyed.ofList w.fields) := rfl
  unfold workspace
  simp only [hobject, hversion, hid, hname, hpages, hdefault, hcreated, hupdated,
    Check.done_bind]

/-- **Validation reads back what was written.**  In either mode, and whatever
the clock reads. -/
theorem validate_asValue (o : ValidationOptions) (now : Instant) {w : Workspace}
    (h : w.ValidFor o) : validate o now w.asValue = .ok ⟨w, []⟩ := by
  unfold validate
  rw [Workspace.check_encode o now h]
  rfl

end Dashboard
