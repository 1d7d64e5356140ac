/-
  Dashboard.Proofs.Document.Stamps
  ────────────────────────────────
  **STRICT ACCEPTANCE CARRIES OVER TO SAFE MODE, AT ANY CLOCK READING.**

  Where strict mode accepts, the clock fills in the timestamps that the data
  lacks and nothing else.  So the document read at one clock reading becomes
  that of another by setting exactly these timestamps (`stamped`), and with
  `Modes` this holds from one mode to the other as well.

  Main results:
    restamped_timestamp, …  — one check each, at two clock readings
    safe_agrees_with_strict — both modes, at any two clock readings
-/
import Dashboard.Proofs.Document.Modes

namespace Dashboard

open Grid Json Time

/-! ## §1. Timestamps that the data lacks. -/

/-- Nothing stands under a key; null counts as nothing. -/
def Json.Value.lacks (v : Value) (key : String) : Bool :=
  match v.get? key with
  | none | some .null => true
  | some _ => false

/-- A timestamp, or the stamp of a clock reading where the data lacks one. -/
def stampedUnder (key : String) (t : Instant) (v : Value) (stamp : String) : String :=
  if v.lacks key then t.stamp else stamp

/-- A panel with the timestamps that its data lacks set to a clock reading. -/
def Panel.stamped (t : Instant) (v : Value) (p : Panel) : Panel :=
  { p with
    createdAt := stampedUnder "createdAt" t v p.createdAt
    updatedAt := stampedUnder "updatedAt" t v p.updatedAt }

/-- A layout with such panels. -/
def Layout.stamped (t : Instant) (v : Value) (l : Layout) : Layout :=
  { l with panels := List.zipWith (Panel.stamped t) (Validation.itemsUnder "panels" v) l.panels }

/-- A page with such panels. -/
def Page.stamped (t : Instant) (v : Value) (p : Page) : Page :=
  { p with layout := p.layout.stamped t ((v.get? "layout").getD .null) }

/-- A document with the timestamps that its data lacks set to a clock reading. -/
def Workspace.stamped (t : Instant) (v : Value) (w : Workspace) : Workspace :=
  { w with
    pages := List.zipWith (Page.stamped t) (Validation.itemsUnder "pages" v) w.pages
    createdAt := stampedUnder "createdAt" t v w.createdAt
    updatedAt := stampedUnder "updatedAt" t v w.updatedAt }

namespace Validation

/-! ## §2. Strict checks at two clock readings. -/

variable (o : ValidationOptions) (t₁ t₂ : Instant)

/-- In strict mode a repair is refused, whatever it would have given. -/
theorem restamped_mend {α β : Type} {R : α → β → Prop} (path : Path) (fault : Fault)
    (repair repair' : Repair) (a : α) (b : β) :
    Check.Alike R ((o.inMode .strict).mend path fault repair a)
      ((o.inMode .strict).mend path fault repair' b) :=
  Check.Alike.fail path fault

/-- A timestamp that is missing is that of the other clock. -/
theorem restamped_timestamp (m : Members) (key : String) (path : Path) :
    Check.Alike (fun a b => b = stampedUnder key t₂ (.object m) a)
      (timestamp (o.inMode .strict) t₁ m key path)
      (timestamp (o.inMode .strict) t₂ m key path) := by
  have get : (Value.object m).get? key = m.get? key := rfl
  unfold timestamp
  split
  next h => exact Check.Alike.done (by rw [stampedUnder, Value.lacks, get, h, if_pos rfl])
  next h => exact Check.Alike.done (by rw [stampedUnder, Value.lacks, get, h, if_pos rfl])
  next s h =>
    have hkept : stampedUnder key t₂ (.object m) s = s := by
      rw [stampedUnder, Value.lacks, get, h, if_neg Bool.false_ne_true]
    split
    next => exact Check.Alike.done hkept.symm
    next => exact restamped_mend o _ _ _ _ _ _
  next => exact restamped_mend o _ _ _ _ _ _

/-- A panel, stamped where its data has no timestamps. -/
theorem restamped_panel (v : Value) (path : Path) (columns : UInt32) :
    Check.Alike (fun p q => q = p.stamped t₂ v)
      (panel (o.inMode .strict) t₁ v path columns)
      (panel (o.inMode .strict) t₂ v path columns) := by
  unfold panel
  refine Check.Alike.bind_ensured (ensures_object v path _) fun m hm => ?_
  subst hm
  refine Check.Alike.bind_same fun id => ?_
  refine Check.Alike.bind_same fun widgetId => ?_
  refine Check.Alike.bind_same fun title => ?_
  refine Check.Alike.bind_same fun dataSpec => ?_
  refine Check.Alike.bind_same fun viewSpec => ?_
  refine Check.Alike.bind_same fun frame => ?_
  refine Check.Alike.bind_same fun locked => ?_
  refine Check.Alike.bind_same fun pinned => ?_
  refine Check.Alike.bind_same fun guarded => ?_
  -- only the timestamps look at the clock
  refine Check.Alike.bind (restamped_timestamp o t₁ t₂ m "createdAt" path) ?_
  rintro createdAt _ rfl
  refine Check.Alike.bind (restamped_timestamp o t₁ t₂ m "updatedAt" path) ?_
  rintro updatedAt _ rfl
  exact Check.Alike.done rfl

/-- By induction on the panels. -/
theorem restamped_panels (path : Path) (columns : UInt32) (items : List Value) (i : Nat)
    (seen : List String) :
    Check.Alike (fun ps qs => qs = List.zipWith (Panel.stamped t₂) items ps)
      (panels (o.inMode .strict) t₁ path columns i seen items)
      (panels (o.inMode .strict) t₂ path columns i seen items) := by
  induction items generalizing i seen with
  | nil => exact Check.Alike.done rfl
  | cons v rest ih =>
      unfold panels
      refine Check.Alike.bind (restamped_panel o t₁ t₂ v _ columns) ?_
      rintro p _ rfl
      -- a panel keeps its id, so an id is given twice at both readings or at neither
      show Check.Alike _ (if seen.contains p.id then _ else _) (if seen.contains p.id then _ else _)
      split
      · exact Check.Alike.fail _ _
      · refine Check.Alike.bind (ih (i + 1) (p.id :: seen)) ?_
        rintro ps _ rfl
        exact Check.Alike.done rfl

theorem restamped_panelList (m : Members) (path : Path) (columns : UInt32) :
    Check.Alike
      (fun ps qs => qs = List.zipWith (Panel.stamped t₂) (itemsUnder "panels" (.object m)) ps)
      (panelList (o.inMode .strict) t₁ m path columns)
      (panelList (o.inMode .strict) t₂ m path columns) := by
  unfold panelList
  dsimp only
  split
  next items hitems =>
    have hunder : itemsUnder "panels" (.object m) = items := by
      show ((m.get? "panels").bind Value.items?).getD [] = items
      rw [hitems]
      rfl
    rw [hunder]
    exact restamped_panels o t₁ t₂ _ columns items 0 []
  next => exact Check.Alike.fail _ _
  next => exact Check.Alike.fail _ _
  next => exact Check.Alike.fail _ _

theorem restamped_layout (v : Value) (path : Path) :
    Check.Alike (fun l k => k = l.stamped t₂ v)
      (layout (o.inMode .strict) t₁ v path) (layout (o.inMode .strict) t₂ v path) := by
  unfold layout
  refine Check.Alike.bind_ensured (ensures_object v path _) fun m hm => ?_
  subst hm
  refine Check.Alike.bind_same fun kind => ?_
  refine Check.Alike.bind_same fun gridSpec => ?_
  refine Check.Alike.bind (restamped_panelList o t₁ t₂ m path _) ?_
  rintro ps _ rfl
  exact Check.Alike.done rfl

theorem restamped_page (v : Value) (path : Path) :
    Check.Alike (fun p q => q = p.stamped t₂ v)
      (page (o.inMode .strict) t₁ v path) (page (o.inMode .strict) t₂ v path) := by
  unfold page
  refine Check.Alike.bind_ensured (ensures_object v path _) fun m hm => ?_
  subst hm
  refine Check.Alike.bind_same fun id => ?_
  refine Check.Alike.bind_same fun title => ?_
  have get : (Value.object m).get? "layout" = m.get? "layout" := rfl
  split
  next => exact Check.Alike.fail _ _
  next v hv =>
    refine Check.Alike.bind (restamped_layout o t₁ t₂ v _) ?_
    rintro l _ rfl
    exact Check.Alike.done (by rw [Page.stamped, get, hv]; rfl)

/-- By induction on the pages. -/
theorem restamped_pages (path : Path) (items : List Value) (i : Nat) (seen : List String) :
    Check.Alike (fun ps qs => qs = List.zipWith (Page.stamped t₂) items ps)
      (pages (o.inMode .strict) t₁ path i seen items)
      (pages (o.inMode .strict) t₂ path i seen items) := by
  induction items generalizing i seen with
  | nil => exact Check.Alike.done rfl
  | cons v rest ih =>
      unfold pages
      refine Check.Alike.bind (restamped_page o t₁ t₂ v _) ?_
      rintro p _ rfl
      show Check.Alike _ (if seen.contains p.id then _ else _) (if seen.contains p.id then _ else _)
      split
      · exact Check.Alike.fail _ _
      · refine Check.Alike.bind (ih (i + 1) (p.id :: seen)) ?_
        rintro ps _ rfl
        exact Check.Alike.done rfl

theorem restamped_pageList (m : Members) (path : Path) :
    Check.Alike
      (fun ps qs => qs = List.zipWith (Page.stamped t₂) (itemsUnder "pages" (.object m)) ps)
      (pageList (o.inMode .strict) t₁ m path) (pageList (o.inMode .strict) t₂ m path) := by
  unfold pageList
  dsimp only
  split
  next => exact Check.Alike.fail _ _
  next => exact Check.Alike.fail _ _
  next items hne hitems =>
    have hunder : itemsUnder "pages" (.object m) = items := by
      show ((m.get? "pages").bind Value.items?).getD [] = items
      rw [hitems]
      rfl
    rw [hunder]
    exact restamped_pages o t₁ t₂ _ items 0 []

/-- The pages only matter to the default page where it is mended. -/
theorem restamped_defaultPageId (m : Members) (ps qs : List Page) (path : Path) :
    Check.Alike (fun a b => b = a) (defaultPageId (o.inMode .strict) m ps path)
      (defaultPageId (o.inMode .strict) m qs path) := by
  unfold defaultPageId
  split
  next => exact Check.Alike.done rfl
  next => exact restamped_mend o _ _ _ _ _ _

/-- **A whole document.** -/
theorem restamped_workspace (v : Value) :
    Check.Alike (fun w u => u = w.stamped t₂ v)
      (workspace (o.inMode .strict) t₁ v) (workspace (o.inMode .strict) t₂ v) := by
  unfold workspace
  dsimp only
  refine Check.Alike.bind_ensured (ensures_object v _ _) fun m hm => ?_
  subst hm
  refine Check.Alike.bind_same fun schemaVersion => ?_
  refine Check.Alike.bind_same fun id => ?_
  refine Check.Alike.bind_same fun name => ?_
  refine Check.Alike.bind (restamped_pageList o t₁ t₂ m _) ?_
  rintro ps _ rfl
  refine Check.Alike.bind (restamped_defaultPageId o m _ _ _) ?_
  rintro dflt _ rfl
  refine Check.Alike.bind (restamped_timestamp o t₁ t₂ m "createdAt" _) ?_
  rintro createdAt _ rfl
  refine Check.Alike.bind (restamped_timestamp o t₁ t₂ m "updatedAt" _) ?_
  rintro updatedAt _ rfl
  exact Check.Alike.done rfl

end Validation

/-! ## §3. Entry points. -/

/-- Strict validation at another clock reading sets the timestamps that the
data lacks. -/
theorem validate_strict_stamped {o : ValidationOptions} {t₁ : Instant} {v : Value} {r : Validated}
    (h : validate (o.inMode .strict) t₁ v = .ok r) (t₂ : Instant) :
    validate (o.inMode .strict) t₂ v = .ok ⟨r.workspace.stamped t₂ v, []⟩ := by
  obtain ⟨ws, hw, hr⟩ := validate_eq_ok h
  have hsilent : ws = [] := (Validation.within_workspace o t₁ v r.workspace ws hw).1
  subst hsilent
  have halike := Validation.restamped_workspace o t₁ t₂ v
  rw [hw] at halike
  unfold validate
  match Validation.workspace (o.inMode .strict) t₂ v, halike with
  | .ok (u, ws'), ⟨hu, hws⟩ =>
      subst hu hws
      rfl

/-- **Strict and safe mode agree where strict mode accepts.**  Whatever strict
mode accepts at some clock reading it accepts without a warning, and at any
other one safe mode accepts it without a warning too and gives the same
document, the timestamps aside that the data lacks; at the same clock reading
these are the same as well.  So strict mode refuses whatever safe mode refuses. -/
theorem safe_agrees_with_strict (o : ValidationOptions) (t₁ t₂ : Instant) (v : Value) :
    (∀ r, validate (o.inMode .strict) t₁ v = .ok r →
      r.warnings = [] ∧
      validate (o.inMode .safe) t₂ v = .ok ⟨r.workspace.stamped t₂ v, []⟩ ∧
      validate (o.inMode .safe) t₁ v = .ok ⟨r.workspace, []⟩) ∧
    (∀ e, validate (o.inMode .safe) t₂ v = .error e →
      ∃ e', validate (o.inMode .strict) t₁ v = .error e') := by
  have haccepted : ∀ r, validate (o.inMode .strict) t₁ v = .ok r →
      validate (o.inMode .safe) t₂ v = .ok ⟨r.workspace.stamped t₂ v, []⟩ :=
    fun r h => (validate_safe_of_strict (validate_strict_stamped h t₂)).2
  constructor
  · intro r h
    obtain ⟨hsilent, hsafe⟩ := validate_safe_of_strict h
    refine ⟨hsilent, haccepted r h, ?_⟩
    rw [hsafe, ← hsilent]
  · intro e hrefused
    cases h : validate (o.inMode .strict) t₁ v with
    | error e' => exact ⟨e', rfl⟩
    | ok r =>
        rw [haccepted r h] at hrefused
        cases hrefused

/-- The data of a document without any timestamp of its own, and a panel with
one of its two. -/
def undatedDesk : Value :=
  .object [("defaultPageId", .text "a"), ("id", .text "desk"), ("name", .text "Desk"),
    ("pages", .list [.object [("id", .text "a"), ("layout", .object
      [("kind", .text "grid"), ("panels", .list [.object
        [("createdAt", .text "0"), ("dataSpec", .object []), ("frame", .object []),
          ("id", .text "p"), ("viewSpec", .object []), ("widgetId", .text "quick-nav")]])]),
      ("title", .text "A")]]),
    ("schemaVersion", .ofNat 1)]

/-- A document without timestamps is read alike in both modes, and what is no
object in neither. -/
theorem undatedDesk_agrees :
    let o := ValidationOptions.ofMode .safe
    (∃ r, validate (o.inMode .strict) ⟨0⟩ undatedDesk = .ok r ∧
      validate (o.inMode .safe) ⟨7⟩ undatedDesk = .ok ⟨r.workspace.stamped ⟨7⟩ undatedDesk, []⟩ ∧
      r.workspace.stamped ⟨7⟩ undatedDesk ≠ r.workspace) ∧
    ∃ e, validate (o.inMode .strict) ⟨0⟩ (.list []) = .error e := by
  intro o
  refine ⟨?_, (safe_agrees_with_strict o ⟨0⟩ ⟨7⟩ (.list [])).2 _ rfl⟩
  have hok : (validate (o.inMode .strict) ⟨0⟩ undatedDesk).toBool = true := by decide
  have hclock : ((validate (o.inMode .strict) ⟨0⟩ undatedDesk).toOption.map
      (·.workspace.updatedAt)) = some (Instant.stamp ⟨0⟩) := by decide
  cases h : validate (o.inMode .strict) ⟨0⟩ undatedDesk with
  | error e => rw [h] at hok; cases hok
  | ok r =>
      refine ⟨r, rfl, ((safe_agrees_with_strict o ⟨0⟩ ⟨7⟩ undatedDesk).1 r h).2.1, ?_⟩
      rw [h] at hclock
      have hfirst : r.workspace.updatedAt = Instant.stamp ⟨0⟩ := Option.some.inj hclock
      intro hsame
      have hsecond : Instant.stamp ⟨7⟩ = r.workspace.updatedAt := congrArg Workspace.updatedAt hsame
      rw [hfirst] at hsecond
      revert hsecond
      decide

end Dashboard
