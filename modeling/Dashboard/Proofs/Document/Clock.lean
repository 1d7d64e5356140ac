/-
  Dashboard.Proofs.Document.Clock
  ───────────────────────────────
  **ONE TEXT READ AT TWO CLOCK READINGS.**

  Reading a document looks at the clock only to fill in timestamps that are
  not stored, and to stamp a document that it had to migrate.  The text is
  accepted at both readings or refused at both for the same reason; accepted
  twice, the two documents differ at most in those timestamps, and they do
  differ in each of them when the two stamps are different.

  `Twin` is this relation for one value and `Dated` the condition on the data
  under which it is equality; both are carried up from one timestamp to the
  whole document.

  Main results:
    alike_timestamp, …   — one check each
    alike_parse          — a whole text
-/
import Dashboard.Proofs.Document.Migration
import Dashboard.Proofs.Document.Sameness
import Dashboard.Proofs.Document.Soundness

namespace Dashboard

open Grid Json Time

/-! ## §1. Twins. -/

/-- Two clock readings give one stamp, or the clock plays no part. -/
def Fixed (t₁ t₂ : Instant) (stored : Prop) : Prop := t₁.stamp = t₂.stamp ∨ stored

/-- Two readings of one value: equal where no timestamp comes from the clock,
told apart by their timestamps where one does. -/
structure Twin {α β : Type} (t₁ t₂ : Instant) (dates : α → β) (stored : Prop) (a b : α) :
    Prop where
  same : Fixed t₁ t₂ stored → a = b
  differ : ¬ Fixed t₁ t₂ stored → dates a ≠ dates b

namespace Twin

variable {α β γ δ : Type} {t₁ t₂ : Instant} {p q : Prop}

/-- A value that carries its timestamps in one part. -/
theorem image {dates : α → β} {a b : α} (F : α → γ) (dates' : γ → β)
    (hF : ∀ x, dates' (F x) = dates x) (h : Twin t₁ t₂ dates p a b) :
    Twin t₁ t₂ dates' p (F a) (F b) := by
  constructor
  · intro hp
    rw [h.same hp]
  · intro hp
    rw [hF, hF]
    exact h.differ hp

theorem and_iff : Fixed t₁ t₂ (p ∧ q) ↔ Fixed t₁ t₂ p ∧ Fixed t₁ t₂ q := or_and_left

/-- Two values side by side. -/
theorem pair {dates : α → β} {dates' : γ → δ} {a b : α} {c d : γ}
    (h : Twin t₁ t₂ dates p a b) (h' : Twin t₁ t₂ dates' q c d) :
    Twin t₁ t₂ (fun x => (dates x.1, dates' x.2)) (p ∧ q) (a, c) (b, d) := by
  constructor
  · intro hpq
    obtain ⟨hp, hq⟩ := and_iff.mp hpq
    rw [h.same hp, h'.same hq]
  · intro hpq heq
    obtain ⟨heq₁, heq₂⟩ := Prod.mk.inj heq
    -- a part that does not differ is fixed, so both would be
    have hp : Fixed t₁ t₂ p := Classical.byContradiction fun hp => h.differ hp heq₁
    have hq : Fixed t₁ t₂ q := Classical.byContradiction fun hq => h'.differ hq heq₂
    exact hpq (and_iff.mpr ⟨hp, hq⟩)

/-- One more item in front of two lists. -/
theorem cons {dates : α → β} {a b : α} {as bs : List α} (h : Twin t₁ t₂ dates p a b)
    (h' : Twin t₁ t₂ (List.map dates) q as bs) :
    Twin t₁ t₂ (List.map dates) (p ∧ q) (a :: as) (b :: bs) := by
  constructor
  · intro hpq
    obtain ⟨hp, hq⟩ := and_iff.mp hpq
    rw [h.same hp, h'.same hq]
  · intro hpq heq
    rw [List.map_cons, List.map_cons] at heq
    obtain ⟨heq₁, heq₂⟩ := List.cons.inj heq
    exact (h.pair h').differ hpq (Prod.ext heq₁ heq₂)

/-- Only what the condition says matters. -/
theorem congr {dates : α → β} {a b : α} (h : Twin t₁ t₂ dates p a b) (hpq : p ↔ q) :
    Twin t₁ t₂ dates q a b := propext hpq ▸ h

/-- One value is its own twin. -/
theorem of_eq {dates : α → β} (a : α) (hp : p) : Twin t₁ t₂ dates p a a :=
  ⟨fun _ => rfl, fun h => absurd (Or.inr hp) h⟩

end Twin

/-! ## §2. Stored timestamps. -/

namespace Validation

/-- The timestamp that stands under a key and is kept. -/
def date? (m : Members) (key : String) : Option String :=
  ((m.get? key).bind Value.text?).filter fun s => s ≠ ""

/-- A panel's data with both timestamps. -/
def isDated (panel : Value) : Bool :=
  (panel.members?.map fun m =>
    (date? m "createdAt").isSome && (date? m "updatedAt").isSome).getD false

/-- Every panel of a layout's data has both timestamps. -/
def LayoutDated (layout : Value) : Prop :=
  ∀ panel ∈ itemsUnder "panels" layout, isDated panel = true

/-- Every panel of a page's data has both timestamps. -/
def PageDated (page : Value) : Prop := ∀ layout ∈ page.get? "layout", LayoutDated layout

/-- Every panel of a document's data has both timestamps. -/
def Dated (v : Value) : Prop := ∀ page ∈ itemsUnder "pages" v, PageDated page

/-! ## §3. Panels. -/

variable {o : ValidationOptions} {t₁ t₂ : Instant} {m : Members} {path : Path}

/-- A check of a timestamp gives the one that is stored, or the stamp. -/
theorem alike_timestamp (o : ValidationOptions) (t₁ t₂ : Instant) (m : Members) (key : String)
    (path : Path) :
    Check.Alike (fun a b => a = (date? m key).getD t₁.stamp ∧ b = (date? m key).getD t₂.stamp)
      (timestamp o t₁ m key path) (timestamp o t₂ m key path) := by
  have hclock : date? m key = none → t₁.stamp = (date? m key).getD t₁.stamp ∧
      t₂.stamp = (date? m key).getD t₂.stamp := by
    intro hm
    rw [hm]
    exact ⟨rfl, rfl⟩
  unfold timestamp
  split
  next h => exact Check.Alike.done (hclock (by rw [date?, h]; rfl))
  next h => exact Check.Alike.done (hclock (by rw [date?, h]; rfl))
  next s h =>
    by_cases hs : s ≠ ""
    · -- a stored timestamp is kept by both
      have hdate : date? m key = some s := by simp [date?, h, Value.text?, hs]
      rw [if_pos hs, if_pos hs, hdate]
      exact Check.Alike.done ⟨rfl, rfl⟩
    · -- an empty one is mended by the stamps
      have hdate : date? m key = none := by simpa [date?, h, Value.text?] using hs
      rw [if_neg hs, if_neg hs]
      exact Check.Alike.mend _ _ _ _ (hclock hdate)
  next v hnull htext hv =>
    refine Check.Alike.mend _ _ _ _ (hclock ?_)
    rw [date?, hv]
    cases v with
    | text s => exact absurd rfl (htext s)
    | _ => rfl

/-- A timestamp that is missing is that of the clock, on each side its own. -/
theorem twin_getD (t₁ t₂ : Instant) (d : Option String) :
    Twin t₁ t₂ id (d.isSome = true) (d.getD t₁.stamp) (d.getD t₂.stamp) := by
  cases d with
  | none => exact ⟨fun h => h.resolve_right nofun, fun h heq => h (Or.inl heq)⟩
  | some s => exact Twin.of_eq s rfl

/-- A panel read at two times differs in the timestamps that it lacks. -/
theorem alike_panel (o : ValidationOptions) (t₁ t₂ : Instant) (v : Value) (path : Path)
    (columns : UInt32) :
    Check.Alike (fun p q => p.id = q.id ∧ Twin t₁ t₂ Panel.dates (isDated v = true) p q)
      (panel o t₁ v path columns) (panel o t₂ v path columns) := by
  unfold panel
  refine Check.Alike.bind_ensured (ensures_object v path _) fun m hm => ?_
  subst hm
  refine Check.Alike.bind_same fun id => ?_
  refine Check.Alike.bind_same fun widgetId => ?_
  refine Check.Alike.bind_same fun title => ?_
  refine Check.Alike.bind_same fun dataSpec => ?_
  refine Check.Alike.bind_same fun viewSpec => ?_
  refine Check.Alike.bind_same fun frame => ?_
  refine Check.Alike.bind_same fun locked => ?_
  refine Check.Alike.bind_same fun pinned => ?_
  refine Check.Alike.bind_same fun guarded => ?_
  -- all that is left are the two timestamps
  refine Check.Alike.bind (alike_timestamp o t₁ t₂ m "createdAt" path) ?_
  rintro _ _ ⟨rfl, rfl⟩
  refine Check.Alike.bind (alike_timestamp o t₁ t₂ m "updatedAt" path) ?_
  rintro _ _ ⟨rfl, rfl⟩
  refine Check.Alike.done ⟨rfl, ?_⟩
  have htimes := (twin_getD t₁ t₂ (date? m "createdAt")).pair
    (twin_getD t₁ t₂ (date? m "updatedAt"))
  have hdates := htimes.image
    (fun d : String × String => (⟨id, widgetId, title, dataSpec, viewSpec, frame, locked, pinned,
      guarded, d.1, d.2⟩ : Panel)) Panel.dates fun _ => rfl
  refine hdates.congr ?_
  show _ ↔ ((date? m "createdAt").isSome && (date? m "updatedAt").isSome) = true
  rw [Bool.and_eq_true]

/-- By induction on the panels. -/
theorem alike_panels (o : ValidationOptions) (t₁ t₂ : Instant) (path : Path) (columns : UInt32)
    (items : List Value) (i : Nat) (seen : List String) :
    Check.Alike (Twin t₁ t₂ (List.map Panel.dates) (∀ v ∈ items, isDated v = true))
      (panels o t₁ path columns i seen items) (panels o t₂ path columns i seen items) := by
  induction items generalizing i seen with
  | nil => exact Check.Alike.done (Twin.of_eq [] (by simp))
  | cons v rest ih =>
      unfold panels
      refine Check.Alike.bind (alike_panel o t₁ t₂ v _ columns) ?_
      rintro p q ⟨hid, hpq⟩
      -- the ids agree, so an id is given twice on both sides or on neither
      rw [← hid]
      split
      · exact Check.Alike.fail _ _
      · refine Check.Alike.bind (ih (i + 1) (p.id :: seen)) ?_
        intro ps qs hrest
        refine Check.Alike.done ((hpq.cons hrest).congr ?_)
        rw [List.forall_mem_cons]

/-! ## §4. Pages. -/

theorem alike_panelList (o : ValidationOptions) (t₁ t₂ : Instant) (m : Members) (path : Path)
    (columns : UInt32) :
    Check.Alike (Twin t₁ t₂ (List.map Panel.dates) (LayoutDated (.object m)))
      (panelList o t₁ m path columns) (panelList o t₂ m path columns) := by
  have get : (Value.object m).get? "panels" = m.get? "panels" := rfl
  unfold panelList
  dsimp only
  split
  next items hitems =>
    have hunder : itemsUnder "panels" (.object m) = items := by
      rw [itemsUnder, get, hitems]
      rfl
    rw [LayoutDated, hunder]
    exact alike_panels o t₁ t₂ _ columns items 0 []
  next h =>
    refine Check.Alike.assume _ _ _ (Twin.of_eq [] ?_)
    rw [LayoutDated, itemsUnder, get, h]
    simp
  next h =>
    refine Check.Alike.assume _ _ _ (Twin.of_eq [] ?_)
    rw [LayoutDated, itemsUnder, get, h]
    simp [Value.items?]
  next => exact Check.Alike.fail _ _

/-- A layout differs in its panels only. -/
theorem alike_layout (o : ValidationOptions) (t₁ t₂ : Instant) (v : Value) (path : Path) :
    Check.Alike (Twin t₁ t₂ (fun l : Layout => l.panels.map Panel.dates) (LayoutDated v))
      (layout o t₁ v path) (layout o t₂ v path) := by
  unfold layout
  refine Check.Alike.bind_ensured (ensures_object v path _) fun m hm => ?_
  subst hm
  refine Check.Alike.bind_same fun kind => ?_
  refine Check.Alike.bind_same fun gridSpec => ?_
  refine Check.Alike.bind (alike_panelList o t₁ t₂ m path _) ?_
  intro ps qs h
  exact Check.Alike.done (h.image (fun ps => (⟨kind, ps, gridSpec, kept m "freeformSpec",
    kept m "splitSpec"⟩ : Layout)) _ fun _ => rfl)

/-- A page differs in its layout only. -/
theorem alike_page (o : ValidationOptions) (t₁ t₂ : Instant) (v : Value) (path : Path) :
    Check.Alike (fun p q => p.id = q.id ∧ Twin t₁ t₂ Page.dates (PageDated v) p q)
      (page o t₁ v path) (page o t₂ v path) := by
  unfold page
  refine Check.Alike.bind_ensured (ensures_object v path _) fun m hm => ?_
  subst hm
  refine Check.Alike.bind_same fun id => ?_
  refine Check.Alike.bind_same fun title => ?_
  have get : (Value.object m).get? "layout" = m.get? "layout" := rfl
  split
  next => exact Check.Alike.fail _ _
  next v hv =>
    refine Check.Alike.bind (alike_layout o t₁ t₂ v _) ?_
    intro l₁ l₂ h
    refine Check.Alike.done ⟨rfl, ?_⟩
    have hpage := h.image (fun l => (⟨id, title, l⟩ : Page)) Page.dates fun _ => rfl
    refine hpage.congr ?_
    rw [PageDated, get, hv]
    simp

/-- By induction on the pages. -/
theorem alike_pages (o : ValidationOptions) (t₁ t₂ : Instant) (path : Path)
    (items : List Value) (i : Nat) (seen : List String) :
    Check.Alike (fun ps qs => ps.map (·.id) = qs.map (·.id) ∧
        Twin t₁ t₂ (List.map Page.dates) (∀ v ∈ items, PageDated v) ps qs)
      (pages o t₁ path i seen items) (pages o t₂ path i seen items) := by
  induction items generalizing i seen with
  | nil => exact Check.Alike.done ⟨rfl, Twin.of_eq [] (by simp)⟩
  | cons v rest ih =>
      unfold pages
      refine Check.Alike.bind (alike_page o t₁ t₂ v _) ?_
      rintro p q ⟨hid, hpq⟩
      -- the ids agree, so an id is given twice on both sides or on neither
      rw [← hid]
      split
      · exact Check.Alike.fail _ _
      · refine Check.Alike.bind (ih (i + 1) (p.id :: seen)) ?_
        rintro ps qs ⟨hids, hrest⟩
        refine Check.Alike.done ⟨by rw [List.map_cons, List.map_cons, hid, hids], ?_⟩
        refine (hpq.cons hrest).congr ?_
        rw [List.forall_mem_cons]

/-! ## §5. Documents. -/

theorem alike_pageList (o : ValidationOptions) (t₁ t₂ : Instant) (m : Members) (path : Path) :
    Check.Alike (fun ps qs => ps.map (·.id) = qs.map (·.id) ∧
        Twin t₁ t₂ (List.map Page.dates) (Dated (.object m)) ps qs)
      (pageList o t₁ m path) (pageList o t₂ m path) := by
  unfold pageList
  dsimp only
  split
  next => exact Check.Alike.fail _ _
  next => exact Check.Alike.fail _ _
  next items hne hitems =>
    have hunder : itemsUnder "pages" (.object m) = items := by
      show ((m.get? "pages").bind Value.items?).getD [] = items
      rw [hitems]
      rfl
    rw [Dated, hunder]
    exact alike_pages o t₁ t₂ _ items 0 []

end Validation

/-- Two readings of one document, whose date of change is the given one or else
the clock's. -/
structure Workspace.Twin (t₁ t₂ : Instant) (stored : Prop) (date : Option String)
    (a b : Workspace) : Prop where
  id : a.id = b.id
  name : a.name = b.name
  pages : Dashboard.Twin t₁ t₂ (List.map Page.dates) stored a.pages b.pages
  defaultPageId : a.defaultPageId = b.defaultPageId
  schemaVersion : a.schemaVersion = b.schemaVersion
  left : a.updatedAt = date.getD t₁.stamp
  right : b.updatedAt = date.getD t₂.stamp

namespace Validation

variable {o : ValidationOptions} {t₁ t₂ : Instant}

/-- Two documents that differ at most in their date of change. -/
theorem alike_workspace {m₁ m₂ : Members} {date : Option String}
    (agree : ∀ k, k ≠ "updatedAt" → m₁.get? k = m₂.get? k)
    (changed : Check.Alike (fun a b => a = date.getD t₁.stamp ∧ b = date.getD t₂.stamp)
      (timestamp o t₁ m₁ "updatedAt" .root) (timestamp o t₂ m₂ "updatedAt" .root)) :
    Check.Alike (Workspace.Twin t₁ t₂ (Dated (.object m₁)) date)
      (workspace o t₁ (.object m₁)) (workspace o t₂ (.object m₂)) := by
  have text : ∀ k, k ≠ "updatedAt" → filledText? m₁ k = filledText? m₂ k := by
    intro k hk
    rw [filledText?, filledText?, agree k hk]
  have required : ∀ k, k ≠ "updatedAt" → requiredText m₁ k .root = requiredText m₂ k .root := by
    intro k hk
    rw [requiredText, requiredText, text k hk]
  -- every check but that of the date of change sees the same members
  have hversion : version m₁ .root = version m₂ .root := by
    rw [version, version, agree versionKey (by decide)]
  have hpages : pageList o t₂ m₁ .root = pageList o t₂ m₂ .root := by
    rw [pageList, pageList, agree "pages" (by decide)]
  have hcreated : timestamp o t₂ m₁ "createdAt" .root = timestamp o t₂ m₂ "createdAt" .root := by
    rw [timestamp, timestamp, agree "createdAt" (by decide)]
  unfold workspace
  dsimp only
  have hobject : ∀ m : Members, object (.object m) .root "workspace" = .done m := fun _ => rfl
  rw [hobject, hobject, Check.done_bind, Check.done_bind, ← hversion, ← required "id" (by decide),
    ← required "name" (by decide), ← hpages, ← hcreated]
  refine Check.Alike.bind_same fun schemaVersion => ?_
  refine Check.Alike.bind_same fun id => ?_
  refine Check.Alike.bind_same fun name => ?_
  refine Check.Alike.bind (alike_pageList o t₁ t₂ m₁ _) ?_
  rintro ps qs ⟨hids, hps⟩
  -- the default page is mended by the first page's id, which is the same one
  have hdefault : Validation.defaultPageId o m₁ ps .root
      = Validation.defaultPageId o m₂ qs .root := by
    have hhead : ps.head?.map (·.id) = qs.head?.map (·.id) := by
      rw [← List.head?_map, ← List.head?_map, hids]
    rw [Validation.defaultPageId, Validation.defaultPageId, text "defaultPageId" (by decide), hhead]
  rw [← hdefault]
  refine Check.Alike.bind_same fun dflt => ?_
  refine Check.Alike.bind (alike_timestamp o t₁ t₂ m₁ "createdAt" _) ?_
  rintro c₁ c₂ -
  refine Check.Alike.bind changed ?_
  rintro _ _ ⟨rfl, rfl⟩
  exact Check.Alike.done ⟨rfl, rfl, hps, rfl, rfl, rfl, rfl⟩

end Validation

/-! ## §6. Texts. -/

/-- Two readings that refuse a document for the same reason, or accept it with
the same warnings and give related documents. -/
def Validated.Alike (R : Workspace → Workspace → Prop) :
    Except ValidationError Validated → Except ValidationError Validated → Prop
  | .error e, .error e' => e = e'
  | .ok a, .ok b => R a.workspace b.workspace ∧ a.warnings = b.warnings
  | _, _ => False

theorem Validated.Alike.mono {R S : Workspace → Workspace → Prop}
    {c d : Except ValidationError Validated} (h : Validated.Alike R c d)
    (hRS : ∀ a b, R a b → S a b) : Validated.Alike S c d := by
  match c, d, h with
  | .error e, .error e', h => exact h
  | .ok a, .ok b, ⟨hab, hws⟩ => exact ⟨hRS _ _ hab, hws⟩

/-- The date of change of a document's data, as long as no migration stamps
another one. -/
def changeDate? (v : Value) : Option String :=
  v.members?.bind fun m =>
    match storedVersion m with
    | .ok n => if n = schemaVersion.toNat then Validation.date? m "updatedAt" else none
    | .error _ => none

/-- Two walks that are alike give two results that are. -/
theorem validated_of_alike {o : ValidationOptions} {t₁ t₂ : Instant} {v₁ v₂ : Value}
    {R : Workspace → Workspace → Prop}
    (h : Check.Alike R (Validation.workspace o t₁ v₁) (Validation.workspace o t₂ v₂)) :
    Validated.Alike R (validate o t₁ v₁) (validate o t₂ v₂) := by
  unfold validate
  match Validation.workspace o t₁ v₁, Validation.workspace o t₂ v₂, h with
  | .error e, .error e', h => exact h
  | .ok (a, ws), .ok (b, ws'), ⟨hab, hws⟩ =>
      subst hws
      exact ⟨hab, rfl⟩

/-- What a migration reports stands before what validation reports. -/
theorem validated_prepend {R : Workspace → Workspace → Prop} (ws : List String)
    {r₁ r₂ : Except ValidationError Validated} (h : Validated.Alike R r₁ r₂) :
    Validated.Alike R (r₁.map fun r => { r with warnings := ws ++ r.warnings })
      (r₂.map fun r => { r with warnings := ws ++ r.warnings }) := by
  match r₁, r₂, h with
  | .error e, .error e', h => exact h
  | .ok a, .ok b, ⟨hab, hws⟩ => exact ⟨hab, congrArg (ws ++ ·) hws⟩

theorem dated_congr {d m : Members} (h : d.get? "pages" = m.get? "pages") :
    Validation.Dated (.object d) ↔ Validation.Dated (.object m) := by
  have hunder : Validation.itemsUnder "pages" (.object d)
      = Validation.itemsUnder "pages" (.object m) :=
    congrArg (fun v => (v.bind Value.items?).getD []) h
  rw [Validation.Dated, Validation.Dated, hunder]

/-- A current document has its own date of change; an older one gets a new one. -/
theorem changeDate?_of_version {m : Members} {n : Nat} (h : storedVersion m = .ok n) :
    changeDate? (.object m) =
      if n = schemaVersion.toNat then Validation.date? m "updatedAt" else none := by
  show (match storedVersion m with
    | .ok n => if n = schemaVersion.toNat then Validation.date? m "updatedAt" else none
    | .error _ => none) = _
  rw [h]

/-- **A document's data read at two clock readings.** -/
theorem alike_migrateAndValidate (o : ValidationOptions) (t₁ t₂ : Instant) (v : Value) :
    Validated.Alike (Workspace.Twin t₁ t₂ (Validation.Dated v) (changeDate? v))
      (migrateAndValidate o t₁ v) (migrateAndValidate o t₂ v) := by
  cases v with
  | object m =>
      cases hversion : storedVersion m with
      | error e =>
          rw [migrateAndValidate_of_error (migrate_of_error t₁ hversion),
            migrateAndValidate_of_error (migrate_of_error t₂ hversion)]
          rfl
      | ok n =>
          rw [changeDate?_of_version hversion]
          by_cases hnew : schemaVersion.toNat < n
          · rw [migrateAndValidate_of_error (migrate_of_newer t₁ hversion hnew),
              migrateAndValidate_of_error (migrate_of_newer t₂ hversion hnew)]
            rfl
          by_cases hcurrent : n = schemaVersion.toNat
          · -- the date of change is a timestamp like any other
            subst hcurrent
            rw [if_pos rfl, migrateAndValidate_of_ok (migrate_of_current t₁ hversion),
              migrateAndValidate_of_ok (migrate_of_current t₂ hversion)]
            refine validated_prepend [] (validated_of_alike ?_)
            rw [← propext (dated_congr (get?_respellVersion (k := "pages") (by decide)
              (by decide) m))]
            refine Validation.alike_workspace (fun _ _ => rfl) ?_
            have hchanged := Validation.alike_timestamp o t₁ t₂ (respellVersion m) "updatedAt" .root
            rwa [Validation.date?, get?_respellVersion (by decide) (by decide)] at hchanged
          · -- the date of change is the stamp of the migration
            obtain rfl := eq_zero_of_not_current hnew hcurrent
            rw [if_neg hcurrent, migrateAndValidate_of_ok (migrate_of_older t₁ hversion),
              migrateAndValidate_of_ok (migrate_of_older t₂ hversion)]
            refine validated_prepend [migratedWarning 0] (validated_of_alike ?_)
            have hpages : Keyed.get? "pages" (upgrade t₁ 0 m) = Keyed.get? "pages" m := by
              rw [get?_upgrade, if_neg (by decide), if_neg (by decide)]
              exact Keyed.get?_erase_of_ne (by decide) m
            rw [← propext (dated_congr hpages)]
            refine Validation.alike_workspace ?_ ?_
            · intro k hk
              rw [get?_upgrade, get?_upgrade, if_neg (Ne.symm hk), if_neg (Ne.symm hk)]
            · have hstamp : ∀ t, Validation.timestamp o t (upgrade t 0 m) "updatedAt" .root
                  = .done t.stamp := by
                intro t
                rw [Validation.timestamp, get?_upgrade, if_pos rfl]
                exact if_pos t.stamp_ne_empty
              rw [hstamp, hstamp]
              exact Check.Alike.done ⟨rfl, rfl⟩
  | _ => rfl

/-- **A text read at two clock readings.**  Where it is accepted, `v` is its data. -/
theorem alike_parse (o : ValidationOptions) (t₁ t₂ : Instant) (text : String) :
    Validated.Alike (fun a b => ∃ v ∈ readNormal text,
        Workspace.Twin t₁ t₂ (Validation.Dated v) (changeDate? v) a b)
      (parseAndValidate o t₁ text) (parseAndValidate o t₂ text) := by
  unfold parseAndValidate
  cases readNormal text with
  | none => rfl
  | some v =>
      have h := alike_migrateAndValidate o t₁ t₂ v
      show Validated.Alike _ (migrateAndValidate o t₁ v) (migrateAndValidate o t₂ v)
      exact h.mono fun a b hab => ⟨v, rfl, hab⟩

end Dashboard
