/-
  Dashboard.Proofs.Document.FirstFault
  ────────────────────────────────────
  **A REFUSAL NAMES THE FIRST FAULT, AT A PLACE OF THE DOCUMENT.**

  A document that is refused for a fault is refused at a path whose steps go
  into objects and arrays that are there.  The pages and panels in front of
  that place pass on their own, and nothing behind it has been looked at: other
  items there do not change the refusal, and where the fault lies inside a
  page, neither do the members of the document that are checked after its
  pages.

  Most checks look at objects only and blame a place that keys lead to
  (`Shallow`), which nothing stands in front of.  The two lists are walked, and
  `ListFault` says what the end of a walk means for the object that holds the
  list; layout, page and document then pass the fault of a part on.

  Main results:
    shallow_panel, …                 — checks that walk no list
    listFault_of_walk                — a list under a key
    locates_layout, locates_page     — the records that hold a list, or hold one that does
    fault_first                      — the whole document
-/
import Dashboard.Proofs.Document.Clock
import Dashboard.Proofs.Document.Damage
import Dashboard.Proofs.Document.Places
import Dashboard.Proofs.Document.Walk

namespace Dashboard

open Grid Json Time

/-! ## §1. Faults that keys lead to. -/

/-- If the refusal is a fault at a place, that place lies below `path`, and keys
alone lead to it. -/
def ValidationError.Shallow (e : ValidationError) (v : Value) (path : Path) : Prop :=
  ∀ fault p, e = .schema fault p →
    ∃ rest, p = ⟨path.segments ++ rest⟩ ∧ v.Points rest ∧ KeysOnly rest

namespace Check

variable {α β : Type} {c : Check α} {m : Members} {path : Path} {k : String}

/-- Whatever fault the check finds, it finds at a place that keys lead to. -/
def Shallow (c : Check α) (v : Value) (path : Path) : Prop :=
  ∀ e, c = .error e → e.Shallow v path

namespace Shallow

/-- A check that accepts has no fault. -/
theorem done (a : α) (v : Value) : (Check.done a).Shallow v path := nofun

theorem repaired (q : Path) (repair : Repair) (a : α) (v : Value) :
    (Check.repaired q repair a).Shallow v path := nofun

/-- The value itself is at fault. -/
theorem fail_here (v : Value) (fault : Fault) :
    (Check.fail path fault : Check α).Shallow v path := by
  intro e h fault' p hp
  cases h
  cases hp
  exact ⟨[], by rw [List.append_nil], v.points_nil, .nil⟩

/-- A member is at fault, or missing. -/
theorem fail_key (m : Members) (hk : (Segment.key k).Plain) (fault : Fault) :
    (Check.fail (path.key k) fault : Check α).Shallow (.object m) path := by
  intro e h fault' p hp
  cases h
  cases hp
  exact ⟨[.key k], rfl, Value.points_single hk rfl, .cons k .nil⟩

/-- A version that is not supported is no fault at a place. -/
theorem unsupported (n : Nat) (v : Value) :
    Shallow (.error (.unsupportedVersion n) : Check α) v path := by
  intro e h fault p hp
  cases h
  cases hp

/-- A mended fault is one that strict mode refuses. -/
theorem mend {v : Value} {q : Path} {fault : Fault} (o : ValidationOptions) (repair : Repair)
    (a : α) (h : (Check.fail q fault : Check α).Shallow v path) :
    (o.mend q fault repair a).Shallow v path := by
  unfold ValidationOptions.mend
  split
  · exact repaired _ _ _ _
  · exact h

/-- So is a fault that is passed over. -/
theorem assume {v : Value} {q : Path} {fault : Fault} (o : ValidationOptions) (a : α)
    (h : (Check.fail q fault : Check α).Shallow v path) : (o.assume q fault a).Shallow v path := by
  unfold ValidationOptions.assume
  split
  · exact done _ _
  · exact h

theorem ite {v : Value} {d : Check α} {q : Prop} [Decidable q] (hc : c.Shallow v path)
    (hd : d.Shallow v path) : (if q then c else d).Shallow v path := by
  split
  · exact hc
  · exact hd

/-- The first fault of a sequence is one of its parts. -/
theorem bind {v : Value} {f : α → Check β} (hc : c.Shallow v path)
    (hf : ∀ a, (f a).Shallow v path) : (c >>= f).Shallow v path := by
  intro e h
  rcases bind_eq_error h with h | ⟨a, -, -, h⟩
  · exact hc e h
  · exact hf a e h

/-- The fault of a member is a fault of the object. -/
theorem under {u : Value} (hk : (Segment.key k).Plain) (hu : m.get? k = some u)
    (h : c.Shallow u (path.key k)) :
    c.Shallow (.object m) path := by
  intro e he fault p hp
  obtain ⟨rest, rfl, hpoints, hkeys⟩ := h e he fault p hp
  refine ⟨.key k :: rest, ?_, hpoints.cons hk hu, hkeys.cons k⟩
  rw [Path.key, List.append_assoc]
  rfl

end Shallow
end Check

namespace Validation

open Check (Shallow)

variable (o : ValidationOptions) (now : Instant) (m : Members) (path : Path)

/-- The fault of a text lies under its key. -/
theorem shallow_requiredText (key : String) (hkey : (Segment.key key).Plain) :
    (requiredText m key path).Shallow (.object m) path := by
  unfold requiredText
  split
  · exact Shallow.done _ _
  · exact Shallow.fail_key m hkey _

/-- Likewise for a timestamp. -/
theorem shallow_timestamp (key : String) (hkey : (Segment.key key).Plain) :
    (timestamp o now m key path).Shallow (.object m) path := by
  unfold timestamp
  split
  · exact Shallow.done _ _
  · exact Shallow.done _ _
  · split
    · exact Shallow.done _ _
    · exact Shallow.mend o _ _ (Shallow.fail_key m hkey _)
  · exact Shallow.mend o _ _ (Shallow.fail_key m hkey _)

theorem shallow_flag (key : String) (hkey : (Segment.key key).Plain) :
    (flag o m key path).Shallow (.object m) path := by
  unfold flag
  split
  · exact Shallow.done _ _
  · exact Shallow.done _ _
  · exact Shallow.done _ _
  · exact Shallow.mend o _ _ (Shallow.fail_key m hkey _)

theorem shallow_spec (key : String) (hkey : (Segment.key key).Plain) (standard : Members) :
    (spec o m key path standard).Shallow (.object m) path := by
  unfold spec
  split
  · exact Shallow.done _ _
  · exact Shallow.assume o _ (Shallow.fail_key m hkey _)
  · exact Shallow.assume o _ (Shallow.fail_key m hkey _)
  · exact Shallow.assume o _ (Shallow.fail_key m hkey _)

theorem shallow_cell (key : String) (hkey : (Segment.key key).Plain) (standard : UInt32) :
    (cell o m key path standard).Shallow (.object m) path := by
  unfold cell
  split
  · exact Shallow.done _ _
  · exact Shallow.mend o _ _ (Shallow.fail_key m hkey _)

theorem plain_misfit (r : Rect) (columns : UInt32) : (Segment.key (misfit r columns).1).Plain := by
  unfold misfit
  split
  · decide
  · split
    · decide
    · show (Segment.key "w").Plain
      decide

/-- The fault of a rectangle lies at it or in one of its cells. -/
theorem shallow_rect (v : Value) (columns : UInt32) : (rect o v path columns).Shallow v path := by
  unfold rect
  cases v with
  | object m =>
      refine Shallow.bind (shallow_cell o m path "x" (by decide) _) fun x => ?_
      refine Shallow.bind (shallow_cell o m path "y" (by decide) _) fun y => ?_
      refine Shallow.bind (shallow_cell o m path "w" (by decide) _) fun w => ?_
      refine Shallow.bind (shallow_cell o m path "h" (by decide) _) fun h => ?_
      dsimp only
      split
      · exact Shallow.done _ _
      · split
        · exact Shallow.repaired _ _ _ _
        · exact Shallow.fail_key m (plain_misfit _ columns) _
  | _ => exact Shallow.mend o _ _ (Shallow.fail_here _ _)

/-- The keys of a frame lead to its rectangle. -/
theorem shallow_frameRect (columns : UInt32) :
    (frameRect o m path columns).Shallow (.object m) path := by
  unfold frameRect
  split
  · exact Shallow.done _ _
  · exact Shallow.done _ _
  next v _ hv =>
    refine Shallow.under (by decide) hv ?_
    exact Shallow.bind (shallow_rect o _ v columns) fun r => Shallow.done _ _

/-- The fault of a frame lies at it or in its rectangle. -/
theorem shallow_frame (columns : UInt32) : (frame o m path columns).Shallow (.object m) path := by
  unfold frame
  dsimp only
  split
  next f hf =>
    refine Shallow.under (by decide) hf ?_
    exact Shallow.bind (shallow_frameRect o f _ columns) fun g => Shallow.done _ _
  · exact Shallow.assume o _ (Shallow.fail_key m (by decide) _)
  · exact Shallow.assume o _ (Shallow.fail_key m (by decide) _)
  · exact Shallow.assume o _ (Shallow.fail_key m (by decide) _)

/-- An unknown widget is a fault under its key. -/
theorem shallow_widget : (widget o m path).Shallow (.object m) path := by
  unfold widget
  refine Shallow.bind (shallow_requiredText m path "widgetId" (by decide)) fun id => ?_
  split
  · exact Shallow.done _ _
  · exact Shallow.mend o _ _ (Shallow.fail_key m (by decide) _)

theorem shallow_panelTitle : (panelTitle o m path).Shallow (.object m) path := by
  unfold panelTitle
  split
  · exact Shallow.done _ _
  · exact Shallow.done _ _
  · exact Shallow.done _ _
  · exact Shallow.mend o _ _ (Shallow.fail_key m (by decide) _)

/-- A panel holds no list. -/
theorem shallow_panel (v : Value) (columns : UInt32) :
    (panel o now v path columns).Shallow v path := by
  unfold panel
  cases v with
  | object m =>
      show (Check.done m >>= _).Shallow _ _
      rw [Check.done_bind]
      refine Shallow.bind (shallow_requiredText m path "id" (by decide)) fun id => ?_
      refine Shallow.bind (shallow_widget o m path) fun widgetId => ?_
      refine Shallow.bind (shallow_panelTitle o m path) fun title => ?_
      refine Shallow.bind (shallow_spec o m path "dataSpec" (by decide) _) fun dataSpec => ?_
      refine Shallow.bind (shallow_spec o m path "viewSpec" (by decide) _) fun viewSpec => ?_
      refine Shallow.bind (shallow_frame o m path columns) fun frame => ?_
      refine Shallow.bind (shallow_flag o m path "locked" (by decide)) fun locked => ?_
      refine Shallow.bind (shallow_flag o m path "pinned" (by decide)) fun pinned => ?_
      refine Shallow.bind (shallow_flag o m path "protected" (by decide)) fun guarded => ?_
      refine Shallow.bind (shallow_timestamp o now m path "createdAt" (by decide)) fun _ => ?_
      refine Shallow.bind (shallow_timestamp o now m path "updatedAt" (by decide)) fun _ => ?_
      exact Shallow.done _ _
  | _ => exact Shallow.fail_here _ _

theorem shallow_kind : (kind o m path).Shallow (.object m) path := by
  unfold kind
  split
  · split
    · exact Shallow.done _ _
    · exact Shallow.mend o _ _ (Shallow.fail_key m (by decide) _)
  · exact Shallow.assume o _ (Shallow.fail_key m (by decide) _)

/-- The fault of a grid lies at it. -/
theorem shallow_gridSpec : (Validation.gridSpec o m path).Shallow (.object m) path := by
  unfold Validation.gridSpec
  split
  · exact Shallow.done _ _
  · split
    · exact Shallow.done _ _
    · exact Shallow.mend o _ _ (Shallow.fail_key m (by decide) _)

theorem shallow_pageTitle (id : String) : (pageTitle o m id path).Shallow (.object m) path := by
  unfold pageTitle
  split
  · exact Shallow.done _ _
  · exact Shallow.mend o _ _ (Shallow.fail_key m (by decide) _)

theorem shallow_version : (version m path).Shallow (.object m) path := by
  unfold version
  split
  · exact Shallow.fail_key m (by decide) _
  · split
    · exact Shallow.fail_key m (by decide) _
    · exact Shallow.ite (Shallow.unsupported _ _) (Shallow.done _ _)

theorem shallow_defaultPageId (ps : List Page) :
    (Validation.defaultPageId o m ps path).Shallow (.object m) path := by
  unfold Validation.defaultPageId
  split
  · exact Shallow.done _ _
  · exact Shallow.mend o _ _ (Shallow.fail_key m (by decide) _)

end Validation

/-! ## §2. Checks that locate their faults. -/

/-- Where a list stands under a key of the value that `owner` leads to, and the
steps lead through one of its items, all items before that one pass. -/
def AcceptsBefore {α : Type} (items : Value → ItemCheck α) (owner : List Segment) (key : String)
    (path : Path) (v : Value) (steps : List Segment) : Prop :=
  ∀ i rest, steps = owner ++ .key key :: .index i :: rest → ∀ j < i, ∃ u x,
    v.at? owner = some u ∧ u.at? [.key key, .index j] = some x ∧
      ((items u).check x ⟨path.segments ++ owner ++ [.key key, .index j]⟩).Lenient

/-- The check blames the value at a place below `path` that has the property `R`
and does not look behind that place. -/
def Blames {α : Type} (check : Value → Path → Check α) (R : Path → Value → List Segment → Prop)
    (v : Value) (path : Path) (fault : Fault) (p : Path) : Prop :=
  ∃ rest, p = ⟨path.segments ++ rest⟩ ∧ v.Points rest ∧ R path v rest ∧
    ∀ v', Value.AlteredAfter rest v v' → check v' path = .error (.schema fault p)

/-- The check blames every value that it finds at fault. -/
def Locates {α : Type} (check : Value → Path → Check α)
    (R : Path → Value → List Segment → Prop) : Prop :=
  ∀ v path fault p, check v path = .error (.schema fault p) → Blames check R v path fault p

namespace AcceptsBefore

variable {α : Type} {items : Value → ItemCheck α} {owner steps : List Segment} {key : String}
  {path : Path} {u v : Value}

/-- Nothing stands in front of a place that keys lead to. -/
theorem of_keys (h : KeysOnly steps) : AcceptsBefore items owner key path v steps := by
  intro i rest hsteps
  refine (h.not_index (q := owner ++ [.key key]) (r := rest) (i := i) ?_).elim
  rw [hsteps, List.append_assoc]
  rfl

/-- Items that a walk has passed. -/
theorem of_passes {m : Members} {before after : List Value} {seen : List String}
    (h : (items (.object m)).Passes (path.key key) 0 [] before seen)
    (found : m.get? key = some (.list (before ++ after))) :
    AcceptsBefore items [] key path (.object m) (.key key :: .index before.length :: steps) := by
  intro i rest hsteps j hj
  cases hsteps
  have hy : before[j]? = some before[j] := List.getElem?_eq_getElem hj
  refine ⟨.object m, before[j], rfl, Value.at?_item found ?_, ?_⟩
  · rw [List.getElem?_append_left hj, hy]
  · have hlenient := h.lenient hy
    rw [Nat.zero_add, Path.index, Path.key, List.append_assoc] at hlenient
    rwa [List.append_nil]

/-- The same steps in front. -/
theorem below {q : List Segment} (hq : v.at? q = some u)
    (h : AcceptsBefore items owner key ⟨path.segments ++ q⟩ u steps) :
    AcceptsBefore items (q ++ owner) key path v (q ++ steps) := by
  intro i rest hsteps j hj
  rw [List.append_assoc] at hsteps
  obtain ⟨w, x, hw, hx, hlenient⟩ := h i rest (List.append_cancel_left hsteps) j hj
  refine ⟨w, x, ?_, hx, ?_⟩
  · rw [Value.at?_append, hq]
    exact hw
  · rwa [← List.append_assoc path.segments q]

end AcceptsBefore

/-- What keys lead to stays as it is, and the refusal with it. -/
theorem ValidationError.Shallow.blames {α : Type} {check : Value → Path → Check α}
    {R : Path → Value → List Segment → Prop} {v : Value} {path p : Path} {fault : Fault}
    (h : (ValidationError.schema fault p).Shallow v path)
    (hR : ∀ rest, KeysOnly rest → R path v rest)
    (refused : check v path = .error (.schema fault p)) : Blames check R v path fault p := by
  obtain ⟨rest, hp, hpoints, hkeys⟩ := h fault p rfl
  refine ⟨rest, hp, hpoints, hR rest hkeys, fun v' hv' => ?_⟩
  rw [hv'.eq_of_keys hkeys]
  exact refused

/-! ## §3. Lists under a key. -/

/-- A walk over the list under a key has ended below the item `i`, at the steps
`rest` from there. -/
structure ListFault {α : Type} (items : Value → ItemCheck α)
    (R : Path → Value → List Segment → Prop) (key : String) (m : Members) (path : Path)
    (fault : Fault) (p : Path) (i : Nat) (rest : List Segment) : Prop where
  place : p = ⟨path.segments ++ .key key :: .index i :: rest⟩
  points : (Value.object m).Points (.key key :: .index i :: rest)
  before : AcceptsBefore items [] key path (.object m) (.key key :: .index i :: rest)
  inside : ∃ x, (Value.object m).at? [.key key, .index i] = some x ∧
    R ((path.key key).index i) x rest
  stays : ∀ v', Value.AlteredAfter (.key key :: .index i :: rest) (.object m) v' →
    ∃ (m' : Members) (xs' : List Value), v' = .object m' ∧ xs' ≠ [] ∧
      m'.get? key = some (.list xs') ∧ (∀ k, k ≠ key → m'.get? k = m.get? k) ∧
      (items (.object m)).walk (path.key key) 0 [] xs' = .error (.schema fault p)

namespace ItemCheck

variable {α : Type} {c : ItemCheck α} {R : Path → Value → List Segment → Prop} {x : Value}
  {q p : Path} {seen : List String} {fault : Fault}

/-- An item that stops a walk is to blame: for a fault in it, or for its id. -/
theorem Stops.blames (hitem : Locates c.check R) (hid : ∀ q x, R q x [.key "id"])
    (hobject : ∀ q x, (c.check x q).Ensures fun _ => x.members?.isSome = true)
    (h : c.Stops x q seen (.schema fault p)) :
    ∃ rest, p = ⟨q.segments ++ rest⟩ ∧ x.Points rest ∧ R q x rest ∧
      ∀ x', Value.AlteredAfter rest x x' → c.Stops x' q seen (.schema fault p) := by
  cases h with
  | refused h =>
      obtain ⟨rest, hp, hpoints, hR, hstays⟩ := hitem x q fault p h
      exact ⟨rest, hp, hpoints, hR, fun x' hx' => .refused (hstays x' hx')⟩
  | again accepted given =>
      have hpoints : x.Points [.key "id"] :=
        Value.points_single (by decide) (hobject q x _ _ accepted)
      refine ⟨[.key "id"], rfl, hpoints, hid q x, fun x' hx' => ?_⟩
      rw [hx'.eq_of_keys (.cons "id" .nil)]
      exact .again accepted given

end ItemCheck

/-- The end of a walk over the list under a key. -/
theorem listFault_of_walk {α : Type} {items : Value → ItemCheck α}
    {R : Path → Value → List Segment → Prop} {key : String} {m : Members} {path p : Path}
    {fault : Fault} {xs : List Value} (hkey : (Segment.key key).Plain)
    (hitem : Locates (items (.object m)).check R)
    (hid : ∀ q x, R q x [.key "id"])
    (hobject : ∀ q x, ((items (.object m)).check x q).Ensures fun _ => x.members?.isSome = true)
    (found : m.get? key = some (.list xs))
    (h : (items (.object m)).walk (path.key key) 0 [] xs = .error (.schema fault p)) :
    ∃ i rest, ListFault items R key m path fault p i rest := by
  obtain ⟨before, x, after, seen, rfl, hbefore, hx⟩ := ItemCheck.walk_eq_error_iff.mp h
  rw [Nat.zero_add] at hx
  obtain ⟨rest, hp, hpoints, hR, hstays⟩ := hx.blames hitem hid hobject
  have hget : (before ++ x :: after)[before.length]? = some x := by simp
  have hlist : (Value.object m).step? (.key key) = some (.list (before ++ x :: after)) := found
  have hindex : (Segment.index before.length).Plain := trivial
  have hnext : (Value.list (before ++ x :: after)).step? (.index before.length) = some x := hget
  refine ⟨before.length, rest, ?_, (hpoints.cons hindex hnext).cons hkey hlist,
    .of_passes hbefore found, ⟨x, Value.at?_item found hget, hR⟩, fun v' hv' => ?_⟩
  · rw [hp, Path.index, Path.key, List.append_assoc, List.append_assoc]
    rfl
  · -- the same items pass, and what is left of this one stops the walk again
    obtain ⟨m', x', after', rfl, found', others, hx'⟩ := hv'.of_member_item found
    refine ⟨m', _, rfl, List.append_ne_nil_of_right_ne_nil before (List.cons_ne_nil x' after'),
      found', others, ?_⟩
    refine ItemCheck.walk_eq_error_iff.mpr ⟨before, x', after', seen, rfl, hbefore, ?_⟩
    rw [Nat.zero_add]
    exact hstays x' hx'

/-! ## §4. Panels, layouts and pages. -/

namespace Validation

open Check (Shallow)

variable (o : ValidationOptions) (now : Instant)

/-- In a panel, keys alone lead to its fault. -/
theorem locates_panel (columns : UInt32) :
    Locates (fun x q => panel o now x q columns) fun _ _ _ => True := by
  intro v path fault p h
  exact (shallow_panel o now path v columns _ h).blames (fun _ _ => trivial) h

/-- A check that asks for an object accepts nothing else. -/
theorem members_of_object {α : Type} (f : Members → Check α) (x : Value) (path : Path)
    (what : String) : (object x path what >>= f).Ensures fun _ => x.members?.isSome = true := by
  refine Check.Ensures.bind (ensures_object x path what) fun m hm => ?_
  intro a ws _
  rw [hm]
  rfl

variable {o now} {m : Members} {path : Path} {e : ValidationError}

theorem object_of_members (m : Members) (path : Path) (what : String) :
    object (.object m) path what = .done m := rfl

/-- A list of panels is refused as such, or for one of its items. -/
theorem panelList_refused {columns : UInt32} (h : panelList o now m path columns = .error e) :
    e.Shallow (.object m) path ∨ ∃ xs, m.get? "panels" = some (.list xs) ∧
      panels o now (path.key "panels") columns 0 [] xs = .error e := by
  unfold panelList at h
  dsimp only at h
  split at h
  next xs hxs => exact Or.inr ⟨xs, hxs, h⟩
  next => exact Or.inl (Shallow.assume o _ (Shallow.fail_key m (by decide) _) e h)
  next => exact Or.inl (Shallow.assume o _ (Shallow.fail_key m (by decide) _) e h)
  next => exact Or.inl (Shallow.fail_key m (by decide) _ e h)

/-- A layout is refused for its kind or its grid, or else for its panels; in that
case any other panels that are refused so do as well. -/
theorem layout_refused (h : layout o now (.object m) path = .error e) :
    e.Shallow (.object m) path ∨ panelList o now m path (columnsOf o (.object m)) = .error e ∧
      ∀ m' : Members, (∀ k, k ≠ "panels" → m'.get? k = m.get? k) →
        panelList o now m' path (columnsOf o (.object m)) = .error e →
        layout o now (.object m') path = .error e := by
  rw [layout, object_of_members, Check.done_bind] at h
  rcases Check.bind_eq_error h with hkind | ⟨k, ws, hkind, h⟩
  · exact Or.inl (shallow_kind o m path e hkind)
  rcases Check.bind_eq_error h with hgrid | ⟨g, ws', hgrid, h⟩
  · exact Or.inl (shallow_gridSpec o m path e hgrid)
  -- the grid that the check gives is the one that the data has
  obtain ⟨rfl, -⟩ := ensures_gridSpec g ws' hgrid
  rcases Check.bind_eq_error h with hpanels | ⟨ps, ws'', -, h⟩
  · refine Or.inr ⟨hpanels, fun m' others hpanels' => ?_⟩
    have hkind' : kind o m' path = kind o m path := by
      rw [kind, kind, others "kind" (by decide)]
    have hgrid' : Validation.gridSpec o m' path = Validation.gridSpec o m path := by
      rw [Validation.gridSpec, Validation.gridSpec, kept, kept, others "gridSpec" (by decide)]
    rw [layout, object_of_members, Check.done_bind]
    refine Check.bind_error_of_ok (hkind'.trans hkind) ?_
    refine Check.bind_error_of_ok (hgrid'.trans hgrid) ?_
    exact Check.bind_of_error hpanels' _
  · cases h

/-- The panels in front of the faulty one are accepted. -/
theorem locates_layout :
    Locates (layout o now) fun path => AcceptsBefore (panelItems o now) [] "panels" path := by
  intro v path fault p h
  cases v with
  | object m =>
      rcases layout_refused h with hshallow | ⟨hpanels, hlayout⟩
      · exact hshallow.blames (fun _ => .of_keys) h
      rcases panelList_refused hpanels with hshallow | ⟨xs, found, hwalk⟩
      · exact hshallow.blames (fun _ => .of_keys) h
      · rw [panels_eq_walk] at hwalk
        obtain ⟨i, rest, hfault⟩ := listFault_of_walk (by decide) (locates_panel o now _)
          (fun _ _ => trivial) (fun q x => members_of_object _ x q "panel") found hwalk
        refine ⟨_, hfault.place, hfault.points, hfault.before, fun v' hv' => ?_⟩
        obtain ⟨m', xs', rfl, -, found', others, hwalk'⟩ := hfault.stays v' hv'
        refine hlayout m' others ?_
        rw [← panels_eq_walk] at hwalk'
        rw [panelList, found']
        exact hwalk'
  | _ => exact (Shallow.fail_here (α := Layout) _ _ _ h).blames (fun _ => .of_keys) h

/-- A page is refused for its id or its title or for want of a layout, or else for
its layout; in that case any other layout that is refused so does as well. -/
theorem page_refused (h : page o now (.object m) path = .error e) :
    e.Shallow (.object m) path ∨ ∃ l, m.get? "layout" = some l ∧
      layout o now l (path.key "layout") = .error e ∧
      ∀ l', layout o now l' (path.key "layout") = .error e →
        page o now (.object (m.modify "layout" fun _ => l')) path = .error e := by
  rw [page, object_of_members, Check.done_bind] at h
  rcases Check.bind_eq_error h with hid | ⟨id, ws, hid, h⟩
  · exact Or.inl (shallow_requiredText m path "id" (by decide) e hid)
  rcases Check.bind_eq_error h with htitle | ⟨title, ws', htitle, h⟩
  · exact Or.inl (shallow_pageTitle o m path id e htitle)
  split at h
  next => exact Or.inl (Shallow.fail_key m (by decide) _ e h)
  next l hl =>
    rcases Check.bind_eq_error h with hlayout | ⟨_, ws'', -, h⟩
    · refine Or.inr ⟨l, hl, hlayout, fun l' hlayout' => ?_⟩
      have others : ∀ k, k ≠ "layout" →
          (m.modify "layout" fun _ => l').get? k = m.get? k := by
        intro k hk
        rw [Keyed.get?_modify, if_neg (Ne.symm hk)]
      have hl' : (m.modify "layout" fun _ => l').get? "layout" = some l' := by
        rw [Keyed.get?_modify, if_pos rfl, hl]
        rfl
      rw [page, object_of_members, Check.done_bind,
        requiredText_congr path (others "id" (by decide))]
      refine Check.bind_error_of_ok hid ?_
      rw [pageTitle, filledText?_congr (others "title" (by decide))]
      refine Check.bind_error_of_ok htitle ?_
      rw [hl']
      exact Check.bind_of_error hlayout' _
    · cases h

/-- Likewise one level up. -/
theorem locates_page : Locates (page o now) fun path =>
    AcceptsBefore (panelItems o now) [.key "layout"] "panels" path := by
  intro v path fault p h
  cases v with
  | object m =>
      rcases page_refused h with hshallow | ⟨l, hl, hlayout, hpage⟩
      · exact hshallow.blames (fun _ => .of_keys) h
      · obtain ⟨rest, rfl, hpoints, hbefore, hstays⟩ := locates_layout l _ fault p hlayout
        have hstep : (Value.object m).step? (.key "layout") = some l := hl
        have hat : (Value.object m).at? [.key "layout"] = some l := (Value.at?_single _ _).trans hl
        refine ⟨.key "layout" :: rest, ?_, hpoints.cons (by decide) hstep, hbefore.below hat, ?_⟩
        · rw [Path.key, List.append_assoc]
          rfl
        · intro v' hv'
          obtain ⟨l', hl', rfl⟩ := hv'.of_member hl
          exact hpage l' (hstays l' hl')
  | _ => exact (Shallow.fail_here (α := Page) _ _ _ h).blames (fun _ => .of_keys) h

/-! ## §5. Documents. -/

/-- Pages are checked from the first on, with no id seen. -/
theorem pageList_of_list {xs : List Value} (hne : xs ≠ [])
    (found : m.get? "pages" = some (.list xs)) :
    pageList o now m path = pages o now (path.key "pages") 0 [] xs := by
  unfold pageList
  rw [found]
  cases xs with
  | nil => exact absurd rfl hne
  | cons x rest => rfl

/-- A list of pages is refused as such, or for one of its items. -/
theorem pageList_refused (h : pageList o now m path = .error e) :
    e.Shallow (.object m) path ∨ ∃ xs, m.get? "pages" = some (.list xs) ∧
      pages o now (path.key "pages") 0 [] xs = .error e := by
  unfold pageList at h
  dsimp only at h
  split at h
  next => exact Or.inl (Shallow.fail_key m (by decide) _ e h)
  next => exact Or.inl (Shallow.fail_key m (by decide) _ e h)
  next xs _ hxs =>
    obtain ⟨w, hw, hitems⟩ := Option.bind_eq_some_iff.mp hxs
    cases w with
    | list items =>
        cases hitems
        exact Or.inr ⟨_, hw, h⟩
    | _ => cases hitems

/-- A document is refused for one of its own members, or else for its pages; in
that case any other pages that are refused so do as well, with any members that
are checked after them. -/
theorem workspace_refused (h : workspace o now (.object m) = .error e) :
    e.Shallow (.object m) .root ∨ pageList o now m .root = .error e ∧
      ∀ m' : Members, (∀ k, k ∉ ["pages", "defaultPageId", "createdAt", "updatedAt"] →
          m'.get? k = m.get? k) →
        pageList o now m' .root = .error e → workspace o now (.object m') = .error e := by
  unfold workspace at h ⊢
  dsimp only at h ⊢
  rw [object_of_members, Check.done_bind] at h
  rcases Check.bind_eq_error h with hversion | ⟨n, ws₁, hversion, h⟩
  · exact Or.inl (shallow_version m .root e hversion)
  rcases Check.bind_eq_error h with hid | ⟨id, ws₂, hid, h⟩
  · exact Or.inl (shallow_requiredText m .root "id" (by decide) e hid)
  rcases Check.bind_eq_error h with hname | ⟨name, ws₃, hname, h⟩
  · exact Or.inl (shallow_requiredText m .root "name" (by decide) e hname)
  rcases Check.bind_eq_error h with hpages | ⟨ps, ws₄, -, h⟩
  · refine Or.inr ⟨hpages, fun m' others hpages' => ?_⟩
    rw [object_of_members, Check.done_bind, requiredText_congr .root (others "id" (by decide)),
      requiredText_congr .root (others "name" (by decide)), version,
      others versionKey (by decide)]
    refine Check.bind_error_of_ok hversion ?_
    refine Check.bind_error_of_ok hid ?_
    refine Check.bind_error_of_ok hname ?_
    exact Check.bind_of_error hpages' _
  · -- what comes after the pages is checked on the object itself
    refine Or.inl (Shallow.bind (shallow_defaultPageId o m .root ps) (fun dflt => ?_) e h)
    refine Shallow.bind (shallow_timestamp o now m .root "createdAt" (by decide)) fun _ => ?_
    refine Shallow.bind (shallow_timestamp o now m .root "updatedAt" (by decide)) fun _ => ?_
    exact Shallow.done _ _

/-- The second document differs at most in what a walk to the place does not look
at: in items behind it, and in members that are checked after the pages. -/
inductive AlteredUnseen (steps : List Segment) (v w : Value) : Prop
  | items (h : Value.AlteredAfter steps v w)
  | members {i : Nat} {rest : List Segment} {v' : Value}
    (inside : steps = .key "pages" :: .index i :: rest) (h : Value.AlteredAfter steps v v')
    (others : AgreesApart ["defaultPageId", "createdAt", "updatedAt"] v' w)

/-- A document is refused for its first fault, which has a place in it. -/
structure FoundFirst (o : ValidationOptions) (now : Instant) (v : Value) (fault : Fault)
    (p : Path) : Prop where
  /-- The steps are plain, and all but the last one lead to objects and arrays. -/
  points : v.Points p.segments
  /-- The pages in front of the place pass. -/
  pages : AcceptsBefore (pageItems o now) [] "pages" .root v p.segments
  /-- So do the panels in front of it, on the grid of their layout. -/
  panels : ∀ i, AcceptsBefore (panelItems o now) [.key "pages", .index i, .key "layout"]
    "panels" .root v p.segments
  /-- What has not been looked at may be anything. -/
  stays : ∀ w, AlteredUnseen p.segments v w → workspace o now w = .error (.schema fault p)

namespace FoundFirst

variable {v : Value} {fault : Fault} {p : Path}

/-- There is nothing in front of a place that keys lead to, and nothing behind it. -/
theorem of_shallow (hshallow : (ValidationError.schema fault p).Shallow v .root)
    (h : workspace o now v = .error (.schema fault p)) : FoundFirst o now v fault p := by
  obtain ⟨rest, rfl, hpoints, hkeys⟩ := hshallow fault p rfl
  refine ⟨hpoints, .of_keys hkeys, fun _ => .of_keys hkeys, fun w hw => ?_⟩
  cases hw with
  | items hw =>
      rw [hw.eq_of_keys hkeys]
      exact h
  | members inside hw others => exact (hkeys.not_index (q := [.key "pages"]) inside).elim

/-- Whatever is exchanged behind a fault in the pages, the walk over them ends as
it did. -/
theorem refused_behind {R : Path → Value → List Segment → Prop} {i : Nat} {rest : List Segment}
    {v' w : Value}
    (hworkspace : ∀ m' : Members, (∀ k, k ∉ ["pages", "defaultPageId", "createdAt", "updatedAt"] →
        m'.get? k = m.get? k) → pageList o now m' .root = .error (.schema fault p) →
      workspace o now (.object m') = .error (.schema fault p))
    (hfault : ListFault (pageItems o now) R "pages" m .root fault p i rest)
    (hv' : Value.AlteredAfter (.key "pages" :: .index i :: rest) (.object m) v')
    (hw : AgreesApart ["defaultPageId", "createdAt", "updatedAt"] v' w) :
    workspace o now w = .error (.schema fault p) := by
  obtain ⟨m', xs', rfl, hne, found', others, hwalk'⟩ := hfault.stays v' hv'
  obtain ⟨n, rfl, others'⟩ := hw.members
  have hpages' : Keyed.get? "pages" n = some (.list xs') := (others' _ (by decide)).trans found'
  refine hworkspace n (fun k hk => ?_) ?_
  · simp only [List.mem_cons, not_or] at hk others'
    rw [others' k hk.2, others k hk.1]
  · rw [pageList_of_list hne hpages', pages_eq_walk _ _ _ (.object m)]
    exact hwalk'

theorem of_workspace (h : workspace o now v = .error (.schema fault p)) :
    FoundFirst o now v fault p := by
  cases v with
  | object m =>
      rcases workspace_refused h with hshallow | ⟨hpages, hworkspace⟩
      · exact of_shallow hshallow h
      rcases pageList_refused hpages with hshallow | ⟨xs, found, hwalk⟩
      · exact of_shallow hshallow h
      rw [pages_eq_walk _ _ _ (.object m)] at hwalk
      obtain ⟨i, rest, hfault⟩ := listFault_of_walk (by decide) locates_page
        (fun _ _ => .of_keys (.cons "id" .nil)) (fun q x => members_of_object _ x q "page") found
        hwalk
      obtain rfl : p = ⟨.key "pages" :: .index i :: rest⟩ := hfault.place
      refine ⟨hfault.points, hfault.before, fun j => ?_, fun w hw => ?_⟩
      · obtain ⟨x, hx, hinside⟩ := hfault.inside
        by_cases hj : j = i
        · subst hj
          exact hinside.below hx
        · -- the panels of another page are not on the way
          intro k r hsteps
          cases hsteps
          exact absurd rfl hj
      · cases hw with
        | items hw => exact refused_behind hworkspace hfault hw (.refl _ w)
        | members inside hw others => exact refused_behind hworkspace hfault hw others
  | _ => exact of_shallow (Shallow.fail_here (α := Workspace) _ _ _ h) h

end FoundFirst

/-- What is no object is refused at the root. -/
theorem workspace_of_no_object {v : Value} (h : v.members? = none) :
    workspace o now v = .fail .root (.notAnObject "workspace") := by
  unfold workspace object
  dsimp only
  rw [h]
  rfl

/-- What is refused is refused at any clock reading. -/
theorem refused_anytime {v : Value} (h : workspace o now v = .error e) (now' : Instant) :
    workspace o now' v = .error e := by
  cases v with
  | object m =>
      have halike : Check.Alike _ (workspace o now (.object m)) (workspace o now' (.object m)) :=
        alike_workspace (fun _ _ => rfl) (alike_timestamp o now now' m "updatedAt" .root)
      rw [h] at halike
      cases hw : workspace o now' (.object m) with
      | error e' =>
          rw [hw] at halike
          exact congrArg Except.error halike.symm
      | ok r =>
          rw [hw] at halike
          exact halike.elim
  | _ =>
      rw [workspace_of_no_object rfl] at h ⊢
      exact h

end Validation

/-! ## §6. The entry point. -/

/-- Validation refuses what the walk refuses. -/
theorem validate_eq_error_iff {o : ValidationOptions} {now : Instant} {v : Value}
    {e : ValidationError} :
    validate o now v = .error e ↔ Validation.workspace o now v = .error e := by
  unfold validate
  cases Validation.workspace o now v with
  | error e' =>
      show (Except.error e' : Except ValidationError Validated) = _ ↔
        (Except.error e' : Check Workspace) = _
      rw [Except.error.injEq, Except.error.injEq]
  | ok r => exact iff_of_false nofun nofun

/-- **A refusal names the first fault, at a place of the document.**  In either
mode, a document that is refused for a fault is refused at a path that its text
alone determines, and of which all but the last step lead to objects and arrays
of the document.  All pages in front of it pass, and all panels in front of it
on its page; whatever else stands behind it in the lists, and under the keys
that are checked after the pages if it lies in a page, the document is refused
for the same fault at the same path, at any clock reading. -/
theorem fault_first {o : ValidationOptions} {now : Instant} {v : Value} {fault : Fault} {p : Path}
    (h : validate o now v = .error (.schema fault p)) :
    p.render = "$" ++ String.join (p.segments.map Segment.render) ∧
      (∀ q : Path, (∀ s ∈ q.segments, s.Plain) → q.render = p.render → q = p) ∧
      v.Points p.segments ∧
      AcceptsBefore (Validation.pageItems o now) [] "pages" .root v p.segments ∧
      (∀ i, AcceptsBefore (Validation.panelItems o now)
        [.key "pages", .index i, .key "layout"] "panels" .root v p.segments) ∧
      ∀ w, Validation.AlteredUnseen p.segments v w →
        ∀ now', validate o now' w = .error (.schema fault p) := by
  have hfirst := Validation.FoundFirst.of_workspace (validate_eq_error_iff.mp h)
  refine ⟨p.render_eq, fun q hq h => Path.render_inj hq hfirst.points.plain h, hfirst.points,
    hfirst.pages, hfirst.panels, fun w hw now' => ?_⟩
  exact validate_eq_error_iff.mpr (Validation.refused_anytime (hfirst.stays w hw) now')

/-- A panel, and a page of some panels. -/
def plainPanel (id widget : String) : Value :=
  .object [("dataSpec", .object []), ("frame", .object []), ("id", .text id),
    ("viewSpec", .object []), ("widgetId", .text widget)]

/-- A page of some panels. -/
def plainPage (id : String) (panels : List Value) : Value :=
  .object [("id", .text id), ("layout", .object [("kind", .text "grid"), ("panels", .list panels)]),
    ("title", .text id)]

/-- A document with an unknown widget on its second page, and anything behind
that panel and behind that page. -/
def radarDesk (panels pages : List Value) : Members :=
  [("defaultPageId", .text "a"), ("id", .text "desk"), ("name", .text "Desk"),
    ("pages", .list ([plainPage "a" [plainPanel "p" "quick-nav"]] ++
      plainPage "b" ([plainPanel "q" "quick-nav"] ++ plainPanel "r" "radar" :: panels) :: pages)),
    ("schemaVersion", .ofNat 1)]

/-- What is altered comes after the faulty panel. -/
theorem radarDesk_altered (panels panels' pages pages' : List Value) (rest : List Segment) :
    Value.AlteredAfter
      (.key "pages" :: .index 1 :: .key "layout" :: .key "panels" :: .index 1 :: rest)
      (.object (radarDesk panels pages)) (.object (radarDesk panels' pages')) :=
  .member rfl (.item [_] pages pages'
    (.member rfl (.member rfl (.item [_] panels panels' (.same rest _)))))

/-- The unknown widget is found first, whatever stands behind it. -/
theorem radarDesk_refused_alike :
    let o := ValidationOptions.ofMode .strict
    let p : Path := ⟨[.key "pages", .index 1, .key "layout", .key "panels", .index 1,
      .key "widgetId"]⟩
    validate o ⟨0⟩ (.object (radarDesk [] [])) = .error (.schema (.unknownWidget "radar") p) ∧
      validate o ⟨7⟩ (.object ((radarDesk [.null] [.bool true]).insert "defaultPageId" .null))
        = .error (.schema (.unknownWidget "radar") p) := by
  intro o p
  have hrefused : validate o ⟨0⟩ (.object (radarDesk [] []))
      = .error (.schema (.unknownWidget "radar") p) := by
    have hread : (match validate o ⟨0⟩ (.object (radarDesk [] [])) with
        | .error e => some e
        | .ok _ => none) = some (.schema (.unknownWidget "radar") p) := by decide
    split at hread
    next e he => rw [he, Option.some.inj hread]
    next => cases hread
  obtain ⟨-, -, -, -, -, hstays⟩ := fault_first hrefused
  refine ⟨hrefused, hstays _ (.members rfl (radarDesk_altered [] [.null] [] [.bool true] _) ?_) ⟨7⟩⟩
  exact AgreesApart.insert _ (by decide) _

end Dashboard
