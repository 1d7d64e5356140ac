/-
  Dashboard.Proofs.Session.Targets
  ────────────────────────────────
  **AN EDIT TOUCHES ITS TARGET ONLY.**

  `Touches` says what an operation may do to the panels of the page shown: one
  panel comes last, one goes, one moves, one has another frame or another flag.
  Each operation on panels that is accepted does just that, in one of two ways.
  It changes nothing at all, or it edits the draft, and then the content of the
  draft has really changed.  So the history grows exactly with the content.

  Main results:
    Settled                 — what an accepted operation has done
    settled_of_accepted     — each of the operations on panels
    Touches.distinct, Touches.locked_frames, Touches.guarded_kept — what all keep
    edits_touch_their_target — the document, the page, the panels, the history
-/
import Dashboard.Proofs.Document.RoundTrip
import Dashboard.Proofs.Document.Sameness
import Dashboard.Proofs.History
import Dashboard.Proofs.Session.Frames
import Dashboard.Proofs.Session.Refusals
import Dashboard.Proofs.Session.Reorder

namespace Dashboard

open Grid Time

/-! ## §1. What an operation may touch. -/

/-- What tells panels apart that an operation has changed: the id, the grid
frame and the flags. -/
def Panel.outline (p : Panel) : String × Option Rect × Bool × Bool × Bool :=
  (p.id, p.frame.grid, p.locked, p.pinned, p.guarded)

theorem Panel.outline_of_same (p q : Panel) (h : p.same q = true) : p.outline = q.outline := by
  simp only [Panel.same, Frame.same, Bool.and_eq_true, beq_iff_eq] at h
  obtain ⟨⟨⟨⟨⟨⟨⟨⟨⟨⟨hid, -⟩, -⟩, -⟩, -⟩, hgrid, -⟩, hlocked⟩, hpinned⟩, hguarded⟩, -⟩, -⟩ := h
  rw [outline, outline, hid, hgrid, hlocked, hpinned, hguarded]

namespace Session

/-- The id that the operation gives to a new panel. -/
def Action.newId? : Action → Option String
  | .addWidgetPanel newId _ | .addPlaceholderPanel newId | .duplicatePanel newId _ => some newId
  | _ => none

/-- The panel whose frame the operation writes. -/
def Action.framed? : Action → Option String
  | .setPanelFrame id _ | .resizePanelWidth id _ => some id
  | .applyFrameChange c => some c.panel
  | _ => none

/-- The panel whose flag the operation turns over, and how. -/
def Action.toggled? : Action → Option (String × (Panel → Panel))
  | .toggleLock id => some (id, fun p => { p with locked := !p.locked })
  | .togglePin id => some (id, fun p => { p with pinned := !p.pinned })
  | .toggleProtect id => some (id, fun p => { p with guarded := !p.guarded })
  | _ => none

/-- The operation works on the panels of the page shown. -/
def Action.editsPanels : Action → Bool
  | .removePanel _ _ | .reorderPanels _ _ => true
  | a => a.newId?.isSome || a.framed?.isSome || a.toggled?.isSome

/-- The panels that a page may have after an accepted operation. -/
inductive Action.Touches (standard : Spec) (now : Instant) (page : Page) :
    Action → List Panel → Prop
  /-- A panel of the new id is appended, in the first free place for some size. -/
  | appended {a : Action} {newId : String} (adds : a.newId? = some newId) (p : Panel) (size : Size)
      (id : p.id = newId)
      (placed : p.frame.grid = some (findFreeSlot (page.layout.specOr standard).columns size
        (page.layout.panels.map (·.gridRect)))) :
      Touches standard now page a (page.layout.panels ++ [p])
  /-- One panel is gone; a protected one was confirmed. -/
  | removed (id : String) (confirmed : Bool) (before : List Panel) (p : Panel)
      (after : List Panel) (panels : page.layout.panels = before ++ p :: after) (own : p.id = id)
      (agreed : p.guarded = true → confirmed = true) :
      Touches standard now page (.removePanel id confirmed) (before ++ after)
  /-- One panel stands elsewhere among the others. -/
  | moved (source target : String) (i j : Nat) (p : Panel) (place : page.layout.panels[i]? = some p)
      (own : p.id = source) (within : j < page.layout.panels.length) :
      Touches standard now page (.reorderPanels source target)
        ((page.layout.panels.eraseIdx i).insertIdx j p)
  /-- One panel that is not locked has another grid frame, and another date of
  change. -/
  | framed {a : Action} {id : String} (frames : a.framed? = some id) (before : List Panel)
      (p : Panel) (after : List Panel) (panels : page.layout.panels = before ++ p :: after)
      (own : p.id = id) (unlocked : p.locked = false) (grid : Option Rect) (date : String) :
      Touches standard now page a
        (before ++ { p with frame := { p.frame with grid }, updatedAt := date } :: after)
  /-- One panel has a flag turned over, and is stamped. -/
  | toggled {a : Action} {id : String} {turn : Panel → Panel} (toggles : a.toggled? = some (id, turn))
      (before : List Panel) (p : Panel) (after : List Panel)
      (panels : page.layout.panels = before ++ p :: after) (own : p.id = id) :
      Touches standard now page a (before ++ (turn p).touch now :: after)

/-- **What an accepted operation has done**: nothing, or an edit of the page
shown after which its panels can be told from those before. -/
def Settled (s : Session) (now : Instant) (a : Action) (s' : Session) : Prop :=
  ∃ page panels, s.editedPage = .ok page ∧ a.Touches s.settings.grid now page panels ∧
    (s' = s ∧ panels = page.layout.panels ∨
      s.Repaneled now page panels s' ∧ ((page.layout.panels.map (·.id)).Nodup →
        panels.map Panel.outline ≠ page.layout.panels.map Panel.outline))

variable {s s' : Session} {now : Instant} {a : Action} {page : Page} {panels : List Panel}
  {standard : Spec}

/-! ## §2. One item in place of another. -/

section InPlace

variable {α β : Type} {l before after : List α} {a b x : α}

/-- A value of all items is the same only if the new item has that of the old one. -/
theorem map_in_place_iff {f : α → β} (h : l = before ++ a :: after) :
    (before ++ b :: after).map f = l.map f ↔ f b = f a := by
  rw [h]
  simp

/-- The items then are the new one and some of those before. -/
theorem mem_in_place (h : l = before ++ a :: after) (hx : x ∈ before ++ b :: after) :
    x = b ∨ x ∈ l := by
  rw [h]
  rcases List.mem_append.mp hx with hx | hx
  · exact Or.inr (List.mem_append_left _ hx)
  · rcases List.mem_cons.mp hx with rfl | hx
    · exact Or.inl rfl
    · exact Or.inr (List.mem_append_right _ (List.mem_cons_of_mem _ hx))

/-- Without one item there are fewer. -/
theorem sublist_without (h : l = before ++ a :: after) : (before ++ after).Sublist l := by
  rw [h]
  exact (List.sublist_cons_self a after).append_left before

end InPlace

/-! ## §3. The operations. -/

/-- A panel appended by whatever makes it for the first free place. -/
theorem settled_of_appendPanel {edit : Page → Except SessionError (String × List Panel)}
    {newId answer : String} (adds : a.newId? = some newId)
    (hedit : ∀ page r, edit page = .ok r → ∃ size make, r = s.appendPanel page size make ∧
      ∀ rect, (make rect).id = newId ∧ (make rect).frame.grid = some rect)
    (h : s.editPanels now edit = (.ok answer, s')) : s.Settled now a s' := by
  obtain ⟨page, panels, hpage, hpanels, hrepaneled⟩ := editPanels_eq_ok h
  obtain ⟨size, make, hr, hmake⟩ := hedit page _ hpanels
  obtain ⟨hid, hgrid⟩ := hmake (s.firstFit page size)
  cases hr
  refine ⟨page, _, hpage, .appended adds _ size hid hgrid, Or.inr ⟨hrepaneled, fun _ hsame => ?_⟩⟩
  have hlength := congrArg List.length hsame
  simp at hlength

theorem settled_addWidgetPanel {newId widgetId answer : String}
    (h : s.addWidgetPanel now newId widgetId = (.ok answer, s')) :
    s.Settled now (.addWidgetPanel newId widgetId) s' := by
  unfold addWidgetPanel at h
  split at h
  next => cases h
  next =>
    split at h
    next => cases h
    next d hd =>
      refine settled_of_appendPanel rfl (fun page r hr => ?_) h
      exact ⟨_, _, (Except.ok.inj hr).symm, fun rect => ⟨rfl, rfl⟩⟩

theorem settled_addPlaceholderPanel {newId answer : String}
    (h : s.addPlaceholderPanel now newId = (.ok answer, s')) :
    s.Settled now (.addPlaceholderPanel newId) s' := by
  refine settled_of_appendPanel rfl (fun page r hr => ?_) h
  exact ⟨_, _, (Except.ok.inj hr).symm, fun rect => ⟨rfl, rfl⟩⟩

theorem settled_duplicatePanel {newId id answer : String}
    (h : s.duplicatePanel now newId id = (.ok answer, s')) :
    s.Settled now (.duplicatePanel newId id) s' := by
  refine settled_of_appendPanel rfl (fun page r hr => ?_) h
  split at hr
  next => cases hr
  next p hp => exact ⟨_, _, (Except.ok.inj hr).symm, fun rect => ⟨rfl, rfl⟩⟩

/-- What an accepted removal has done: the first panel of the id is gone, and a
protected one was confirmed. -/
theorem removePanel_eq_ok {id : String} {confirmed : Bool} {p : Panel}
    (h : s.removePanel now id confirmed = (.ok p, s')) :
    ∃ page before after, s.editedPage = .ok page ∧ page.layout.panels = before ++ p :: after ∧
      p.id = id ∧ (p.guarded = true → confirmed = true) ∧
      s.Repaneled now page (before ++ after) s' := by
  obtain ⟨page, panels, hpage, hpanels, hrepaneled⟩ := editPanels_eq_ok h
  split at hpanels
  next => cases hpanels
  next q hq =>
    split at hpanels
    next => cases hpanels
    next hagreed =>
      cases hpanels
      obtain ⟨hown, before, after, hsplit, hbefore⟩ := place_of_find? hq
      have herase : page.layout.panels.eraseP (·.id == id) = before ++ after := by
        rw [hsplit, List.eraseP_append_right _ fun x hx => by simp [hbefore x hx]]
        exact congrArg (before ++ ·) (List.eraseP_cons_of_pos hown)
      rw [herase] at hrepaneled
      refine ⟨page, before, after, hpage, hsplit, beq_iff_eq.mp hown, fun hp => ?_, hrepaneled⟩
      cases confirmed with
      | true => rfl
      | false => simp [hp] at hagreed

theorem settled_removePanel {id : String} {confirmed : Bool} {p : Panel}
    (h : s.removePanel now id confirmed = (.ok p, s')) :
    s.Settled now (.removePanel id confirmed) s' := by
  obtain ⟨page, before, after, hpage, hpanels, hown, hagreed, hrepaneled⟩ := removePanel_eq_ok h
  refine ⟨page, _, hpage, .removed id confirmed before p after hpanels hown hagreed,
    Or.inr ⟨hrepaneled, fun _ hsame => ?_⟩⟩
  have hlength := congrArg List.length hsame
  rw [hpanels] at hlength
  simp at hlength

/-- Of two panels with different ids, one moves to the other's place: then
another id stands there. -/
theorem outlines_ne_of_moveTo {p q : Panel} (distinct : (page.layout.panels.map (·.id)).Nodup)
    (hp : p ∈ page.layout.panels) (hq : q ∈ page.layout.panels) (hne : p.id ≠ q.id)
    (hmove : moveTo p.id q.id page.layout.panels = .ok panels) :
    panels.map Panel.outline ≠ page.layout.panels.map Panel.outline := by
  obtain ⟨i, hi⟩ := List.mem_iff_getElem?.mp hp
  obtain ⟨j, hj⟩ := List.mem_iff_getElem?.mp hq
  have hij : i ≠ j := by
    rintro rfl
    exact hne (congrArg Panel.id (Option.some.inj (hi.symm.trans hj)))
  rw [moveTo_of_index distinct hi hj hij] at hmove
  cases hmove
  intro hsame
  have hthere := congrArg (·[j]?) hsame
  simp only [List.getElem?_map, (moved_places hi (List.getElem?_eq_some_iff.mp hj).1).2.1, hj,
    Option.map_some] at hthere
  exact hne (congrArg Prod.fst (Option.some.inj hthere))

theorem settled_reorderPanels {source target : String} {answer : Unit}
    (h : s.reorderPanels now source target = (.ok answer, s')) :
    s.Settled now (.reorderPanels source target) s' := by
  obtain ⟨page, p, q, hpage, hp, hq, hdone⟩ := reorderPanels_eq_ok h
  have hpid : p.id = source := by simpa using List.find?_some hp
  have hqid : q.id = target := by simpa using List.find?_some hq
  rcases hdone with ⟨-, hkept⟩ | ⟨hne, panels, hmove, hrepaneled⟩
  · -- the panel is put back where it was
    obtain ⟨i, hi⟩ := List.mem_iff_getElem?.mp (Page.mem_of_panel? hp)
    obtain ⟨hlt, hget⟩ := List.getElem?_eq_some_iff.mp hi
    have hsame : (page.layout.panels.eraseIdx i).insertIdx i p = page.layout.panels := by
      rw [← hget, List.insertIdx_eraseIdx_getElem]
    exact ⟨page, _, hpage, .moved source target i i p hi hpid hlt, Or.inl ⟨hkept, hsame⟩⟩
  · obtain ⟨i, j, r, hi, hid, hj, hmoved⟩ := moveTo_eq_ok hmove
    refine ⟨page, panels, hpage, ?_, Or.inr ⟨hrepaneled, fun distinct => ?_⟩⟩
    · rw [hmoved]
      exact .moved source target i j r hi hid hj
    · subst hpid hqid
      exact outlines_ne_of_moveTo distinct (Page.mem_of_panel? hp) (Page.mem_of_panel? hq) hne hmove

/-- A frame that is stored already is written by doing nothing. -/
theorem settled_of_stored {id : String} {p : Panel} (frames : a.framed? = some id)
    (h : s.unlockedPanel id = .ok (page, p)) : s.Settled now a s := by
  obtain ⟨hpage, hp, hlocked⟩ := unlockedPanel_eq_ok_iff.mp h
  obtain ⟨hown, before, after, hpanels, -⟩ := place_of_find? hp
  exact ⟨page, _, hpage, .framed frames before p after hpanels (beq_iff_eq.mp hown) hlocked
    p.frame.grid p.updatedAt, Or.inl ⟨rfl, hpanels.symm⟩⟩

theorem settled_setPanelFrame {id : String} (frames : a.framed? = some id) {rect answer : Rect}
    (h : s.setPanelFrame now id rect = (.ok answer, s')) : s.Settled now a s' := by
  unfold setPanelFrame at h
  split at h
  next => cases h
  next page p hunlocked =>
    dsimp only at h
    generalize rect.clamped (page.layout.specOr s.settings.grid).columns = r at h
    split at h
    next hkept =>
      cases h
      exact settled_of_stored frames hunlocked
    next hother =>
      obtain ⟨hpage, hp, hlocked⟩ := unlockedPanel_eq_ok_iff.mp hunlocked
      obtain ⟨before, after, s₁, hpanels, hown, -, hedit, hrepaneled⟩ :=
        editDraft_onPanel hpage hp (fun p => (r, (p.withRect r).touch now)) now
      cases hedit.symm.trans h
      refine ⟨page, _, hpage, .framed frames before p after hpanels hown hlocked (some r)
        now.stamp, Or.inr ⟨hrepaneled, fun _ => (map_in_place_iff hpanels).not.mpr ?_⟩⟩
      intro hsame
      exact hother (congrArg (·.2.1) hsame).symm

theorem settled_resizePanelWidth {id : String} {delta : Int} {width : UInt32}
    (h : s.resizePanelWidth now id delta = (.ok width, s')) :
    s.Settled now (.resizePanelWidth id delta) s' := by
  unfold resizePanelWidth at h
  split at h
  next => cases h
  next page p hunlocked =>
    dsimp only at h
    split at h
    next =>
      cases h
      exact settled_of_stored rfl hunlocked
    next =>
      generalize hset : s.setPanelFrame now id _ = r at h
      obtain ⟨answer, s₁⟩ := r
      cases answer with
      | error e => cases h
      | ok rect =>
          cases h
          exact settled_setPanelFrame rfl hset

/-- A flag that is turned over tells the panel apart. -/
theorem settled_togglePanel {id : String} {turn : Panel → Panel} {toggle : Panel → Bool × Panel}
    (toggles : a.toggled? = some (id, turn)) (hturn : ∀ p, (toggle p).2 = turn p)
    (hother : ∀ p, (turn p).outline ≠ p.outline) {answer : Bool}
    (h : s.togglePanel now id toggle = (.ok answer, s')) : s.Settled now a s' := by
  unfold togglePanel at h
  split at h
  next => cases h
  next page hpage =>
    obtain ⟨before, p, after, hpanels, hown, hrepaneled⟩ := editDraft_onPanel_eq_ok hpage h
    have htouched : a.Touches s.settings.grid now page (before ++ (turn p).touch now :: after) :=
      .toggled toggles before p after hpanels hown
    rw [← hturn] at htouched
    refine ⟨page, _, hpage, htouched, Or.inr ⟨hrepaneled, fun _ =>
      (map_in_place_iff hpanels).not.mpr ?_⟩⟩
    rw [hturn]
    exact hother p

/-- The value of an accepted operation. -/
theorem answer_of_settled {α : Type} {r : SessionResult α}
    (h : (SessionResult.settled r).1 = .ok ()) : ∃ b, r = (.ok b, r.2) := by
  obtain ⟨answer, s'⟩ := r
  cases answer with
  | error e => cases h
  | ok b => exact ⟨b, rfl⟩

/-- **Each accepted operation on panels** touches what it may, or nothing. -/
theorem settled_of_accepted (edits : a.editsPanels = true) (h : (s.attempt now a).1 = .ok ()) :
    s.Settled now a (s.perform now a) := by
  cases a with
  | addWidgetPanel newId widgetId =>
      obtain ⟨answer, hanswer⟩ := answer_of_settled h
      exact settled_addWidgetPanel hanswer
  | addPlaceholderPanel newId =>
      obtain ⟨answer, hanswer⟩ := answer_of_settled h
      exact settled_addPlaceholderPanel hanswer
  | removePanel id confirmed =>
      obtain ⟨p, hanswer⟩ := answer_of_settled h
      exact settled_removePanel hanswer
  | duplicatePanel newId id =>
      obtain ⟨answer, hanswer⟩ := answer_of_settled h
      exact settled_duplicatePanel hanswer
  | reorderPanels source target => exact settled_reorderPanels (Prod.ext h rfl)
  | setPanelFrame id rect =>
      obtain ⟨answer, hanswer⟩ := answer_of_settled h
      exact settled_setPanelFrame rfl hanswer
  | applyFrameChange c =>
      obtain ⟨answer, hanswer⟩ := answer_of_settled h
      exact settled_setPanelFrame rfl hanswer
  | resizePanelWidth id delta =>
      obtain ⟨width, hanswer⟩ := answer_of_settled h
      exact settled_resizePanelWidth hanswer
  -- a flag is never what it was
  | toggleLock id =>
      obtain ⟨flag, hanswer⟩ := answer_of_settled h
      exact settled_togglePanel rfl (fun _ => rfl) (fun p => by simp [Panel.outline]) hanswer
  | togglePin id =>
      obtain ⟨flag, hanswer⟩ := answer_of_settled h
      exact settled_togglePanel rfl (fun _ => rfl) (fun p => by simp [Panel.outline]) hanswer
  | toggleProtect id =>
      obtain ⟨flag, hanswer⟩ := answer_of_settled h
      exact settled_togglePanel rfl (fun _ => rfl) (fun p => by simp [Panel.outline]) hanswer
  | _ => cases edits

/-! ## §4. What all of them keep. -/

/-- Turning a flag over changes neither the id nor the frame. -/
theorem Action.toggled?_keeps {id : String} {turn : Panel → Panel}
    (toggles : a.toggled? = some (id, turn)) (p : Panel) :
    (turn p).id = p.id ∧ (turn p).frame = p.frame := by
  cases a with
  | toggleLock id | togglePin id | toggleProtect id =>
      cases toggles
      exact ⟨rfl, rfl⟩
  | _ => cases toggles

namespace Action.Touches

/-- **Each id still stands once.** -/
theorem distinct (h : a.Touches standard now page panels)
    (once : (page.layout.panels.map (·.id)).Nodup)
    (unused : ∀ newId ∈ a.newId?, newId ∉ page.layout.panels.map (·.id)) :
    (panels.map (·.id)).Nodup := by
  -- a panel that takes the place of another has its id
  have hplace : ∀ {before after : List Panel} {q q' : Panel},
      page.layout.panels = before ++ q :: after → q'.id = q.id →
        ((before ++ q' :: after).map (·.id)).Nodup := by
    intro before after q q' hpanels hid
    rwa [(map_in_place_iff hpanels).mpr hid]
  cases h with
  | appended adds p size id placed =>
      rw [List.map_append, List.map_singleton]
      refine List.Nodup.append once (List.nodup_singleton _) ?_
      simpa [id] using unused _ adds
  | removed id confirmed before p after hpanels own agreed =>
      exact once.sublist ((sublist_without hpanels).map _)
  | moved source target i j p place own within =>
      exact ((moved_places place within).1.map _).nodup_iff.mpr once
  | framed frames before p after hpanels own unlocked grid date =>
      exact hplace hpanels rfl
  | toggled toggles before p after hpanels own =>
      exact hplace hpanels (toggled?_keeps toggles p).1

/-- **A locked panel keeps its frame.** -/
theorem locked_frames (h : a.Touches standard now page panels)
    (once : (page.layout.panels.map (·.id)).Nodup)
    (unused : ∀ newId ∈ a.newId?, newId ∉ page.layout.panels.map (·.id)) {p p' : Panel}
    (hp : p ∈ page.layout.panels) (hlocked : p.locked = true) (hp' : p' ∈ panels)
    (hid : p'.id = p.id) : p'.frame = p.frame := by
  -- a panel of the page that has the id is the panel
  have hself : ∀ q ∈ page.layout.panels, q.id = p.id → q = p :=
    fun q hq hsame => List.inj_on_of_nodup_map once hq hp hsame
  have hold : p' ∈ page.layout.panels → p'.frame = p.frame :=
    fun hmem => congrArg Panel.frame (hself p' hmem hid)
  cases h with
  | appended adds q size id placed =>
      rcases List.mem_append.mp hp' with hmem | hmem
      · exact hold hmem
      · -- the new panel has an id of its own
        rw [List.mem_singleton.mp hmem, id] at hid
        exact absurd (List.mem_map.mpr ⟨p, hp, hid.symm⟩) (unused _ adds)
  | removed id confirmed before q after hpanels own agreed =>
      exact hold ((sublist_without hpanels).subset hp')
  | moved source target i j q place own within =>
      exact hold ((moved_places place within).1.subset hp')
  | framed frames before q after hpanels own unlocked grid date =>
      have hq : q ∈ page.layout.panels := hpanels ▸ List.mem_append_cons_self
      rcases mem_in_place hpanels hp' with rfl | hmem
      · -- the panel that is written is not locked
        rw [← hself q hq hid, unlocked] at hlocked
        cases hlocked
      · exact hold hmem
  | toggled toggles before q after hpanels own =>
      have hq : q ∈ page.layout.panels := hpanels ▸ List.mem_append_cons_self
      rcases mem_in_place hpanels hp' with rfl | hmem
      · obtain ⟨hkept, hframe⟩ := toggled?_keeps toggles q
        rw [← hself q hq (hkept.symm.trans hid)]
        exact hframe
      · exact hold hmem

/-- **A protected panel stays**, unless its removal is confirmed. -/
theorem guarded_kept (h : a.Touches standard now page panels) {p : Panel}
    (hp : p ∈ page.layout.panels) (hguarded : p.guarded = true) :
    (∃ p' ∈ panels, p'.id = p.id) ∨ a = .removePanel p.id true := by
  have hplace : ∀ {before after : List Panel} {q q' : Panel},
      page.layout.panels = before ++ q :: after → q'.id = q.id →
        ∃ p' ∈ before ++ q' :: after, p'.id = p.id := by
    intro before after q q' hpanels hid
    apply List.mem_map.mp
    rw [(map_in_place_iff hpanels).mpr hid]
    exact List.mem_map_of_mem hp
  cases h with
  | appended adds q size id placed => exact Or.inl ⟨p, List.mem_append_left _ hp, rfl⟩
  | removed id confirmed before q after hpanels own agreed =>
      rw [hpanels] at hp
      rcases List.mem_append.mp hp with hmem | hmem
      · exact Or.inl ⟨p, List.mem_append_left _ hmem, rfl⟩
      · rcases List.mem_cons.mp hmem with rfl | hmem
        · right
          rw [own, agreed hguarded]
        · exact Or.inl ⟨p, List.mem_append_right _ hmem, rfl⟩
  | moved source target i j q place own within =>
      exact Or.inl ⟨p, (moved_places place within).1.symm.subset hp, rfl⟩
  | framed frames before q after hpanels own unlocked grid date => exact Or.inl (hplace hpanels rfl)
  | toggled toggles before q after hpanels own =>
      exact Or.inl (hplace hpanels (toggled?_keeps toggles q).1)

end Action.Touches

/-! ## §5. The document and the history. -/

/-- Panels that can be told from those before are another content. -/
theorem sameContent_eq_false {w w' : Workspace} (h : Workspace.SameAround page panels w' w)
    (hne : panels.map Panel.outline ≠ page.layout.panels.map Panel.outline) :
    w'.sameContent w = false := by
  rw [Bool.eq_false_iff]
  intro hsame
  have hmap := Workspace.map_panels_of_sameContent Panel.outline_of_same hsame
  obtain ⟨before, after, hold, hnew⟩ := h.pages
  rw [hnew] at hmap
  exact hne ((map_in_place_iff hold).mp hmap)

/-- **The history grows with the content.**  Where the content is the same, the
whole session is; where it is not, nothing can be redone, and below the limit
there is one more edit to undo. -/
structure Remembered (s s' : Session) (w w' : Workspace) : Prop where
  same : w'.sameContent w = true → s' = s
  redo : w'.sameContent w = false → s'.history.redoDepth = 0
  undo : w'.sameContent w = false → s.history.undoDepth < s.history.limit →
    s'.history.undoDepth = s.history.undoDepth + 1

/-- The draft after an operation that changed nothing. -/
theorem remembered_self (w : Workspace) : s.Remembered s w w := by
  refine ⟨fun _ => rfl, fun hother => ?_, fun hother => ?_⟩ <;>
  · rw [w.sameContent_refl] at hother
    cases hother

/-- The draft after an edit that can be told. -/
theorem Repaneled.remembered (h : s.Repaneled now page panels s') {w : Workspace}
    (hdraft : s.draft = some w)
    (hne : panels.map Panel.outline ≠ page.layout.panels.map Panel.outline) :
    ∃ w', s'.draft = some w' ∧ Workspace.SameAround page panels w' w ∧ s.Remembered s' w w' := by
  obtain ⟨v, w', hv, -, hdraft', haround, hhistory⟩ := h.drafts
  cases hdraft.symm.trans hv
  have hother := sameContent_eq_false haround hne
  refine ⟨w', hdraft', haround, fun hsame => ?_, fun _ => ?_, fun _ hbelow => ?_⟩
  · rw [hother] at hsame
    cases hsame
  · rw [hhistory]
    rfl
  · rw [hhistory, History.undoDepth_push]
    omega

/-- **Each edit touches its target only, and is remembered if it changes
something.**  Take an operation on panels that a session accepts, which it does in
edit mode only, with a strictly valid draft and an unused id for a new panel.  The draft
afterwards is the one before but for the panels of the page shown, and of these
the operation has touched what it may, so that each id still stands once.  A
locked panel keeps its frame, and a protected one goes only if that is confirmed.
The history grows exactly with the content. -/
theorem edits_touch_their_target {w : Workspace} (drafted : s.draft = some w)
    (valid : w.StrictlyValid (sessionOptions s.registry s.settings))
    (edits : a.editsPanels = true)
    (unused : ∀ newId ∈ a.newId?, ∀ page ∈ w.pages, newId ∉ page.layout.panels.map (·.id))
    (accepted : (s.attempt now a).1 = .ok ()) :
    ∃ page panels w', s.activePage? = some page ∧ (s.perform now a).draft = some w' ∧
      Workspace.SameAround page panels w' w ∧
      a.Touches s.settings.grid now page panels ∧ (panels.map (·.id)).Nodup ∧
      (∀ p ∈ page.layout.panels, p.locked = true → ∀ p' ∈ panels, p'.id = p.id →
        p'.frame = p.frame) ∧
      (∀ p ∈ page.layout.panels, p.guarded = true →
        (∃ p' ∈ panels, p'.id = p.id) ∨ a = .removePanel p.id true) ∧
      s.Remembered (s.perform now a) w w' := by
  obtain ⟨page, panels, hpage, htouches, hdone⟩ := settled_of_accepted edits accepted
  obtain ⟨v, -, hdraft, hshown⟩ := editedPage_eq_ok_iff.mp hpage
  cases drafted.symm.trans hdraft
  have hmem := Workspace.mem_of_resolvePage? hshown
  have honce : (page.layout.panels.map (·.id)).Nodup :=
    ((Workspace.strictlyValid_iff.mp valid).pages page hmem).layout.panels.distinct
  have hunused : ∀ newId ∈ a.newId?, newId ∉ page.layout.panels.map (·.id) :=
    fun newId hnew => unused newId hnew page hmem
  obtain ⟨w', hdraft', haround, hremembered⟩ : ∃ w', (s.perform now a).draft = some w' ∧
      Workspace.SameAround page panels w' w ∧ s.Remembered (s.perform now a) w w' := by
    rcases hdone with ⟨hkept, hpanels⟩ | ⟨hrepaneled, hnew⟩
    · obtain ⟨before, after, hpages⟩ := List.append_of_mem hmem
      rw [hkept, hpanels]
      exact ⟨w, drafted, ⟨rfl, rfl, rfl, rfl, rfl, before, after, hpages, hpages⟩,
        remembered_self w⟩
    · exact hrepaneled.remembered drafted (hnew honce)
  exact ⟨page, panels, w', (editedPage_eq_ok_iff_activePage?.mp hpage).2, hdraft',
    haround, htouches, htouches.distinct honce hunused,
    fun p hp hlocked p' hp' hid => htouches.locked_frames honce hunused hp hlocked hp' hid,
    fun p hp hguarded => htouches.guarded_kept hp hguarded, hremembered⟩

/-- A page with a panel that is locked and protected, and one without a frame. -/
def fixedPage : Page :=
  (Page.fresh "a" "A").withPanels
    [{ Panel.fresh ⟨0⟩ "p" "quick-nav" ⟨0, 0, 4, 2⟩ with locked := true, guarded := true },
      { Panel.fresh ⟨0⟩ "q" "quick-nav" ⟨0, 0, 1, 1⟩ with frame := ⟨none, none⟩ }]

/-- The locked panel is copied. -/
theorem locked_panel_copied :
    let s := onPages [fixedPage]
    let a := Action.duplicatePanel "x" "p"
    (s.attempt ⟨1⟩ a).1 = .ok () ∧
    ∃ w panels w', s.draft = some w ∧ (s.perform ⟨1⟩ a).draft = some w' ∧
      Workspace.SameAround fixedPage panels w' w ∧
      a.Touches s.settings.grid ⟨1⟩ fixedPage panels ∧
      (∀ p' ∈ panels, p'.id = "p" → p'.frame.grid = some ⟨0, 0, 4, 2⟩) ∧
      s.Remembered (s.perform ⟨1⟩ a) w w' := by
  intro s a
  have hvalid : (⟨"desk", "Desk", [fixedPage], "a", "0", "0", schemaVersion⟩ :
      Workspace).StrictlyValid (sessionOptions .builtin .standard) :=
    Workspace.strictlyValid_iff.mpr (by decide)
  have haccepted : (s.attempt ⟨1⟩ a).1 = .ok () := rfl
  obtain ⟨page, panels, w', hshown, hdraft', haround, htouches, -, hlocked, -, hremembered⟩ :=
    edits_touch_their_target (s := s) (a := a) rfl hvalid rfl (by decide) haccepted
  cases hshown
  refine ⟨haccepted, _, panels, w', rfl, hdraft', haround, htouches, fun p' hp' hid => ?_,
    hremembered⟩
  exact congrArg Frame.grid (hlocked _ List.mem_cons_self rfl p' hp' hid)

end Session

end Dashboard
