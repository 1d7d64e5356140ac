/-
  Dashboard.Proofs.Session.Reorder
  ────────────────────────────────
  **A PANEL MOVES TO THE PLACE OF ANOTHER.**

  The panel is taken out before the other one is searched for, so a target
  behind it has moved up by one.  In both directions the panel ends at the index
  that the target had, and the others stand as they did without it.

  Main results:
    findIdx?_of_distinct — where the panel of an id is found
    moveTo_of_index      — the list after a move, for both directions
    moveTo_twice         — neighbours change places
    reorderPanels_of_index   — the page after a move
    reorderPanels_eq_ok      — what an accepted move has done
    reorder_moves_to_target  — place, order, panels, and neighbours
-/
import Dashboard.Proofs.Session.Shown
import Mathlib.Data.List.InsertIdx

namespace Dashboard

open Time

/-! ## §1. Places in a list. -/

/-- An item between the first items and the others is one inserted there. -/
theorem take_append_cons_drop {α : Type} (a : α) {l : List α} {i : Nat} (h : i ≤ l.length) :
    l.take i ++ a :: l.drop i = l.insertIdx i a := by
  induction i generalizing l with
  | zero => rfl
  | succ i ih =>
      cases l with
      | nil => cases h
      | cons b rest =>
          rw [List.take_succ_cons, List.drop_succ_cons, List.cons_append,
            ih (Nat.le_of_succ_le_succ h), List.insertIdx_succ_cons]

namespace Session

variable {s s' : Session} {now : Instant} {page : Page} {panels : List Panel} {p q : Panel}
  {i j : Nat}

/-- Where each id stands once, a panel is found at its own index. -/
theorem findIdx?_of_distinct (distinct : (panels.map (·.id)).Nodup) (hi : panels[i]? = some p) :
    panels.findIdx? (·.id == p.id) = some i := by
  obtain ⟨hlt, rfl⟩ := List.getElem?_eq_some_iff.mp hi
  refine List.findIdx?_eq_some_iff_getElem.mpr ⟨hlt, beq_self_eq_true _, fun k hk hsame => ?_⟩
  have hbound : k < panels.length := Nat.lt_trans hk hlt
  have hids : (panels.map (·.id))[k]? = (panels.map (·.id))[i]? := by
    rw [List.getElem?_map, List.getElem?_map, List.getElem?_eq_getElem hbound,
      List.getElem?_eq_getElem hlt, Option.map_some, Option.map_some, beq_iff_eq.mp hsame]
  rw [← List.length_map (·.id)] at hbound
  exact absurd ((List.getElem?_inj hbound distinct).mp hids) (Nat.ne_of_lt hk)

theorem id_ne_of_index (distinct : (panels.map (·.id)).Nodup) (hi : panels[i]? = some p)
    (hj : panels[j]? = some q) (hne : i ≠ j) : p.id ≠ q.id := by
  intro hid
  have hfound := findIdx?_of_distinct distinct hi
  rw [hid, findIdx?_of_distinct distinct hj] at hfound
  exact hne (Option.some.inj hfound).symm

/-! ## §2. The list after a move. -/

/-- **A move ends at the target's index**, whichever of the two stands first. -/
theorem moveTo_of_index (distinct : (panels.map (·.id)).Nodup) (hi : panels[i]? = some p)
    (hj : panels[j]? = some q) (hne : i ≠ j) :
    moveTo p.id q.id panels = .ok ((panels.eraseIdx i).insertIdx j p) := by
  have hilt := (List.getElem?_eq_some_iff.mp hi).1
  have hjlt := (List.getElem?_eq_some_iff.mp hj).1
  have hlength := List.length_eraseIdx_of_lt hilt
  have hothers : ((panels.eraseIdx i).map (·.id)).Nodup :=
    distinct.sublist ((List.eraseIdx_sublist panels i).map _)
  have hbefore : ∀ k, (panels.eraseIdx i)[k]? = if k < i then panels[k]? else panels[k + 1]? :=
    fun k => List.getElem?_eraseIdx
  obtain ⟨k, hk, hplace⟩ : ∃ k, (panels.eraseIdx i)[k]? = some q ∧
      (if i ≤ k then k + 1 else k) = j := by
    rcases Nat.lt_or_gt_of_ne hne with hlt | hgt
    · -- without the panel, a target behind it stands one place further up
      refine ⟨j - 1, ?_, ?_⟩
      · rw [hbefore, if_neg (by omega), Nat.sub_add_cancel (by omega), hj]
      · rw [if_pos (by omega), Nat.sub_add_cancel (by omega)]
    · refine ⟨j, ?_, if_neg (by omega)⟩
      rw [hbefore, if_pos hgt, hj]
  unfold moveTo
  rw [findIdx?_of_distinct distinct hi]
  dsimp only
  rw [findIdx?_of_distinct hothers hk]
  dsimp only
  rw [hplace, hi, Option.toList_some, List.append_assoc, List.singleton_append,
    take_append_cons_drop p (by omega)]

/-- Whatever the ids are, a move takes one panel out and puts it in again. -/
theorem moveTo_eq_ok {source target : String} {panels' : List Panel}
    (h : moveTo source target panels = .ok panels') :
    ∃ i j p, panels[i]? = some p ∧ p.id = source ∧ j < panels.length ∧
      panels' = (panels.eraseIdx i).insertIdx j p := by
  unfold moveTo at h
  split at h
  next => cases h
  next i hi =>
    dsimp only at h
    split at h
    next => cases h
    next k hk =>
      cases h
      obtain ⟨hilt, hsource, -⟩ := List.findIdx?_eq_some_iff_getElem.mp hi
      have hklt := (List.findIdx?_eq_some_iff_getElem.mp hk).1
      have hlength := List.length_eraseIdx_of_lt hilt
      have hp : panels[i]? = some panels[i] := List.getElem?_eq_getElem hilt
      obtain ⟨j, hj⟩ : ∃ j, (if i ≤ k then k + 1 else k) = j := ⟨_, rfl⟩
      have hjlt : j < panels.length := by
        split at hj <;> omega
      refine ⟨i, j, panels[i], hp, beq_iff_eq.mp hsource, hjlt, ?_⟩
      rw [hj, hp, Option.toList_some, List.append_assoc, List.singleton_append,
        take_append_cons_drop _ (by omega)]

/-- What stands where after a move: the panel at its new index, and the others as
without it. -/
theorem moved_places (hi : panels[i]? = some p) (hjlt : j < panels.length) :
    ((panels.eraseIdx i).insertIdx j p).Perm panels ∧
      ((panels.eraseIdx i).insertIdx j p)[j]? = some p ∧
      ((panels.eraseIdx i).insertIdx j p).eraseIdx j = panels.eraseIdx i := by
  obtain ⟨hilt, rfl⟩ := List.getElem?_eq_some_iff.mp hi
  have hlength := List.length_eraseIdx_of_lt hilt
  refine ⟨?_, ?_, List.eraseIdx_insertIdx_self _⟩
  · exact (List.perm_insertIdx _ _ (by omega)).trans (List.getElem_cons_eraseIdx_perm hilt)
  · rw [List.getElem?_insertIdx_self, if_pos (by omega)]

/-- After a move the neighbour stands where the panel stood. -/
theorem neighbour_steps_back (hi : panels[i]? = some p) (hj : panels[j]? = some q)
    (neighbours : j = i + 1 ∨ i = j + 1) :
    ((panels.eraseIdx i).insertIdx j p)[i]? = some q := by
  rcases neighbours with rfl | rfl
  · rw [List.getElem?_insertIdx_of_lt (Nat.lt_succ_self i), List.getElem?_eraseIdx,
      if_neg (Nat.lt_irrefl i), hj]
  · rw [List.getElem?_insertIdx_of_gt (Nat.lt_succ_self j), Nat.succ_sub_one,
      List.getElem?_eraseIdx, if_pos (Nat.lt_succ_self j), hj]

/-- **Neighbours change places**: the same move once more restores the list. -/
theorem moveTo_twice (distinct : (panels.map (·.id)).Nodup) (hi : panels[i]? = some p)
    (hj : panels[j]? = some q) (neighbours : j = i + 1 ∨ i = j + 1) :
    moveTo p.id q.id ((panels.eraseIdx i).insertIdx j p) = .ok panels := by
  obtain ⟨hperm, hthere, hothers⟩ := moved_places hi (List.getElem?_eq_some_iff.mp hj).1
  have hback := neighbour_steps_back hi hj neighbours
  rw [moveTo_of_index ((hperm.map _).nodup_iff.mpr distinct) hthere hback (by omega), hothers]
  obtain ⟨hilt, rfl⟩ := List.getElem?_eq_some_iff.mp hi
  rw [List.insertIdx_eraseIdx_getElem]

/-! ## §3. The page after a move. -/

theorem panel?_isSome (hi : page.layout.panels[i]? = some p) :
    (page.panel? p.id).isSome = true := by
  rw [Page.panel?, List.find?_isSome]
  exact ⟨p, List.mem_of_getElem? hi, beq_self_eq_true _⟩

/-- A move of one panel to another on the page shown. -/
theorem reorderPanels_of_moveTo (h : s.editedPage = .ok page)
    (hi : page.layout.panels[i]? = some p) (hj : page.layout.panels[j]? = some q)
    (hid : p.id ≠ q.id) (hmove : moveTo p.id q.id page.layout.panels = .ok panels)
    (now : Instant) :
    ∃ s', s.reorderPanels now p.id q.id = (.ok (), s') ∧ s.Repaneled now page panels s' := by
  unfold reorderPanels
  rw [h]
  dsimp only
  rw [← Option.not_isSome, ← Option.not_isSome, panel?_isSome hi, panel?_isSome hj, if_neg nofun,
    if_neg nofun, if_neg hid]
  exact editPanels_of_ok h (by rw [hmove]; rfl) now

theorem reorderPanels_of_index (h : s.editedPage = .ok page)
    (distinct : (page.layout.panels.map (·.id)).Nodup) (hi : page.layout.panels[i]? = some p)
    (hj : page.layout.panels[j]? = some q) (hne : i ≠ j) (now : Instant) :
    ∃ s', s.reorderPanels now p.id q.id = (.ok (), s') ∧
      s.Repaneled now page ((page.layout.panels.eraseIdx i).insertIdx j p) s' :=
  reorderPanels_of_moveTo h hi hj (id_ne_of_index distinct hi hj hne)
    (moveTo_of_index distinct hi hj hne) now

/-- What an accepted move has done: both panels are there, and the first one
stays where it is or moves to the second. -/
theorem reorderPanels_eq_ok {source target : String} {answer : Unit}
    (h : s.reorderPanels now source target = (.ok answer, s')) :
    ∃ page p q, s.editedPage = .ok page ∧ page.panel? source = some p ∧
      page.panel? target = some q ∧ (source = target ∧ s' = s ∨
        source ≠ target ∧ ∃ panels, moveTo source target page.layout.panels = .ok panels ∧
          s.Repaneled now page panels s') := by
  unfold reorderPanels at h
  split at h
  next => cases h
  next page hpage =>
    split at h
    next => cases h
    next hsource =>
      split at h
      next => cases h
      next htarget =>
        obtain ⟨p, hp⟩ := Option.ne_none_iff_exists'.mp (mt Option.isNone_iff_eq_none.mpr hsource)
        obtain ⟨q, hq⟩ := Option.ne_none_iff_exists'.mp (mt Option.isNone_iff_eq_none.mpr htarget)
        refine ⟨page, p, q, hpage, hp, hq, ?_⟩
        split at h
        next hsame =>
          cases h
          exact Or.inl ⟨hsame, rfl⟩
        next hne =>
          obtain ⟨page', panels, hpage', hpanels, hrepaneled⟩ := editPanels_eq_ok h
          cases hpage.symm.trans hpage'
          cases hmove : moveTo source target page.layout.panels with
          | error e => rw [hmove] at hpanels; cases hpanels
          | ok moved =>
              rw [hmove] at hpanels
              cases hpanels
              exact Or.inr ⟨hne, panels, rfl, hrepaneled⟩

/-- **Reordering moves a panel to the target's place.**  On a page whose panels
have different ids, take two panels at different indices.  The move is accepted,
and on the page shown afterwards the panels are the same ones, unchanged, the
first panel stands at the index that the second one had, and without it the
others stand as they did.  Where the two are neighbours, the same call once more
gives the page back. -/
theorem reorder_moves_to_target (editing : s.mode = .edit) (shown : s.activePage? = some page)
    (distinct : (page.layout.panels.map (·.id)).Nodup) (source : page.layout.panels[i]? = some p)
    (target : page.layout.panels[j]? = some q) (different : i ≠ j) (now : Instant) :
    ∃ s' moved, s.reorderPanels now p.id q.id = (.ok (), s') ∧
      s'.activePage? = some (page.withPanels moved) ∧
      moved.Perm page.layout.panels ∧
      moved[j]? = some p ∧
      moved.eraseIdx j = page.layout.panels.eraseIdx i ∧
      (j = i + 1 ∨ i = j + 1 → ∀ later, ∃ s'', s'.reorderPanels later p.id q.id = (.ok (), s'') ∧
        s''.activePage? = some page) := by
  have hpage : s.editedPage = .ok page := editedPage_eq_ok_iff_activePage?.mpr ⟨editing, shown⟩
  obtain ⟨s', hanswer, hrepaneled⟩ :=
    reorderPanels_of_index hpage distinct source target different now
  obtain ⟨hperm, hthere, hothers⟩ := moved_places source (List.getElem?_eq_some_iff.mp target).1
  have hnext := hrepaneled.editedPage
  refine ⟨s', _, hanswer, (editedPage_eq_ok_iff_activePage?.mp hnext).2, hperm, hthere, hothers,
    fun neighbours later => ?_⟩
  -- the second move is one from the target's place to the first
  obtain ⟨s'', hagain, hback⟩ := reorderPanels_of_moveTo hnext hthere
    (neighbour_steps_back source target neighbours)
    (id_ne_of_index distinct source target different)
    (moveTo_twice distinct source target neighbours) later
  exact ⟨s'', hagain, (editedPage_eq_ok_iff_activePage?.mp hback.editedPage).2⟩

/-- A page with three panels. -/
def triplePage : Page :=
  (Page.fresh "a" "A").withPanels (["p", "q", "r"].map (.fresh ⟨0⟩ · "quick-nav" ⟨0, 0, 1, 1⟩))

/-- The last panel moves to the second place, and the same call moves it back. -/
theorem neighbours_change_places :
    ∃ s' s'' moved, (onPages [triplePage]).reorderPanels ⟨1⟩ "r" "q" = (.ok (), s') ∧
      s'.activePage? = some (triplePage.withPanels moved) ∧
      moved[1]? = triplePage.layout.panels[2]? ∧
      moved.eraseIdx 1 = triplePage.layout.panels.eraseIdx 2 ∧
      s'.reorderPanels ⟨2⟩ "r" "q" = (.ok (), s'') ∧ s''.activePage? = some triplePage := by
  have editing : (onPages [triplePage]).mode = .edit := rfl
  have shown : (onPages [triplePage]).activePage? = some triplePage := rfl
  have source : triplePage.layout.panels[2]? = some _ := rfl
  have target : triplePage.layout.panels[1]? = some _ := rfl
  obtain ⟨s', moved, hanswer, hshown, -, hthere, hothers, htwice⟩ :=
    reorder_moves_to_target editing shown (by decide) source target (by decide) ⟨1⟩
  obtain ⟨s'', hagain, hback⟩ := htwice (Or.inr rfl) ⟨2⟩
  exact ⟨s', s'', moved, hanswer, hshown, hthere, hothers, hagain, hback⟩

end Session

end Dashboard
