/-
  Dashboard.Proofs.Grid.FirstFit
  ──────────────────────────────
  **A NEW PANEL GOES TO THE FIRST FREE PLACE.**

  The search looks at its rows from the top, and in each row at the columns from
  the left.  A place is free exactly if no existing rectangle overlaps the new
  one there, whatever the occupancy's window is.  So the search ends at the
  least free place, and where there is none, every place below the lowest
  bottom edge is clear.

  Main results:
    firstSome_rows_eq_some    — a search row by row ends at the least place
    findFreeSlot_cases        — the first free place, or below everything
    findFreeSlot_clear        — a new rectangle overlaps nothing
    findFreeSlot_is_first_fit — size, bounds, no overlap, and which place
-/
import Dashboard.Proofs.Grid.Occupancy

namespace Dashboard.Grid

/-! ## §1. Searching row by row. -/

section Rows

variable {α : Type} {f : Nat → Nat → Option α} {rows places : Nat}

/-- A search row by row ends at the least place that has something. -/
theorem firstSome_rows_eq_some {a : α}
    (h : firstSome (fun y => firstSome (f y) places 0) rows 0 = some a) :
    ∃ y x, y < rows ∧ x < places ∧ f y x = some a ∧
      ∀ y' x', x' < places → y' < y ∨ y' = y ∧ x' < x → f y' x' = none := by
  obtain ⟨y, hy, hrow, habove⟩ := firstSome_eq_some h
  obtain ⟨x, hx, hfound, hleft⟩ := firstSome_eq_some hrow
  refine ⟨y, x, by omega, by omega, hfound, fun y' x' hx' hbefore => ?_⟩
  rcases hbefore with hlt | ⟨rfl, hlt⟩
  · exact (firstSome_eq_none _ _ _).mp (habove y' (by omega) hlt) x' (by omega) (by omega)
  · exact hleft x' (by omega) hlt

/-- A search that ends without a result has found nothing anywhere. -/
theorem firstSome_rows_eq_none
    (h : firstSome (fun y => firstSome (f y) places 0) rows 0 = none) {y x : Nat}
    (hy : y < rows) (hx : x < places) : f y x = none :=
  (firstSome_eq_none _ _ _).mp ((firstSome_eq_none _ _ _).mp h y (by omega) (by omega)) x
    (by omega) (by omega)

end Rows

/-! ## §2. Free places. -/

/-- No existing rectangle overlaps it. -/
def Clear (existing : List Rect) (r : Rect) : Prop := ∀ s ∈ existing, s.overlaps r = false

/-- A place that the search looks at, with room for the size, where nothing is
overlapped. -/
structure FreePlace (columns : UInt32) (size : Size) (existing : List Rect) (x y : UInt32) :
    Prop where
  row : y < scanRows
  column : x.toNat + size.w.toNat ≤ columns.toNat
  clear : Clear existing (size.at x y)

section Places

variable {o : Occupancy} {existing : List Rect} {size : Size}

/-- What the search sees at a place. -/
theorem isFree_eq_true_iff (h : o.AnswersFor existing) {r : Rect} (hr : r.Proper) :
    o.isFree r = true ↔ Clear existing r := by
  rw [h.isFree r hr, Bool.not_eq_true', List.any_eq_false]
  simp only [Clear, Bool.not_eq_true]

theorem freeAt?_of_some {x y : Nat} {r : Rect} (h : o.AnswersFor existing)
    (hsize : ∀ x y, (size.at x y).Proper) (hfree : o.freeAt? size y x = some r) :
    r = size.at (UInt32.ofNat x) (UInt32.ofNat y) ∧ Clear existing r := by
  unfold Occupancy.freeAt? at hfree
  dsimp only at hfree
  split at hfree
  next hisFree =>
    cases hfree
    exact ⟨rfl, (isFree_eq_true_iff h (hsize _ _)).mp hisFree⟩
  next => cases hfree

theorem freeAt?_of_clear {x y : UInt32} (h : o.AnswersFor existing)
    (hsize : ∀ x y, (size.at x y).Proper) (hclear : Clear existing (size.at x y)) :
    o.freeAt? size y.toNat x.toNat = some (size.at x y) := by
  unfold Occupancy.freeAt?
  rw [UInt32.ofNat_toNat, UInt32.ofNat_toNat]
  exact if_pos ((isFree_eq_true_iff h (hsize x y)).mpr hclear)

end Places

/-- The least row below all rectangles is the bottom edge of one of them. -/
theorem exists_bottom_eq {existing : List Rect} {bottom : UInt32}
    (h : ∀ n : UInt32, bottom ≤ n ↔ ∀ r ∈ existing, r.bottom ≤ n) (hne : existing ≠ []) :
    ∃ r ∈ existing, bottom = r.bottom := by
  have hall := (h bottom).mp (UInt32.le_refl bottom)
  obtain ⟨s, hs⟩ := List.exists_mem_of_ne_nil existing hne
  by_cases hattained : ∃ r ∈ existing, bottom = r.bottom
  · exact hattained
  · -- then one row less would do
    have hbelow : ∀ r ∈ existing, r.bottom.toNat < bottom.toNat := by
      intro r hr
      have hle := UInt32.le_iff_toNat_le.mp (hall r hr)
      have hne : bottom.toNat ≠ r.bottom.toNat :=
        fun heq => hattained ⟨r, hr, UInt32.toNat_inj.mp heq⟩
      omega
    have hs := hbelow s hs
    have hone : (1 : UInt32).toNat = 1 := rfl
    have hless : (bottom - 1).toNat = bottom.toNat - 1 :=
      UInt32.toNat_sub_of_le _ _ (UInt32.le_iff_toNat_le.mpr (by omega))
    have hbound : bottom ≤ bottom - 1 := (h _).mpr fun r hr => by
      have hr := hbelow r hr
      rw [UInt32.le_iff_toNat_le]
      omega
    rw [UInt32.le_iff_toNat_le] at hbound
    omega

/-! ## §3. The slot. -/

/-- A bounded size spans a cell wherever it is put. -/
theorem bounded_at_proper (columns : UInt32) (size : Size) (x y : UInt32) :
    ((size.bounded (max columns 1)).at x y).Proper := by
  have hwide := (max_one (one_le_max_one columns)).2
  obtain ⟨hw, hh⟩ := size.toNat_bounded (max columns 1)
  rw [Rect.proper_iff]
  show 1 ≤ (size.bounded (max columns 1)).w.toNat ∧ 1 ≤ (size.bounded (max columns 1)).h.toNat
  omega

/-- **Where a new rectangle goes**: to the first free place, or below everything
where there is none. -/
theorem findFreeSlot_cases (columns : UInt32) (size : Size) {existing : List Rect}
    (proper : ∀ r ∈ existing, r.Proper) :
    let grid := max columns 1
    let bounded := size.bounded grid
    (∃ x y, findFreeSlot columns size existing = bounded.at x y ∧
      FreePlace grid bounded existing x y ∧
      ∀ x' y', FreePlace grid bounded existing x' y' → y < y' ∨ y = y' ∧ x ≤ x') ∨
    (∃ bottom, findFreeSlot columns size existing = bounded.at 0 bottom ∧
      (¬ ∃ x y, FreePlace grid bounded existing x y) ∧
      ∀ n : UInt32, bottom ≤ n ↔ ∀ r ∈ existing, r.bottom ≤ n) := by
  intro grid bounded
  have hspan : ∀ x y, (bounded.at x y).Proper := bounded_at_proper columns size
  have hrows : scanRows.toNat = 40 := rfl
  have hgrid := grid.toNat_lt
  have hwidth : bounded.w.toNat = min (max size.w.toNat 1) grid.toNat :=
    (size.toNat_bounded grid).1
  -- whatever the window is, the search goes by the existing rectangles
  obtain ⟨o, hanswers, hslot⟩ : ∃ o : Occupancy, o.AnswersFor existing ∧
      findFreeSlot columns size existing =
        (firstSome (fun y => firstSome (o.freeAt? bounded y)
          (grid.toNat - bounded.w.toNat + 1) 0) scanRows.toNat 0).getD (bounded.at 0 o.bottom) :=
    ⟨_, Occupancy.answersFor_markAll grid _ proper, rfl⟩
  -- a free place is one of those searched, and has something
  have hplace : ∀ {x y}, FreePlace grid bounded existing x y →
      y.toNat < scanRows.toNat ∧ x.toNat < grid.toNat - bounded.w.toNat + 1 ∧
        o.freeAt? bounded y.toNat x.toNat ≠ none := by
    intro x y h
    have hcolumn := h.column
    refine ⟨UInt32.lt_iff_toNat_lt.mp h.row, by omega, ?_⟩
    rw [freeAt?_of_clear hanswers hspan h.clear]
    exact Option.some_ne_none _
  cases hfound : firstSome (fun y => firstSome (o.freeAt? bounded y)
      (grid.toNat - bounded.w.toNat + 1) 0) scanRows.toNat 0 with
  | some r =>
      left
      obtain ⟨y, x, hy, hx, hr, hbefore⟩ := firstSome_rows_eq_some hfound
      obtain ⟨rfl, hclear⟩ := freeAt?_of_some hanswers hspan hr
      have htoY : (UInt32.ofNat y).toNat = y :=
        UInt32.toNat_ofNat_of_lt' (show y < 0x100000000 by omega)
      have htoX : (UInt32.ofNat x).toNat = x :=
        UInt32.toNat_ofNat_of_lt' (show x < 0x100000000 by omega)
      refine ⟨UInt32.ofNat x, UInt32.ofNat y, by rw [hslot, hfound]; rfl, ⟨?_, ?_, hclear⟩, ?_⟩
      · rw [UInt32.lt_iff_toNat_lt, htoY]
        exact hy
      · rw [htoX]
        omega
      · intro x' y' hfree
        obtain ⟨-, hx', hsome⟩ := hplace hfree
        -- the search has passed every earlier place
        have hnot : ¬ (y'.toNat < y ∨ y'.toNat = y ∧ x'.toNat < x) :=
          fun hearlier => hsome (hbefore y'.toNat x'.toNat hx' hearlier)
        rw [UInt32.lt_iff_toNat_lt, UInt32.le_iff_toNat_le, ← UInt32.toNat_inj, htoX, htoY]
        omega
  | none =>
      right
      refine ⟨o.bottom, by rw [hslot, hfound]; rfl, ?_, hanswers.bottom⟩
      rintro ⟨x, y, hfree⟩
      obtain ⟨hy, hx, hsome⟩ := hplace hfree
      exact hsome (firstSome_rows_eq_none hfound hy hx)

/-- **A new rectangle overlaps no existing one.** -/
theorem findFreeSlot_clear (columns : UInt32) (size : Size) {existing : List Rect}
    (proper : ∀ r ∈ existing, r.Proper) : Clear existing (findFreeSlot columns size existing) := by
  rcases findFreeSlot_cases columns size proper with
    ⟨x, y, hslot, hfree, -⟩ | ⟨bottom, hslot, -, hbottom⟩
  · rw [hslot]
    exact hfree.clear
  · -- no rectangle reaches past the bottom
    intro s hs
    have hle := UInt32.le_iff_toNat_le.mp ((hbottom bottom).mp (UInt32.le_refl bottom) s hs)
    rw [hslot, Bool.eq_false_iff, Ne, Rect.overlaps_iff_edges]
    intro hover
    have habove : bottom.toNat < s.bottom.toNat := hover.2.2
    omega

/-- **First fit, row by row.**  Among rectangles that span a cell, the new one
has the wanted size as far as the grid allows, fits the grid and overlaps
nothing.  It stands at the least free place, by row and then by column; where no
place in the rows searched is free, it stands at the left edge, at the greatest
bottom edge of the existing rectangles. -/
theorem findFreeSlot_is_first_fit (columns : UInt32) (size : Size) {existing : List Rect}
    (proper : ∀ r ∈ existing, r.Proper) :
    let grid := max columns 1
    let w := min (max size.w 1) grid
    let h := max size.h 1
    let slot := findFreeSlot columns size existing
    (slot.w = w ∧ slot.h = h) ∧ slot.fits grid = true ∧ Clear existing slot ∧
    ((∃ x y, FreePlace grid ⟨w, h⟩ existing x y) →
      FreePlace grid ⟨w, h⟩ existing slot.x slot.y ∧
      ∀ x y, FreePlace grid ⟨w, h⟩ existing x y → slot.y < y ∨ slot.y = y ∧ slot.x ≤ x) ∧
    ((¬ ∃ x y, FreePlace grid ⟨w, h⟩ existing x y) →
      slot.x = 0 ∧ (∃ r ∈ existing, slot.y = r.bottom) ∧ ∀ r ∈ existing, r.bottom ≤ slot.y) := by
  intro grid w h slot
  have hclear : Clear existing slot := findFreeSlot_clear columns size proper
  have hfits : slot.fits grid = true := by
    show (findFreeSlot columns size existing).fits grid = true
    rw [← findFreeSlot_max_one]
    exact fits_findFreeSlot (one_le_max_one columns) size existing
  rcases findFreeSlot_cases columns size proper with
    ⟨x, y, hslot, hfree, hfirst⟩ | ⟨bottom, hslot, hnone, hbottom⟩
  · have hx : slot.x = x := congrArg Rect.x hslot
    have hy : slot.y = y := congrArg Rect.y hslot
    refine ⟨⟨congrArg Rect.w hslot, congrArg Rect.h hslot⟩, hfits, hclear, fun _ => ?_,
      fun hnone => absurd ⟨x, y, hfree⟩ hnone⟩
    rw [hx, hy]
    exact ⟨hfree, hfirst⟩
  · have hy : slot.y = bottom := congrArg Rect.y hslot
    refine ⟨⟨congrArg Rect.w hslot, congrArg Rect.h hslot⟩, hfits, hclear,
      fun hsome => absurd hsome hnone, fun _ => ⟨congrArg Rect.x hslot, ?_, ?_⟩⟩
    · -- on an empty grid the first place would be free
      have hne : existing ≠ [] := by
        rintro rfl
        refine hnone ⟨0, 0, by decide, ?_, fun s hs => absurd hs List.not_mem_nil⟩
        have hw := (size.toNat_bounded grid).1
        show 0 + (size.bounded grid).w.toNat ≤ grid.toNat
        omega
      rw [hy]
      exact exists_bottom_eq hbottom hne
    · rw [hy]
      exact (hbottom bottom).mp (UInt32.le_refl bottom)

/-- A size taller than the rows searched, beside rectangles that end far below:
the first free place is in the second row. -/
theorem tall_size_goes_below_header :
    let existing : List Rect := [⟨0, 0, 6, 1⟩, ⟨6, 500, 6, maxCells⟩, ⟨6, 0, 6, 1⟩]
    (∀ r ∈ existing, r.Proper) ∧
      findFreeSlot 12 ⟨4, maxCells⟩ existing = ⟨0, 1, 4, maxCells⟩ ∧
      Clear existing ⟨0, 1, 4, maxCells⟩ ∧
      ∀ x y, FreePlace 12 ⟨4, maxCells⟩ existing x y → 1 < y ∨ 1 = y ∧ 0 ≤ x := by
  intro existing
  have proper : ∀ r ∈ existing, r.Proper := by decide
  have hslot : findFreeSlot 12 ⟨4, maxCells⟩ existing = ⟨0, 1, 4, maxCells⟩ := by decide
  obtain ⟨-, -, hclear, hfirst, -⟩ := findFreeSlot_is_first_fit 12 ⟨4, maxCells⟩ proper
  rw [hslot] at hclear hfirst
  exact ⟨proper, hslot, hclear,
    (hfirst ⟨0, 1, by decide, by decide, hclear⟩).2⟩

end Dashboard.Grid
