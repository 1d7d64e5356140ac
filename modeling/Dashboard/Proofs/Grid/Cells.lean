/-
  Dashboard.Proofs.Grid.Cells
  ───────────────────────────
  **RECTANGLES AND THEIR CELLS.**

  A rectangle is a set of cells, whose far edges are sums in unbounded numbers.
  The predicates judge it by edges held in words, so a rectangle that begins in
  the last column or row a word can name has no edge past its first cell: it
  overlaps nothing, itself included.  In the widest grid every right edge is
  within the columns.  Everywhere else the predicates are exact, and clamping,
  which takes a difference and no sum, is exact in every grid.

  Main results:
    meets_iff                    — boxes meet exactly if a cell lies in both
    overlaps_iff                 — when two rectangles overlap
    fits_iff_ends                — when a rectangle fits
    clamped_eq_self_iff          — when clamping changes nothing
    mem_overlappingPairsFrom_iff — the pairs listed are the overlapping ones
    predicates_exact_before_last — how far predicates and cells agree
-/
import Dashboard.Proofs.Grid.Placement

namespace Dashboard.Grid

/-! ## §1. Boxes. -/

namespace Box

theorem holds_iff (b : Box) (x y : Nat) :
    b.holds x y = true ↔ (b.left ≤ x ∧ x < b.right) ∧ b.top ≤ y ∧ y < b.bottom := by
  simp only [holds, Bool.and_eq_true, decide_eq_true_eq, and_assoc]

theorem meets_iff_edges (a b : Box) :
    a.meets b = true ↔
      max a.left b.left < min a.right b.right ∧ max a.top b.top < min a.bottom b.bottom := by
  simp only [meets, Bool.and_eq_true, decide_eq_true_eq]

/-- Two boxes meet exactly if a cell lies in both. -/
theorem meets_iff (a b : Box) :
    a.meets b = true ↔ ∃ x y, a.holds x y = true ∧ b.holds x y = true := by
  simp only [meets_iff_edges, holds_iff]
  constructor
  · -- the first cell past both near edges
    intro h
    exact ⟨max a.left b.left, max a.top b.top, by omega, by omega⟩
  · rintro ⟨x, y, ha, hb⟩
    omega

end Box

/-! ## §2. The cells of a rectangle. -/

theorem toNat_maxCells : maxCells.toNat = 0xFFFFFFFF := rfl

namespace Rect

/-- The rectangle spans at least one cell. -/
def Proper (r : Rect) : Prop := 1 ≤ r.w ∧ 1 ≤ r.h

instance (r : Rect) : Decidable r.Proper := inferInstanceAs (Decidable (_ ∧ _))

theorem proper_iff (r : Rect) : r.Proper ↔ 1 ≤ r.w.toNat ∧ 1 ≤ r.h.toNat := by
  rw [Proper, UInt32.le_iff_toNat_le, UInt32.le_iff_toNat_le]
  rfl

theorem Proper.of_fits {r : Rect} {columns : UInt32} (h : r.fits columns = true) : r.Proper := by
  obtain ⟨hw, hh, -⟩ := (fits_iff r columns).mp h
  exact (proper_iff r).mpr ⟨hw, hh⟩

/-- The cells of the rectangle.  Its far edges are sums in unbounded numbers. -/
def cells (r : Rect) : Box :=
  ⟨r.x.toNat, r.y.toNat, r.x.toNat + r.w.toNat, r.y.toNat + r.h.toNat⟩

/-- Some cell lies in both rectangles. -/
def Shares (a b : Rect) : Prop :=
  ∃ x y, a.cells.holds x y = true ∧ b.cells.holds x y = true

instance (a b : Rect) : Decidable (a.Shares b) :=
  decidable_of_iff (a.cells.meets b.cells = true) (Box.meets_iff _ _)

/-- The rectangle begins before the last column and the last row. -/
def BeforeLast (r : Rect) : Prop := r.x < maxCells ∧ r.y < maxCells

instance (r : Rect) : Decidable r.BeforeLast := inferInstanceAs (Decidable (_ ∧ _))

theorem beforeLast_iff (r : Rect) :
    r.BeforeLast ↔ r.x.toNat < 0xFFFFFFFF ∧ r.y.toNat < 0xFFFFFFFF := by
  rw [BeforeLast, UInt32.lt_iff_toNat_lt, UInt32.lt_iff_toNat_lt, toNat_maxCells]

/-- The rectangle ends within the columns. -/
def EndsWithin (r : Rect) (columns : UInt32) : Prop :=
  r.x.toNat + r.w.toNat ≤ columns.toNat

instance (r : Rect) (columns : UInt32) : Decidable (r.EndsWithin columns) :=
  inferInstanceAs (Decidable (_ ≤ _))

theorem one_le_of_endsWithin {r : Rect} {columns : UInt32} (h : r.Proper)
    (hends : r.EndsWithin columns) : 1 ≤ columns := by
  have hr := (proper_iff _).mp h
  have hone : (1 : UInt32).toNat = 1 := rfl
  rw [EndsWithin] at hends
  rw [UInt32.le_iff_toNat_le, hone]
  omega

theorem toNat_right (r : Rect) : r.right.toNat = min (r.x.toNat + r.w.toNat) 0xFFFFFFFF :=
  toNat_saturatingAdd r.x r.w

theorem toNat_bottom (r : Rect) : r.bottom.toNat = min (r.y.toNat + r.h.toNat) 0xFFFFFFFF :=
  toNat_saturatingAdd r.y r.h

/-- The edges as numbers. -/
theorem overlaps_iff_edges (a b : Rect) :
    a.overlaps b = true ↔
      (a.x.toNat < b.right.toNat ∧ b.x.toNat < a.right.toNat) ∧
        a.y.toNat < b.bottom.toNat ∧ b.y.toNat < a.bottom.toNat := by
  simp only [overlaps, Bool.and_eq_true, decide_eq_true_eq, UInt32.lt_iff_toNat_lt, and_assoc]

/-- **Two rectangles overlap exactly if they share a cell and each begins
before the last column and the last row.** -/
theorem overlaps_iff {a b : Rect} (ha : a.Proper) (hb : b.Proper) :
    a.overlaps b = true ↔ a.Shares b ∧ a.BeforeLast ∧ b.BeforeLast := by
  have ha := (proper_iff _).mp ha
  have hb := (proper_iff _).mp hb
  rw [overlaps_iff_edges, Shares, ← Box.meets_iff, Box.meets_iff_edges, beforeLast_iff,
    beforeLast_iff]
  simp only [cells, toNat_right, toNat_bottom]
  omega

theorem shares_self {r : Rect} (h : r.Proper) : r.Shares r := by
  have hr := (proper_iff _).mp h
  exact ⟨r.x.toNat, r.y.toNat, by simp only [Box.holds_iff, cells]; omega,
    by simp only [Box.holds_iff, cells]; omega⟩

/-- **A rectangle fits exactly if it ends within the columns, or the grid is
the widest.** -/
theorem fits_iff_ends {r : Rect} (h : r.Proper) (columns : UInt32) :
    r.fits columns = true ↔ r.EndsWithin columns ∨ columns = maxCells := by
  have hr := (proper_iff _).mp h
  have hcolumns := columns.toNat_lt
  rw [fits_iff, EndsWithin, ← UInt32.toNat_inj, toNat_maxCells]
  omega

/-- Rectangles are equal where their four numbers are. -/
theorem eq_of_toNat {r s : Rect} (hx : r.x.toNat = s.x.toNat) (hy : r.y.toNat = s.y.toNat)
    (hw : r.w.toNat = s.w.toNat) (hh : r.h.toNat = s.h.toNat) : r = s := by
  cases r
  cases s
  rw [Rect.mk.injEq]
  exact ⟨UInt32.toNat_inj.mp hx, UInt32.toNat_inj.mp hy, UInt32.toNat_inj.mp hw,
    UInt32.toNat_inj.mp hh⟩

/-- **Clamping leaves exactly the rectangles that end within the columns.** -/
theorem clamped_eq_self_iff {r : Rect} (h : r.Proper) {columns : UInt32} (wide : 1 ≤ columns) :
    r.clamped columns = r ↔ r.EndsWithin columns := by
  have hr := (proper_iff _).mp h
  have hwide := (max_one wide).2
  obtain ⟨hx, hy, hw, hh⟩ := toNat_clamped r wide
  rw [EndsWithin]
  constructor
  · intro hsame
    rw [hsame] at hx hw
    omega
  · intro hends
    exact eq_of_toNat (by omega) (by rw [hy]) (by omega) (by omega)

/-- A clamped rectangle ends within the columns. -/
theorem endsWithin_clamped (r : Rect) {columns : UInt32} (wide : 1 ≤ columns) :
    (r.clamped columns).EndsWithin columns := by
  obtain ⟨hx, -, hw, -⟩ := toNat_clamped r wide
  rw [EndsWithin, hx, hw]
  omega

end Rect

/-! ## §3. Overlapping pairs. -/

/-- The pairs of a rectangle with the later ones. -/
theorem mem_pairsOfFirst_iff {a : Rect} {rest : List Rect} {start i j : Nat} :
    (i, j) ∈ ((rest.zipIdx (start + 1)).filter fun b => a.overlaps b.1).map
        (fun b => (start, b.2)) ↔
      i = start ∧ start < j ∧ ∃ b, rest[j - (start + 1)]? = some b ∧ a.overlaps b = true := by
  simp only [List.mem_map, List.mem_filter, Prod.mk.injEq, Prod.exists]
  constructor
  · rintro ⟨b, n, ⟨hmem, hover⟩, rfl, rfl⟩
    obtain ⟨hle, hb⟩ := List.mk_mem_zipIdx_iff_le_and_getElem?_sub.mp hmem
    exact ⟨rfl, hle, b, hb, hover⟩
  · rintro ⟨rfl, hlt, b, hb, hover⟩
    have hmem := List.mk_mem_zipIdx_iff_le_and_getElem?_sub.mpr ⟨hlt, hb⟩
    exact ⟨b, j, ⟨hmem, hover⟩, rfl, rfl⟩

/-- A pair is listed exactly if it names an earlier and a later rectangle that
overlap. -/
theorem mem_overlappingPairsFrom_iff {rects : List Rect} {start i j : Nat} :
    (i, j) ∈ overlappingPairsFrom start rects ↔
      start ≤ i ∧ i < j ∧ ∃ a b, rects[i - start]? = some a ∧ rects[j - start]? = some b ∧
        a.overlaps b = true := by
  induction rects generalizing start with
  | nil => simp [overlappingPairsFrom]
  | cons a rest ih =>
      have hlater : ∀ n, start < n → (a :: rest)[n - start]? = rest[n - (start + 1)]? := by
        intro n hn
        rw [show n - start = n - (start + 1) + 1 by omega, List.getElem?_cons_succ]
      rw [overlappingPairsFrom, List.mem_append, mem_pairsOfFirst_iff, ih]
      constructor
      · rintro (⟨rfl, hlt, b, hb, hover⟩ | ⟨hle, hlt, c, b, hc, hb, hover⟩)
        · exact ⟨Nat.le_refl _, hlt, a, b, by rw [Nat.sub_self]; rfl, (hlater j hlt).trans hb, hover⟩
        · exact ⟨by omega, hlt, c, b, (hlater i hle).trans hc, (hlater j (by omega)).trans hb, hover⟩
      · rintro ⟨hle, hlt, c, b, hc, hb, hover⟩
        rw [hlater j (by omega)] at hb
        -- the first rectangle's pairs come first
        by_cases hi : i = start
        · rw [hi, Nat.sub_self] at hc
          cases hc
          exact Or.inl ⟨hi, by omega, b, hb, hover⟩
        · rw [hlater i (by omega)] at hc
          exact Or.inr ⟨by omega, hlt, c, b, hc, hb, hover⟩

/-- The pairs are listed in order, each of them once. -/
theorem pairwise_overlappingPairsFrom (rects : List Rect) (start : Nat) :
    (overlappingPairsFrom start rects).Pairwise
      fun p q => p.1 < q.1 ∨ p.1 = q.1 ∧ p.2 < q.2 := by
  induction rects generalizing start with
  | nil => exact List.Pairwise.nil
  | cons a rest ih =>
      rw [overlappingPairsFrom, List.pairwise_append]
      refine ⟨?_, ih (start + 1), ?_⟩
      · -- one rectangle's pairs are in the order of the later rectangles
        have hindices : (rest.zipIdx (start + 1)).Pairwise fun b c => b.2 < c.2 := by
          rw [← List.pairwise_map (f := Prod.snd), List.zipIdx_map_snd]
          exact List.pairwise_lt_range' 1
        rw [List.pairwise_map]
        exact (hindices.filter _).imp fun h => Or.inr ⟨rfl, h⟩
      · intro p hp q hq
        obtain ⟨b, -, rfl⟩ := List.mem_map.mp hp
        exact Or.inl (mem_overlappingPairsFrom_iff.mp hq).1

/-! ## §4. How far the predicates are exact. -/

/-- **The predicates and the cells.**  For rectangles that span a cell, overlap
is a shared cell, provided that both begin before the last column and the last
row; the pairs listed are the pairs of an earlier and a later rectangle of this
kind, in order.  To fit is to end within the columns, except in the widest
grid, where everything fits.  Clamping changes exactly the rectangles that do
not end within the columns, in every grid, and its result does. -/
theorem predicates_exact_before_last {a b : Rect} (ha : a.Proper) (hb : b.Proper)
    (columns : UInt32) {rects : List Rect} (hrects : ∀ r ∈ rects, r.Proper) :
    (a.overlaps b = true ↔ a.Shares b ∧ a.BeforeLast ∧ b.BeforeLast) ∧
    (a.overlaps a = true ↔ a.BeforeLast) ∧
    ((overlappingPairs rects).Pairwise fun p q => p.1 < q.1 ∨ p.1 = q.1 ∧ p.2 < q.2) ∧
    (∀ i j, (i, j) ∈ overlappingPairs rects ↔
      i < j ∧ ∃ c d, rects[i]? = some c ∧ rects[j]? = some d ∧
        c.Shares d ∧ c.BeforeLast ∧ d.BeforeLast) ∧
    (a.fits columns = true ↔ a.EndsWithin columns ∨ columns = maxCells) ∧
    (1 ≤ columns → (a.clamped columns = a ↔ a.EndsWithin columns) ∧
      (a.clamped columns).EndsWithin columns ∧ (a.clamped columns).fits columns = true) := by
  refine ⟨Rect.overlaps_iff ha hb, ?_, pairwise_overlappingPairsFrom rects 0, fun i j => ?_,
    Rect.fits_iff_ends ha columns, fun wide => ⟨Rect.clamped_eq_self_iff ha wide,
      Rect.endsWithin_clamped a wide, Rect.fits_clamped a wide⟩⟩
  · rw [Rect.overlaps_iff ha ha]
    exact ⟨fun h => h.2.1, fun h => ⟨Rect.shares_self ha, h, h⟩⟩
  · rw [overlappingPairs, mem_overlappingPairsFrom_iff]
    refine ⟨fun ⟨_, hlt, c, d, hc, hd, hover⟩ => ?_, fun ⟨hlt, c, d, hc, hd, hover⟩ => ?_⟩
    · exact ⟨hlt, c, d, hc, hd, (Rect.overlaps_iff (hrects c (List.mem_of_getElem? hc))
        (hrects d (List.mem_of_getElem? hd))).mp hover⟩
    · exact ⟨Nat.zero_le _, hlt, c, d, hc, hd, (Rect.overlaps_iff
        (hrects c (List.mem_of_getElem? hc)) (hrects d (List.mem_of_getElem? hd))).mpr hover⟩

/-- Two rectangles at the right edge of the widest grid, one of them past it:
they overlap, both fit, and clamping moves the one that ends outside. -/
theorem widest_grid_judged :
    let a : Rect := ⟨0xFFFFFFFD, 0, 2, 1⟩
    let b : Rect := ⟨0xFFFFFFFE, 0, 2, 1⟩
    (a.Proper ∧ b.Proper ∧ (∀ r ∈ [b, a], r.Proper) ∧ 1 ≤ maxCells) ∧
    b.overlaps a = true ∧ b.overlaps b = true ∧ (0, 1) ∈ overlappingPairs [b, a] ∧
      b.fits maxCells = true ∧ b.clamped maxCells ≠ b := by
  intro a b
  have ha : a.Proper := by decide
  have hb : b.Proper := by decide
  have hrects : ∀ r ∈ [b, a], r.Proper := by decide
  have hwide : 1 ≤ maxCells := by decide
  obtain ⟨hover, hself, -, hpairs, hfits, hclamped⟩ :=
    predicates_exact_before_last hb ha maxCells hrects
  exact ⟨⟨ha, hb, hrects, hwide⟩, hover.mpr (by decide), hself.mpr (by decide),
    (hpairs 0 1).mpr ⟨by decide, b, a, rfl, rfl, by decide⟩, hfits.mpr (Or.inr rfl),
    fun hsame => absurd ((hclamped hwide).1.mp hsame) (by decide)⟩

/-- A cell in the last column escapes the predicates: it does not overlap
itself, it fits a grid that it does not end within, and clamping moves it
there. -/
theorem last_column_escapes :
    let r : Rect := ⟨maxCells, 0, 1, 1⟩
    r.Proper ∧ (r.Shares r ∧ r.overlaps r = false ∧ overlappingPairs [r, r] = []) ∧
      (¬ r.EndsWithin maxCells ∧ r.fits maxCells = true) ∧
      1 ≤ maxCells ∧ r.clamped maxCells ≠ r := by
  decide

end Dashboard.Grid
