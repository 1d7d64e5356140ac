/-
  Dashboard.Proofs.Grid.Placement
  ───────────────────────────────
  **RECTANGLES THAT FIT.**

  A rectangle reaches the grid in three ways: clamped into it, placed in the
  first free slot, or below everything else.  In a grid of at least one column
  each of them fits.  Words are moved to natural numbers first, where the
  saturating edges are caps.

  Main results:
    fits_iff          — what fitting means in unbounded numbers
    fits_clamped      — clamped rectangles fit
    fits_findFreeSlot — placed rectangles fit
-/
import Dashboard.Grid.Placement

namespace Dashboard.Grid

/-! ## §1. Words. -/

theorem toNat_min (a b : UInt32) : (min a b).toNat = min a.toNat b.toNat := by
  show (if a ≤ b then a else b).toNat = _
  split
  next h => rw [UInt32.le_iff_toNat_le] at h; omega
  next h => rw [UInt32.le_iff_toNat_le] at h; omega

theorem toNat_max (a b : UInt32) : (max a b).toNat = max a.toNat b.toNat := by
  show (if a ≤ b then b else a).toNat = _
  split
  next h => rw [UInt32.le_iff_toNat_le] at h; omega
  next h => rw [UInt32.le_iff_toNat_le] at h; omega

/-- A grid has at least one column. -/
theorem one_le_max_one (columns : UInt32) : 1 ≤ max columns 1 := by
  have hone : (1 : UInt32).toNat = 1 := rfl
  rw [UInt32.le_iff_toNat_le, toNat_max, hone]
  omega

/-- A grid of at least one column is not widened. -/
theorem max_one {columns : UInt32} (h : 1 ≤ columns) :
    max columns 1 = columns ∧ 1 ≤ columns.toNat := by
  have hone : (1 : UInt32).toNat = 1 := rfl
  rw [UInt32.le_iff_toNat_le, hone] at h
  refine ⟨?_, h⟩
  apply UInt32.toNat_inj.mp
  rw [toNat_max, hone]
  omega

/-! ## §2. Clamping. -/

namespace Rect

theorem fits_iff (r : Rect) (columns : UInt32) :
    r.fits columns = true ↔
      1 ≤ r.w.toNat ∧ 1 ≤ r.h.toNat ∧
        min (r.x.toNat + r.w.toNat) 0xFFFFFFFF ≤ columns.toNat := by
  simp only [fits, right, Bool.and_eq_true, decide_eq_true_eq, UInt32.le_iff_toNat_le,
    toNat_saturatingAdd, and_assoc]
  rfl

/-- The clamped rectangle in unbounded numbers. -/
theorem toNat_clamped (r : Rect) {columns : UInt32} (h : 1 ≤ columns) :
    (r.clamped columns).x.toNat
        = min r.x.toNat (columns.toNat - min (max r.w.toNat 1) columns.toNat) ∧
      (r.clamped columns).y = r.y ∧
      (r.clamped columns).w.toNat = min (max r.w.toNat 1) columns.toNat ∧
      (r.clamped columns).h.toNat = max r.h.toNat 1 := by
  have hone : (1 : UInt32).toNat = 1 := rfl
  obtain ⟨hmax, h⟩ := max_one h
  have hw : (min (max r.w 1) columns).toNat = min (max r.w.toNat 1) columns.toNat := by
    rw [toNat_min, toNat_max, hone]
  -- the width is at most the columns, so the difference does not wrap around
  have hsub : (columns - min (max r.w 1) columns).toNat
      = columns.toNat - min (max r.w.toNat 1) columns.toNat := by
    rw [UInt32.toNat_sub_of_le _ _ (UInt32.le_iff_toNat_le.mpr (by omega)), hw]
  rw [clamped, hmax]
  exact ⟨by rw [toNat_min, hsub], rfl, hw, by rw [toNat_max, hone]⟩

/-- Pulled into a grid of at least one column, a rectangle fits it. -/
theorem fits_clamped (r : Rect) {columns : UInt32} (h : 1 ≤ columns) :
    (r.clamped columns).fits columns = true := by
  obtain ⟨hx, -, hw, hh⟩ := toNat_clamped r h
  have hwide := (max_one h).2
  rw [fits_iff, hx, hw, hh]
  omega

end Rect

/-! ## §3. Placing. -/

/-- What a search finds, it finds at the first place searched that has
something. -/
theorem firstSome_eq_some {α : Type} {f : Nat → Option α} {count start : Nat} {a : α}
    (h : firstSome f count start = some a) :
    ∃ i, i < start + count ∧ f i = some a ∧ ∀ j, start ≤ j → j < i → f j = none := by
  induction count generalizing start with
  | zero => cases h
  | succ count ih =>
      rw [firstSome] at h
      cases hf : f start with
      | some b =>
          rw [hf] at h
          exact ⟨start, by omega, hf.trans h, fun j hj hlt => absurd hlt (by omega)⟩
      | none =>
          rw [hf] at h
          obtain ⟨i, hi, hfi, hbefore⟩ := ih h
          refine ⟨i, by omega, hfi, fun j hj hlt => ?_⟩
          by_cases hstart : j = start
          · rw [hstart, hf]
          · exact hbefore j (by omega) hlt

/-- A bounded size in unbounded numbers. -/
theorem Size.toNat_bounded (size : Size) (columns : UInt32) :
    (size.bounded columns).w.toNat = min (max size.w.toNat 1) columns.toNat ∧
      (size.bounded columns).h.toNat = max size.h.toNat 1 := by
  have hone : (1 : UInt32).toNat = 1 := rfl
  constructor
  · show (min (max size.w 1) columns).toNat = _
    rw [toNat_min, toNat_max, hone]
  · show (max size.h 1).toNat = _
    rw [toNat_max, hone]

/-- A bounded size fits at every place that leaves room for its width. -/
theorem fits_at {size : Size} {columns x y : UInt32} (hw : 1 ≤ size.w.toNat)
    (hh : 1 ≤ size.h.toNat) (hx : x.toNat + size.w.toNat ≤ columns.toNat) :
    (size.at x y).fits columns = true := by
  rw [Rect.fits_iff]
  refine ⟨hw, hh, ?_⟩
  show min (x.toNat + size.w.toNat) 0xFFFFFFFF ≤ columns.toNat
  omega

/-- **A new panel's rectangle fits the grid it is placed on.** -/
theorem fits_findFreeSlot {columns : UInt32} (h : 1 ≤ columns) (size : Size)
    (existing : List Rect) : (findFreeSlot columns size existing).fits columns = true := by
  obtain ⟨hmax, h⟩ := max_one h
  obtain ⟨hw, hh⟩ := size.toNat_bounded columns
  have hbound := columns.toNat_lt
  unfold findFreeSlot
  rw [hmax]
  dsimp only
  generalize size.bounded columns = size at *
  generalize ((Occupancy.windowed columns _).markAll existing) = occupancy
  cases hfound : firstSome (fun y => firstSome (occupancy.freeAt? size y)
      (columns.toNat - size.w.toNat + 1) 0) scanRows.toNat 0 with
  | none =>
      -- below everything else, at the left edge
      refine fits_at (by omega) (by omega) ?_
      show 0 + size.w.toNat ≤ columns.toNat
      omega
  | some r =>
      -- in the first free place, which was searched only where the width leaves room
      obtain ⟨y, -, hy, -⟩ := firstSome_eq_some hfound
      obtain ⟨x, hx, hfree, -⟩ := firstSome_eq_some hy
      unfold Occupancy.freeAt? at hfree
      dsimp only at hfree
      split at hfree
      next =>
        cases hfree
        refine fits_at (by omega) (by omega) ?_
        rw [UInt32.toNat_ofNat_of_lt' (show x < 0x100000000 by omega)]
        omega
      next => cases hfree

/-- A search in a grid of no columns is one in a single column. -/
theorem findFreeSlot_max_one (columns : UInt32) (size : Size) (existing : List Rect) :
    findFreeSlot (max columns 1) size existing = findFreeSlot columns size existing := by
  unfold findFreeSlot
  rw [(max_one (one_le_max_one columns)).1]

end Dashboard.Grid
