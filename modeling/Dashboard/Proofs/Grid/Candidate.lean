/-
  Dashboard.Proofs.Grid.Candidate
  ───────────────────────────────
  **HOW FAR A POINTER TAKES A PANEL.**

  A gesture adds a distance in cells to two counts of its start rectangle, the
  place of a drag or the size of a resize, and holds each sum within its
  bounds.  The distance may be any 64-bit number, and the sums are 64-bit sums:
  one that reaches past the greatest word stops the program, so that there is
  no rectangle at all.  All other sums are exact.

  Main results:
    checkedAdd_eq_some_iff   — a checked sum is the exact one
    candidateRect_eq         — the exact rectangle, or none past the words
    exactRect_mono           — greater distances give greater places and sizes
    candidate_exact_iff      — when there is a candidate, and which
-/
import Dashboard.Proofs.Grid.Cells
import Dashboard.Grid.Gesture

namespace Dashboard.Grid

/-! ## §1. Exact rectangles. -/

/-- A number held within two bounds. -/
def held (n lo hi : Int) : Int := max lo (min n hi)

/-- A number as a cell count: zero below, capped at the greatest count. -/
def cappedCell (n : Int) : UInt32 := UInt32.ofNat (min n.toNat 0xFFFFFFFF)

theorem toNat_cappedCell (n : Int) : (cappedCell n).toNat = min n.toNat 0xFFFFFFFF :=
  UInt32.toNat_ofNat_of_lt' (show min n.toNat 0xFFFFFFFF < 0x100000000 by omega)

theorem cappedCell_toNat (n : UInt32) : cappedCell n.toNat = n := by
  have hn := n.toNat_lt
  apply UInt32.toNat_inj.mp
  rw [toNat_cappedCell]
  omega

/-- The columns of a grid, at least one, as a number. -/
def gridColumns (columns : UInt32) : Int := (max columns 1).toNat

theorem gridColumns_bounds (columns : UInt32) :
    1 ≤ gridColumns columns ∧ gridColumns columns ≤ 0xFFFFFFFF := by
  have hone : (1 : UInt32).toNat = 1 := rfl
  have hlt := columns.toNat_lt
  rw [gridColumns, toNat_max, hone]
  omega

namespace GestureKind

/-- The count that a horizontal distance is added to. -/
def across (kind : GestureKind) (r : Rect) : UInt32 :=
  match kind with
  | .drag => r.x
  | .resize => r.w

/-- The count that a vertical distance is added to. -/
def down (kind : GestureKind) (r : Rect) : UInt32 :=
  match kind with
  | .drag => r.y
  | .resize => r.h

end GestureKind

/-- The rectangle of a gesture whose two sums are given: a drag keeps the size
and holds the place within the grid, a resize keeps the place and holds the size
within what it leaves. -/
def heldRect (kind : GestureKind) (start : Rect) (across down : Int) (columns : UInt32) : Rect :=
  match kind with
  | .drag =>
    let w := held start.w.toNat 1 (gridColumns columns)
    ⟨cappedCell (held across 0 (gridColumns columns - w)), cappedCell (max down 0),
      cappedCell w, cappedCell (max start.h.toNat 1)⟩
  | .resize =>
    let x := min (start.x.toNat : Int) (gridColumns columns - 1)
    ⟨cappedCell x, start.y, cappedCell (held across 1 (gridColumns columns - x)),
      cappedCell (max down 1)⟩

/-- The rectangle that a distance leads to, all sums in unbounded numbers. -/
def exactRect (kind : GestureKind) (start : Rect) (dx dy : Int) (columns : UInt32) : Rect :=
  heldRect kind start ((kind.across start).toNat + dx) ((kind.down start).toNat + dy) columns

/-! ## §2. Words. -/

theorem toInt_wordOf (n : UInt32) : (wordOf n).toInt = n.toNat := by
  have hn := n.toNat_lt
  exact Int64.toInt_ofNat_of_lt (by omega)

/-- A word becomes a cell count as its number does. -/
theorem cellOf_eq (n : Int64) : cellOf n = cappedCell n.toInt := by
  have hzero : (0 : Int64).toInt = 0 := rfl
  have hmost : (0xFFFFFFFF : Int64).toInt = 0xFFFFFFFF := rfl
  apply UInt32.toNat_inj.mp
  rw [toNat_cappedCell, cellOf]
  split
  next hlow =>
    rw [Int64.lt_iff_toInt_lt, hzero] at hlow
    show 0 = _
    omega
  next hlow =>
    rw [Int64.lt_iff_toInt_lt, hzero] at hlow
    split
    next hhigh =>
      rw [Int64.lt_iff_toInt_lt, hmost] at hhigh
      rw [toNat_maxCells]
      omega
    next hhigh =>
      rw [Int64.lt_iff_toInt_lt, hmost] at hhigh
      rw [UInt32.toNat_ofNat_of_lt' (show n.toInt.toNat < 0x100000000 by omega)]
      omega

/-- The difference of two counts in order. -/
theorem toInt_sub_of_le {a b : Int64} (h0 : 0 ≤ b.toInt) (h : b.toInt ≤ a.toInt) :
    (a - b).toInt = a.toInt - b.toInt := by
  have ha := a.toInt_lt
  rw [Int64.toInt_sub]
  exact Int.bmod_eq_of_le (by omega) (by omega)

theorem toInt_clampWord (n : Int64) {lo hi : Int64} (h : lo.toInt ≤ hi.toInt) :
    (clampWord n lo hi).toInt = held n.toInt lo.toInt hi.toInt := by
  unfold clampWord held
  split
  next hlo =>
    rw [Int64.lt_iff_toInt_lt] at hlo
    omega
  next hlo =>
    rw [Int64.lt_iff_toInt_lt] at hlo
    split
    next hhi =>
      rw [Int64.lt_iff_toInt_lt] at hhi
      omega
    next hhi =>
      rw [Int64.lt_iff_toInt_lt] at hhi
      omega

theorem toInt_max (a b : Int64) : (max a b).toInt = max a.toInt b.toInt := by
  show (if a ≤ b then b else a).toInt = _
  split
  next h => rw [Int64.le_iff_toInt_le] at h; omega
  next h => rw [Int64.le_iff_toInt_le] at h; omega

/-- A checked sum is the exact one. -/
theorem checkedAdd_eq_some_iff {a b s : Int64} :
    checkedAdd a b = some s ↔ s.toInt = a.toInt + b.toInt := by
  unfold checkedAdd
  split
  next hover =>
    refine iff_of_false nofun fun hsum => ?_
    -- the exact sum is no word
    have hlow := s.le_toInt
    have hhigh := s.toInt_lt
    rw [BitVec.saddOverflow, Bool.or_eq_true, decide_eq_true_eq, decide_eq_true_eq,
      Int64.toInt_toBitVec, Int64.toInt_toBitVec] at hover
    omega
  next hnot =>
    have hsum : (a + b).toInt = a.toInt + b.toInt := by
      rw [← Int64.toInt_toBitVec, Int64.toBitVec_add,
        BitVec.toInt_add_of_not_saddOverflow hnot, Int64.toInt_toBitVec, Int64.toInt_toBitVec]
    rw [Option.some.injEq, ← Int64.toInt_inj, hsum]
    exact eq_comm

/-- The columns of a grid as a word. -/
theorem toInt_wordOf_columns (columns : UInt32) :
    (wordOf (max columns 1)).toInt = gridColumns columns := toInt_wordOf _

/-- The rectangle of a drag whose sums are words. -/
theorem drag_of_sums {start : Rect} {dx dy x y : Int64}
    (hx : checkedAdd (wordOf start.x) dx = some x) (hy : checkedAdd (wordOf start.y) dy = some y)
    (columns : UInt32) :
    candidateRect .drag start dx dy columns = some (heldRect .drag start x.toInt y.toInt columns) := by
  have hzero : (0 : Int64).toInt = 0 := rfl
  have hone : (1 : Int64).toInt = 1 := rfl
  have hgrid := gridColumns_bounds columns
  have hcolumns := toInt_wordOf_columns columns
  have hw : (clampWord (wordOf start.w) 1 (wordOf (max columns 1))).toInt
      = held start.w.toNat 1 (gridColumns columns) := by
    rw [toInt_clampWord _ (by omega), toInt_wordOf, hone, hcolumns]
  have hwide : 1 ≤ held start.w.toNat 1 (gridColumns columns) ∧
      held start.w.toNat 1 (gridColumns columns) ≤ gridColumns columns := by
    unfold held
    omega
  -- what the width leaves for the place
  have hroom : (wordOf (max columns 1)
        - clampWord (wordOf start.w) 1 (wordOf (max columns 1))).toInt
      = gridColumns columns - held start.w.toNat 1 (gridColumns columns) := by
    rw [toInt_sub_of_le (by omega) (by omega), hw, hcolumns]
  have hplace := toInt_clampWord x
    (show (0 : Int64).toInt ≤ Int64.toInt (_ - _) by rw [hroom, hzero]; omega)
  rw [hroom, hzero] at hplace
  simp only [candidateRect, hx, hy, Option.bind_eq_bind, Option.bind_some, Option.pure_def,
    heldRect, cellOf_eq, toInt_max, toInt_wordOf, hplace, hw, hzero, hone]

/-- The rectangle of a resize whose sums are words. -/
theorem resize_of_sums {start : Rect} {dx dy w h : Int64}
    (hw : checkedAdd (wordOf start.w) dx = some w) (hh : checkedAdd (wordOf start.h) dy = some h)
    (columns : UInt32) :
    candidateRect .resize start dx dy columns
      = some (heldRect .resize start w.toInt h.toInt columns) := by
  have hzero : (0 : Int64).toInt = 0 := rfl
  have hone : (1 : Int64).toInt = 1 := rfl
  have hgrid := gridColumns_bounds columns
  have hcolumns := toInt_wordOf_columns columns
  have hlast : (wordOf (max columns 1) - 1).toInt = gridColumns columns - 1 := by
    rw [toInt_sub_of_le (by omega) (by omega), hone, hcolumns]
  have hx : (clampWord (wordOf start.x) 0 (wordOf (max columns 1) - 1)).toInt
      = min (start.x.toNat : Int) (gridColumns columns - 1) := by
    rw [toInt_clampWord _ (by omega), toInt_wordOf, hzero, hlast, held]
    omega
  -- what the place leaves for the width
  have hroom : (wordOf (max columns 1)
        - clampWord (wordOf start.x) 0 (wordOf (max columns 1) - 1)).toInt
      = gridColumns columns - min (start.x.toNat : Int) (gridColumns columns - 1) := by
    rw [toInt_sub_of_le (by omega) (by omega), hx, hcolumns]
  have hwidth := toInt_clampWord w
    (show (1 : Int64).toInt ≤ Int64.toInt (_ - _) by rw [hroom, hone]; omega)
  rw [hroom, hone] at hwidth
  simp only [candidateRect, hw, hh, Option.bind_eq_bind, Option.bind_some, Option.pure_def,
    heldRect, cellOf_eq, toInt_max, toInt_wordOf, hwidth, hx, hone, cappedCell_toNat]

/-- **The rectangle of two checked sums.** -/
theorem candidateRect_of_sums {kind : GestureKind} {start : Rect} {dx dy across down : Int64}
    (hacross : checkedAdd (wordOf (kind.across start)) dx = some across)
    (hdown : checkedAdd (wordOf (kind.down start)) dy = some down) (columns : UInt32) :
    candidateRect kind start dx dy columns
      = some (heldRect kind start across.toInt down.toInt columns) := by
  cases kind with
  | drag => exact drag_of_sums hacross hdown columns
  | resize => exact resize_of_sums hacross hdown columns

/-- Where one sum leaves 64 bits there is no rectangle. -/
theorem candidateRect_of_none {kind : GestureKind} {start : Rect} {dx dy : Int64}
    (h : checkedAdd (wordOf (kind.across start)) dx = none ∨
      checkedAdd (wordOf (kind.down start)) dy = none) (columns : UInt32) :
    candidateRect kind start dx dy columns = none := by
  cases kind <;> simp only [GestureKind.across, GestureKind.down] at h <;>
    rcases h with h | h <;> simp [candidateRect, h]

/-! ## §3. Sums that overflow. -/

/-- The sum of a count and a distance is past the greatest 64-bit number. -/
def Overflows (n : UInt32) (d : Int64) : Prop := Int64.maxValue.toInt < n.toNat + d.toInt

instance (n : UInt32) (d : Int64) : Decidable (Overflows n d) :=
  inferInstanceAs (Decidable (_ < _))

/-- A sum leaves 64 bits at the upper end only. -/
theorem checkedAdd_wordOf (n : UInt32) (d : Int64) :
    (Overflows n d ∧ checkedAdd (wordOf n) d = none) ∨
      (¬ Overflows n d ∧ ∃ s, checkedAdd (wordOf n) d = some s ∧ s.toInt = n.toNat + d.toInt) := by
  have hgreatest : Int64.maxValue.toInt = 0x7FFFFFFFFFFFFFFF := rfl
  have hlow := d.le_toInt
  rw [Overflows, hgreatest]
  cases hsum : checkedAdd (wordOf n) d with
  | some s =>
      have hs := s.toInt_lt
      rw [checkedAdd_eq_some_iff, toInt_wordOf] at hsum
      exact Or.inr ⟨by omega, s, rfl, hsum⟩
  | none =>
      refine Or.inl ⟨Int.not_le.mp fun hle => ?_, rfl⟩
      -- the exact sum is a word, so it is the sum
      have hword : (Int64.ofInt (n.toNat + d.toInt)).toInt = n.toNat + d.toInt :=
        Int64.toInt_ofInt_of_le (by omega) (by omega)
      rw [checkedAdd_eq_some_iff.mpr (by rw [hword, toInt_wordOf])] at hsum
      cases hsum

/-- Where a sum overflows, every greater one does. -/
theorem Overflows.mono {n : UInt32} {d d' : Int64} (hd : d ≤ d') (h : Overflows n d) :
    Overflows n d' := by
  rw [Int64.le_iff_toInt_le] at hd
  unfold Overflows at h ⊢
  omega

/-- No distance from the corner overflows. -/
theorem not_overflows_zero (d : Int64) : ¬ Overflows 0 d := by
  intro hover
  have hd := d.toInt_le
  have hzero : (0 : UInt32).toNat = 0 := rfl
  rw [Overflows, hzero] at hover
  omega

/-! ## §4. Exact candidates. -/

/-- **A candidate is the exact rectangle**, unless a sum overflows. -/
theorem candidateRect_eq (kind : GestureKind) (start : Rect) (dx dy : Int64) (columns : UInt32) :
    candidateRect kind start dx dy columns =
      if Overflows (kind.across start) dx ∨ Overflows (kind.down start) dy then none
      else some (exactRect kind start dx.toInt dy.toInt columns) := by
  rcases checkedAdd_wordOf (kind.across start) dx with
    ⟨hover, hnone⟩ | ⟨hacross, across, hsum, hx⟩
  · rw [if_pos (Or.inl hover), candidateRect_of_none (Or.inl hnone)]
  rcases checkedAdd_wordOf (kind.down start) dy with ⟨hover, hnone⟩ | ⟨hdown, down, hsum', hy⟩
  · rw [if_pos (Or.inr hover), candidateRect_of_none (Or.inr hnone)]
  · rw [if_neg (not_or.mpr ⟨hacross, hdown⟩), candidateRect_of_sums hsum hsum', hx, hy, exactRect]

theorem cappedCell_mono {a b : Int} (h : a ≤ b) : cappedCell a ≤ cappedCell b := by
  rw [UInt32.le_iff_toNat_le, toNat_cappedCell, toNat_cappedCell]
  omega

theorem held_mono {a b : Int} (h : a ≤ b) (lo hi : Int) : held a lo hi ≤ held b lo hi := by
  unfold held
  omega

/-- Greater distances give greater places and sizes. -/
theorem exactRect_mono (kind : GestureKind) (start : Rect) (dx dy dx' dy' : Int)
    (columns : UInt32) :
    (dx ≤ dx' → (exactRect kind start dx dy columns).x ≤ (exactRect kind start dx' dy' columns).x ∧
      (exactRect kind start dx dy columns).w ≤ (exactRect kind start dx' dy' columns).w) ∧
    (dy ≤ dy' → (exactRect kind start dx dy columns).y ≤ (exactRect kind start dx' dy' columns).y ∧
      (exactRect kind start dx dy columns).h ≤ (exactRect kind start dx' dy' columns).h) := by
  have hsame : ∀ n : UInt32, n ≤ n := UInt32.le_refl
  cases kind with
  | drag =>
      exact ⟨fun h => ⟨cappedCell_mono (held_mono (by omega) _ _), hsame _⟩,
        fun h => ⟨cappedCell_mono (by omega), hsame _⟩⟩
  | resize =>
      exact ⟨fun h => ⟨hsame _, cappedCell_mono (held_mono (by omega) _ _)⟩,
        fun h => ⟨hsame _, cappedCell_mono (by omega)⟩⟩

/-- **When there is a candidate, and which.**  The exact rectangle, exactly if
neither sum overflows; otherwise the program stops, and it does so for every
pointer that is farther right and down.  Where two pointers have a candidate,
the one further right or down never moves the panel left or up, and never makes
it smaller. -/
theorem candidate_exact_iff (kind : GestureKind) (start : Rect) (dx dy : Int64)
    (columns : UInt32) :
    (candidateRect kind start dx dy columns
        = some (exactRect kind start dx.toInt dy.toInt columns) ↔
      ¬ Overflows (kind.across start) dx ∧ ¬ Overflows (kind.down start) dy) ∧
    (candidateRect kind start dx dy columns = none ↔
      Overflows (kind.across start) dx ∨ Overflows (kind.down start) dy) ∧
    ∀ dx' dy' : Int64,
      (dx ≤ dx' → dy ≤ dy' → candidateRect kind start dx dy columns = none →
        candidateRect kind start dx' dy' columns = none) ∧
      ∀ r r', candidateRect kind start dx dy columns = some r →
        candidateRect kind start dx' dy' columns = some r' →
        (dx ≤ dx' → r.x ≤ r'.x ∧ r.w ≤ r'.w) ∧ (dy ≤ dy' → r.y ≤ r'.y ∧ r.h ≤ r'.h) := by
  have hnone : ∀ dx dy, candidateRect kind start dx dy columns = none ↔
      Overflows (kind.across start) dx ∨ Overflows (kind.down start) dy := by
    intro dx dy
    rw [candidateRect_eq]
    split
    next hover => exact iff_of_true rfl hover
    next hnot => exact iff_of_false nofun hnot
  have hsome : ∀ dx dy r, candidateRect kind start dx dy columns = some r →
      exactRect kind start dx.toInt dy.toInt columns = r := by
    intro dx dy r h
    rw [candidateRect_eq] at h
    split at h
    next => cases h
    next => exact Option.some.inj h
  refine ⟨?_, hnone dx dy, fun dx' dy' => ⟨fun hx hy h => ?_, fun r r' h h' => ?_⟩⟩
  · rw [candidateRect_eq, ← not_or]
    split
    next hover => exact iff_of_false nofun (not_not_intro hover)
    next hnot => exact iff_of_true rfl hnot
  · rw [hnone] at h ⊢
    exact h.imp (Overflows.mono hx) (Overflows.mono hy)
  · rw [← hsome dx dy r h, ← hsome dx' dy' r' h', Int64.le_iff_toInt_le, Int64.le_iff_toInt_le]
    exact exactRect_mono kind start _ _ _ _ columns

/-- The farthest sum that fits, from the farthest distance to the left: the
panel goes from the left edge to the right one.  One cell farther there is no
candidate, and none beyond. -/
theorem farthest_drag :
    let start : Rect := ⟨2, 1, 3, 2⟩
    (Int64.minValue ≤ Int64.maxValue - 2 ∧ (0 : Int64) ≤ 0 ∧
      Int64.maxValue - 1 ≤ Int64.maxValue) ∧
    candidateRect .drag start Int64.minValue 0 12 = some ⟨0, 1, 3, 2⟩ ∧
    candidateRect .drag start (Int64.maxValue - 2) 0 12 = some ⟨9, 1, 3, 2⟩ ∧
    ((0 : UInt32) ≤ 9 ∧ (3 : UInt32) ≤ 3) ∧ ((1 : UInt32) ≤ 1 ∧ (2 : UInt32) ≤ 2) ∧
    candidateRect .drag start (Int64.maxValue - 1) 0 12 = none ∧
    candidateRect .drag start Int64.maxValue 0 12 = none := by
  intro start
  have hfar : Int64.minValue ≤ Int64.maxValue - 2 := by decide
  have hsame : (0 : Int64) ≤ 0 := by decide
  have hbeyond : Int64.maxValue - 1 ≤ Int64.maxValue := by decide
  have hx : ¬ Overflows start.x (Int64.maxValue - 2) := by decide
  have hy : ¬ Overflows start.y 0 := by decide
  have hover : Overflows start.x (Int64.maxValue - 1) := by decide
  have hleft : candidateRect .drag start Int64.minValue 0 12 = some ⟨0, 1, 3, 2⟩ := by decide
  have hexact : exactRect .drag start (Int64.maxValue - 2).toInt 0 12 = ⟨9, 1, 3, 2⟩ := by decide
  have hright := (candidate_exact_iff .drag start (Int64.maxValue - 2) 0 12).1.mpr ⟨hx, hy⟩
  have hstop := (candidate_exact_iff .drag start (Int64.maxValue - 1) 0 12).2.1.mpr (Or.inl hover)
  obtain ⟨hacross, hdown⟩ := ((candidate_exact_iff .drag start Int64.minValue 0 12).2.2
    (Int64.maxValue - 2) 0).2 _ _ hleft hright
  rw [show (0 : Int64).toInt = 0 from rfl, hexact] at hright
  refine ⟨⟨hfar, hsame, hbeyond⟩, hleft, hright, hacross hfar, hdown hsame, hstop, ?_⟩
  exact ((candidate_exact_iff .drag start (Int64.maxValue - 1) 0 12).2.2 Int64.maxValue 0).1
    hbeyond hsame hstop

/-- A pointer as far to the right as a distance can be leaves a panel without a
rectangle, although the exact one is at the right edge. -/
theorem far_right_stops :
    let start : Rect := ⟨2, 1, 3, 2⟩
    Overflows start.x Int64.maxValue ∧
      candidateRect .drag start 1 0 12 = some ⟨3, 1, 3, 2⟩ ∧
      candidateRect .drag start Int64.maxValue 0 12 = none ∧
      exactRect .drag start Int64.maxValue.toInt 0 12 = ⟨9, 1, 3, 2⟩ := by
  decide

end Dashboard.Grid
