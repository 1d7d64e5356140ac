/-
  Dashboard.Proofs.Grid.Occupancy
  ───────────────────────────────
  **THE WINDOW IS NOT SEEN FROM OUTSIDE.**

  An occupancy keeps of each marked rectangle the box inside its window, and
  the whole rectangle where that spills.  Two rectangles overlap exactly if
  their boxes meet or both spill and overlap: a shared cell outside the window
  lies in two rectangles that reach past it.  So every answer is what the
  marked rectangles say by themselves, whatever the window is and whatever the
  order of the marks was.

  Main results:
    overlaps_iff_clip      — overlap through a window
    Keeps.mark, keeps_markAll — what an occupancy keeps, step and run
    answersFor_markAll     — the answers are those of the marked rectangles
    answers_without_window — all windows and all orders answer alike
-/
import Dashboard.Proofs.Grid.Cells

namespace Dashboard.Grid

/-! ## §1. Overlap through a window. -/

/-- A single cell. -/
def unitRect (x y : UInt32) : Rect := ⟨x, y, 1, 1⟩

namespace Occupancy

theorem spills_iff (o : Occupancy) (r : Rect) :
    o.spills r = true ↔ o.rows.toNat < r.bottom.toNat ∨ o.columns.toNat < r.right.toNat := by
  simp only [spills, Bool.or_eq_true, decide_eq_true_eq, gt_iff_lt, UInt32.lt_iff_toNat_lt]

/-- **Two rectangles overlap exactly if their parts inside the window meet, or
both reach past it and overlap.** -/
theorem overlaps_iff_clip (o : Occupancy) {s r : Rect} (hs : s.Proper) (hr : r.Proper) :
    s.overlaps r = true ↔ (o.clip s).meets (o.clip r) = true ∨
      o.spills r = true ∧ o.spills s = true ∧ s.overlaps r = true := by
  have hs := (Rect.proper_iff s).mp hs
  have hr := (Rect.proper_iff r).mp hr
  have hsx := s.toNat_right
  have hsy := s.toNat_bottom
  have hrx := r.toNat_right
  have hry := r.toNat_bottom
  rw [Box.meets_iff_edges, spills_iff, spills_iff]
  simp only [clip, toNat_min]
  constructor
  · intro hover
    have hedges := (Rect.overlaps_iff_edges s r).mp hover
    -- the first cell in both, inside the window or outside
    by_cases hcell : max s.x.toNat r.x.toNat < o.columns.toNat ∧
        max s.y.toNat r.y.toNat < o.rows.toNat
    · left
      omega
    · right
      exact ⟨by omega, by omega, hover⟩
  · rintro (hmeets | ⟨-, -, hover⟩)
    · rw [Rect.overlaps_iff_edges]
      omega
    · exact hover

/-! ## §2. What an occupancy keeps. -/

/-- The occupancy keeps a list of rectangles: their boxes, the ones that spill,
and the lowest bottom edge as the least bound of all. -/
structure Keeps (o : Occupancy) (rs : List Rect) : Prop where
  inside : ∀ b, b ∈ o.inside ↔ ∃ r ∈ rs, o.clip r = b
  spilled : ∀ r, r ∈ o.spilled ↔ r ∈ rs ∧ o.spills r = true
  bottom : ∀ n : UInt32, o.bottom ≤ n ↔ ∀ r ∈ rs, r.bottom ≤ n

theorem keeps_windowed (columns rows : UInt32) : (windowed columns rows).Keeps [] where
  inside b := by simp [windowed]
  spilled r := by simp [windowed]
  bottom n := by simp [windowed, UInt32.le_iff_toNat_le]

/-- Marking keeps one rectangle more. -/
theorem Keeps.mark {o : Occupancy} {rs : List Rect} (h : o.Keeps rs) (r : Rect) :
    (o.mark r).Keeps (rs ++ [r]) where
  inside b := by
    show b ∈ o.clip r :: o.inside ↔ ∃ s ∈ rs ++ [r], o.clip s = b
    rw [List.mem_cons, h.inside]
    constructor
    · rintro (rfl | ⟨s, hs, rfl⟩)
      · exact ⟨r, by simp, rfl⟩
      · exact ⟨s, by simp [hs], rfl⟩
    · rintro ⟨s, hs, rfl⟩
      rcases List.mem_append.mp hs with hs | hs
      · exact Or.inr ⟨s, hs, rfl⟩
      · rw [List.mem_singleton.mp hs]
        exact Or.inl rfl
  spilled s := by
    show s ∈ (if o.spills r then r :: o.spilled else o.spilled) ↔
      s ∈ rs ++ [r] ∧ o.spills s = true
    rw [List.mem_append, List.mem_singleton]
    split
    next hr =>
      rw [List.mem_cons, h.spilled]
      constructor
      · rintro (rfl | ⟨hs, hspills⟩)
        · exact ⟨Or.inr rfl, hr⟩
        · exact ⟨Or.inl hs, hspills⟩
      · rintro ⟨hs | rfl, hspills⟩
        · exact Or.inr ⟨hs, hspills⟩
        · exact Or.inl rfl
    next hr =>
      rw [h.spilled]
      constructor
      · rintro ⟨hs, hspills⟩
        exact ⟨Or.inl hs, hspills⟩
      · rintro ⟨hs | rfl, hspills⟩
        · exact ⟨hs, hspills⟩
        · exact absurd hspills hr
  bottom n := by
    show max o.bottom r.bottom ≤ n ↔ ∀ s ∈ rs ++ [r], s.bottom ≤ n
    have hmax : max o.bottom r.bottom ≤ n ↔ o.bottom ≤ n ∧ r.bottom ≤ n := by
      simp only [UInt32.le_iff_toNat_le, toNat_max]
      omega
    simp only [hmax, h.bottom, List.forall_mem_append, List.forall_mem_singleton]

/-- A run of marks keeps all the rectangles. -/
theorem Keeps.markAll {o : Occupancy} {before : List Rect} (h : o.Keeps before)
    (rs : List Rect) : (o.markAll rs).Keeps (before ++ rs) := by
  induction rs generalizing o before with
  | nil =>
      rw [List.append_nil]
      exact h
  | cons r rest ih =>
      have hrest := ih (h.mark r)
      rw [List.append_assoc] at hrest
      exact hrest

theorem keeps_markAll (columns rows : UInt32) (rs : List Rect) :
    ((windowed columns rows).markAll rs).Keeps rs :=
  (keeps_windowed columns rows).markAll rs

/-! ## §3. The answers. -/

section Answers

variable {o : Occupancy} {rs : List Rect}

theorem Keeps.any_inside (h : o.Keeps rs) (p : Box → Bool) :
    o.inside.any p = rs.any fun s => p (o.clip s) := by
  rw [Bool.eq_iff_iff, List.any_eq_true, List.any_eq_true]
  constructor
  · rintro ⟨b, hb, hp⟩
    obtain ⟨s, hs, rfl⟩ := (h.inside b).mp hb
    exact ⟨s, hs, hp⟩
  · rintro ⟨s, hs, hp⟩
    exact ⟨o.clip s, (h.inside _).mpr ⟨s, hs, rfl⟩, hp⟩

theorem Keeps.any_spilled (h : o.Keeps rs) (p : Rect → Bool) :
    o.spilled.any p = rs.any fun s => o.spills s && p s := by
  rw [Bool.eq_iff_iff]
  simp only [List.any_eq_true, h.spilled, Bool.and_eq_true, and_assoc]

/-- **A rectangle is free exactly if no kept rectangle overlaps it.** -/
theorem Keeps.isFree_eq (h : o.Keeps rs) (proper : ∀ s ∈ rs, s.Proper) {r : Rect}
    (hr : r.Proper) : o.isFree r = !rs.any (·.overlaps r) := by
  rw [isFree, h.any_inside, h.any_spilled, ← Bool.not_or]
  congr 1
  rw [Bool.eq_iff_iff]
  simp only [Bool.or_eq_true, Bool.and_eq_true, List.any_eq_true]
  constructor
  · rintro (⟨s, hs, hmeets⟩ | ⟨-, s, hs, -, hover⟩)
    · exact ⟨s, hs, (overlaps_iff_clip o (proper s hs) hr).mpr (Or.inl hmeets)⟩
    · exact ⟨s, hs, hover⟩
  · rintro ⟨s, hs, hover⟩
    rcases (overlaps_iff_clip o (proper s hs) hr).mp hover with hmeets | ⟨hspills, hrest⟩
    · exact Or.inl ⟨s, hs, hmeets⟩
    · exact Or.inr ⟨hspills, s, hs, hrest⟩

/-- The edges of a single cell. -/
theorem overlaps_unitRect_iff (s : Rect) (x y : UInt32) :
    s.overlaps (unitRect x y) = true ↔
      (s.x.toNat ≤ x.toNat ∧ x.toNat < s.right.toNat) ∧
        s.y.toNat ≤ y.toNat ∧ y.toNat < s.bottom.toNat := by
  have hone : (1 : UInt32).toNat = 1 := rfl
  have hright := (unitRect x y).toNat_right
  have hbottom := (unitRect x y).toNat_bottom
  have hx := s.toNat_right
  have hy := s.toNat_bottom
  simp only [unitRect, hone] at hright hbottom
  rw [Rect.overlaps_iff_edges]
  simp only [unitRect]
  omega

/-- **A cell is taken exactly if a kept rectangle overlaps it.** -/
theorem Keeps.isOccupied_eq (h : o.Keeps rs) (x y : UInt32) :
    o.isOccupied x y = rs.any (·.overlaps (unitRect x y)) := by
  have hcell : ∀ s : Rect, s.overlaps (unitRect x y) = true ↔ _ :=
    fun s => overlaps_unitRect_iff s x y
  rw [isOccupied]
  split
  next hwindow =>
    simp only [Bool.and_eq_true, decide_eq_true_eq, UInt32.lt_iff_toNat_lt] at hwindow
    rw [h.any_inside]
    congr 1
    funext s
    rw [Bool.eq_iff_iff, hcell, Box.holds_iff]
    simp only [clip, toNat_min]
    omega
  next hwindow =>
    -- a rectangle that holds a cell outside the window reaches past it
    simp only [Bool.and_eq_true, decide_eq_true_eq, UInt32.lt_iff_toNat_lt] at hwindow
    rw [h.any_spilled]
    congr 1
    funext s
    rw [Bool.eq_iff_iff, Bool.and_eq_true, spills_iff]
    show _ ∧ s.overlaps (unitRect x y) = true ↔ _
    rw [hcell]
    omega

end Answers

/-- The answers are those of a list of rectangles: free is what none of them
overlaps, taken is a cell that one of them overlaps, and the bottom is the least
row that none of them reaches past. -/
structure AnswersFor (o : Occupancy) (rs : List Rect) : Prop where
  isFree : ∀ r : Rect, r.Proper → o.isFree r = !rs.any (·.overlaps r)
  isOccupied : ∀ x y, o.isOccupied x y = rs.any (·.overlaps (unitRect x y))
  bottom : ∀ n : UInt32, o.bottom ≤ n ↔ ∀ r ∈ rs, r.bottom ≤ n

theorem answersFor_markAll (columns rows : UInt32) {rs : List Rect}
    (proper : ∀ r ∈ rs, r.Proper) : ((windowed columns rows).markAll rs).AnswersFor rs where
  isFree _ hr := (keeps_markAll columns rows rs).isFree_eq proper hr
  isOccupied := (keeps_markAll columns rows rs).isOccupied_eq
  bottom := (keeps_markAll columns rows rs).bottom

/-- Two occupancies answer alike: about every rectangle that spans a cell,
about every cell, and about the bottom. -/
structure Alike (o o' : Occupancy) : Prop where
  isFree : ∀ r : Rect, r.Proper → o.isFree r = o'.isFree r
  isOccupied : ∀ x y, o.isOccupied x y = o'.isOccupied x y
  bottom : o.bottom = o'.bottom

/-- The answers depend on which rectangles there are, not on their order. -/
theorem AnswersFor.alike {o o' : Occupancy} {rs rs' : List Rect} (h : o.AnswersFor rs)
    (h' : o'.AnswersFor rs') (same : ∀ r, r ∈ rs ↔ r ∈ rs') : o.Alike o' where
  isFree r hr := by
    rw [h.isFree r hr, h'.isFree r hr]
    congr 1
    rw [Bool.eq_iff_iff]
    simp only [List.any_eq_true, same]
  isOccupied x y := by
    rw [h.isOccupied, h'.isOccupied, Bool.eq_iff_iff]
    simp only [List.any_eq_true, same]
  bottom := by
    have hbound : ∀ n, o.bottom ≤ n ↔ o'.bottom ≤ n := by
      intro n
      simp only [h.bottom, h'.bottom, same]
    exact UInt32.le_antisymm ((hbound _).mpr (UInt32.le_refl _)) ((hbound _).mp (UInt32.le_refl _))

/-- **The window is only an optimisation.**  However rectangles that span a
cell are marked, through whatever window and in whatever order, the answers are
those of the widest window, which are the answers of the rectangles. -/
theorem answers_without_window (columns rows : UInt32) {rs rs' : List Rect}
    (proper : ∀ r ∈ rs, r.Proper) (order : rs.Perm rs') :
    (empty.markAll rs).AnswersFor rs ∧
      ((windowed columns rows).markAll rs).Alike (empty.markAll rs) ∧
      ((windowed columns rows).markAll rs).Alike ((windowed columns rows).markAll rs') ∧
      (empty.markAll rs).Alike (empty.markAll rs') := by
  have proper' : ∀ r ∈ rs', r.Proper := fun r hr => proper r (order.mem_iff.mpr hr)
  have hwindow := answersFor_markAll columns rows proper
  have hwidest := answersFor_markAll maxCells maxCells proper
  exact ⟨hwidest, hwindow.alike hwidest fun _ => Iff.rfl,
    hwindow.alike (answersFor_markAll columns rows proper') fun _ => order.mem_iff,
    hwidest.alike (answersFor_markAll maxCells maxCells proper') fun _ => order.mem_iff⟩

/-- A rectangle across the right and the lower edge of a window and one in the
last column, marked in either order. -/
theorem marks_across_window :
    let wide : Rect := ⟨2, 1, 10, 10⟩
    let last : Rect := ⟨maxCells, 0, 5, 2⟩
    ((∀ r ∈ [wide, last], r.Proper) ∧ [wide, last].Perm [last, wide]) ∧
      (empty.markAll [wide, last]).AnswersFor [wide, last] ∧
      ((windowed 4 3).markAll [wide, last]).Alike (empty.markAll [wide, last]) ∧
      ((windowed 4 3).markAll [wide, last]).Alike ((windowed 4 3).markAll [last, wide]) ∧
      (empty.markAll [wide, last]).Alike (empty.markAll [last, wide]) := by
  intro wide last
  have proper : ∀ r ∈ [wide, last], r.Proper := by decide
  have order : [wide, last].Perm [last, wide] := List.Perm.swap _ _ _
  exact ⟨⟨proper, order⟩, answers_without_window 4 3 proper order⟩

end Occupancy
end Dashboard.Grid
