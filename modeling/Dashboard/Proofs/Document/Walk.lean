/-
  Dashboard.Proofs.Document.Walk
  ──────────────────────────────
  **A WALK OVER A LIST ENDS AT ITS FIRST FAULTY ITEM.**

  Pages and panels are checked by one walk: every item at its index, and no id
  twice.  An item stops the walk if its check refuses it, or if its id was
  given by an item before it; the items before it have passed, and those
  behind it are not looked at.

  Main results:
    panels_eq_walk, pages_eq_walk — both lists are walked so
    walk_eq_error_iff             — where a walk ends, and why
-/
import Dashboard.Proofs.Document.Check
import Dashboard.Proofs.Document.Soundness

namespace Dashboard

open Grid Json Time

/-! ## §1. Walks. -/

/-- How the items of a list are checked: each on its own, with the id that it
gives and the fault of an id that is given twice. -/
structure ItemCheck (α : Type) where
  check : Value → Path → Check α
  id : α → String
  twice : String → Fault

namespace ItemCheck

variable {α : Type} (c : ItemCheck α) (path : Path)

/-- The items of a list from an index on, each id once. -/
def walk : Nat → List String → List Value → Check (List α)
  | _, _, [] => .done []
  | i, seen, x :: rest => do
    let a ← c.check x (path.index i)
    if seen.contains (c.id a) then Check.fail ((path.index i).key "id") (c.twice (c.id a))
    else
      let more ← walk (i + 1) (c.id a :: seen) rest
      Check.done (a :: more)

end ItemCheck

namespace Validation

variable (o : ValidationOptions) (now : Instant)

/-- The panels of a layout's data, on the layout's own grid if it has a usable one. -/
def panelItems (layout : Value) : ItemCheck Panel :=
  ⟨fun x path => panel o now x path (columnsOf o layout), (·.id), .duplicatePanel⟩

/-- The pages of a document's data. -/
def pageItems (_ : Value) : ItemCheck Page := ⟨page o now, (·.id), .duplicatePage⟩

theorem panels_eq_walk (path : Path) (layout : Value) (items : List Value) (i : Nat)
    (seen : List String) :
    panels o now path (columnsOf o layout) i seen items
      = (panelItems o now layout).walk path i seen items := by
  induction items generalizing i seen with
  | nil => rfl
  | cons x rest ih =>
      rw [panels, ItemCheck.walk]
      simp only [ih]
      rfl

theorem pages_eq_walk (path : Path) (v : Value) (items : List Value) (i : Nat)
    (seen : List String) :
    pages o now path i seen items = (pageItems o now v).walk path i seen items := by
  induction items generalizing i seen with
  | nil => rfl
  | cons x rest ih =>
      rw [pages, ItemCheck.walk]
      simp only [ih]
      rfl

end Validation

/-! ## §2. The end of a walk. -/

namespace Check

variable {α β : Type}

/-- A refusal ends a sequence. -/
theorem bind_of_error {c : Check α} {e : ValidationError} (h : c = .error e) (f : α → Check β) :
    (c >>= f) = .error e := by
  rw [h]
  rfl

/-- So does the refusal of the next check. -/
theorem bind_error_of_ok {c : Check α} {f : α → Check β} {a : α} {ws : List Warning}
    {e : ValidationError} (hc : c = .ok (a, ws)) (hf : f a = .error e) :
    (c >>= f) = .error e := by
  rw [bind_of_eq_ok hc, hf]
  rfl

end Check

namespace ItemCheck

variable {α : Type} (c : ItemCheck α) (path : Path)

/-- The items pass: each is accepted, and gives an id that is new. -/
inductive Passes : Nat → List String → List Value → List String → Prop
  | nil (i : Nat) (seen : List String) : Passes i seen [] seen
  | cons {i : Nat} {seen seen' : List String} {x : Value} {a : α} {ws : List Warning}
    {rest : List Value} (accepted : c.check x (path.index i) = .ok (a, ws))
    (fresh : seen.contains (c.id a) = false) (more : Passes (i + 1) (c.id a :: seen) rest seen') :
    Passes i seen (x :: rest) seen'

/-- The item at a place stops a walk that has seen some ids. -/
inductive Stops (x : Value) (p : Path) (seen : List String) : ValidationError → Prop
  | refused {e : ValidationError} (h : c.check x p = .error e) : Stops x p seen e
  | again {a : α} {ws : List Warning} (accepted : c.check x p = .ok (a, ws))
    (given : seen.contains (c.id a) = true) :
    Stops x p seen (.schema (c.twice (c.id a)) (p.key "id"))

variable {c path} {i : Nat} {seen seen' : List String} {e : ValidationError}

theorem walk_of_stops {x : Value} (h : c.Stops x (path.index i) seen e) (rest : List Value) :
    c.walk path i seen (x :: rest) = .error e := by
  rw [walk]
  cases h with
  | refused h => exact Check.bind_of_error h _
  | again accepted given =>
      refine Check.bind_error_of_ok accepted ?_
      rw [if_pos given]
      rfl

/-- One item that passes leaves the rest of the walk. -/
theorem walk_of_passed {x : Value} {a : α} {ws : List Warning} {rest : List Value}
    (accepted : c.check x (path.index i) = .ok (a, ws)) (fresh : seen.contains (c.id a) = false)
    (h : c.walk path (i + 1) (c.id a :: seen) rest = .error e) :
    c.walk path i seen (x :: rest) = .error e := by
  rw [walk]
  refine Check.bind_error_of_ok accepted ?_
  rw [if_neg (Bool.not_eq_true _ ▸ fresh)]
  exact Check.bind_of_error h _

/-- So do any number of items that pass. -/
theorem Passes.walk_append {before : List Value} (h : c.Passes path i seen before seen')
    {rest : List Value} (hrest : c.walk path (i + before.length) seen' rest = .error e) :
    c.walk path i seen (before ++ rest) = .error e := by
  induction h with
  | nil i seen => exact hrest
  | cons accepted fresh more ih =>
      refine walk_of_passed accepted fresh (ih ?_)
      rw [List.length_cons] at hrest
      rwa [Nat.add_assoc, Nat.add_comm 1]

theorem Passes.lenient {before : List Value} (h : c.Passes path i seen before seen') {j : Nat}
    {y : Value} (hy : before[j]? = some y) : (c.check y (path.index (i + j))).Lenient := by
  induction h generalizing j with
  | nil i seen => cases hy
  | cons accepted fresh more ih =>
      cases j with
      | zero =>
          cases hy
          exact ⟨_, _, accepted⟩
      | succ j =>
          have hlater := ih hy
          rwa [Nat.add_assoc, Nat.add_comm 1] at hlater

/-- **A walk ends in an error exactly if it comes to an item that stops it**,
after items that all pass. -/
theorem walk_eq_error_iff {xs : List Value} :
    c.walk path i seen xs = .error e ↔
      ∃ before x after seen', xs = before ++ x :: after ∧ c.Passes path i seen before seen' ∧
        c.Stops x (path.index (i + before.length)) seen' e := by
  constructor
  · intro h
    induction xs generalizing i seen with
    | nil => cases h
    | cons x rest ih =>
        rw [walk] at h
        rcases Check.bind_eq_error h with hx | ⟨a, ws, hx, h⟩
        · exact ⟨[], x, rest, seen, rfl, .nil i seen, .refused hx⟩
        · by_cases given : seen.contains (c.id a) = true
          · rw [if_pos given] at h
            cases h
            exact ⟨[], x, rest, seen, rfl, .nil i seen, .again hx given⟩
          · -- the item passes, so the walk ends further on
            rw [if_neg given] at h
            rcases Check.bind_eq_error h with h | ⟨as, ws', -, h⟩
            · obtain ⟨before, y, after, seen', rfl, hbefore, hy⟩ := ih h
              refine ⟨x :: before, y, after, seen', rfl,
                .cons hx (Bool.not_eq_true _ ▸ given) hbefore, ?_⟩
              rwa [List.length_cons, Nat.add_comm before.length, ← Nat.add_assoc]
            · cases h
  · rintro ⟨before, x, after, seen', rfl, hbefore, hx⟩
    exact hbefore.walk_append (walk_of_stops hx after)

end ItemCheck

end Dashboard
