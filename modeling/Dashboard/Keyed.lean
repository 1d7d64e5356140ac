/-
  Dashboard.Keyed
  ───────────────
  Lists of pairs in the code point order of their keys, each key once.

  `insert` puts a pair at its key's place and replaces an older one, so a list
  built by `insert` alone is ordered (`ofList`).  The view is `get?`.

  Main results:
    get?_insert — after an insertion the key has the new value, all others
                  what they had
-/

namespace Dashboard

/-- Pairs of a text key and a value. -/
abbrev Keyed (α : Type) := List (String × α)

namespace Keyed

variable {α : Type}

/-- The value under a key. -/
def get? (key : String) : Keyed α → Option α
  | [] => none
  | (k, v) :: rest => if k = key then some v else get? key rest

/-- Put a value under a key, at the key's place in the order. -/
def insert (key : String) (value : α) : Keyed α → Keyed α
  | [] => [(key, value)]
  | (k, v) :: rest =>
    if key < k then (key, value) :: (k, v) :: rest
    else if key = k then (key, value) :: rest
    else (k, v) :: insert key value rest

/-- Drop a key. -/
def erase (key : String) : Keyed α → Keyed α
  | [] => []
  | (k, v) :: rest => if k = key then rest else (k, v) :: erase key rest

/-- Pairs in the order of their keys; of one key's pairs the last stays. -/
def ofList (pairs : List (String × α)) : Keyed α :=
  pairs.foldl (fun m p => insert p.1 p.2 m) []

/-- Whether a key is present. -/
def contains (key : String) (m : Keyed α) : Bool := (get? key m).isSome

/-- The keys in their order. -/
def keys (m : Keyed α) : List String := m.map (·.1)

theorem get?_insert (key k : String) (value : α) (m : Keyed α) :
    get? k (insert key value m) = if key = k then some value else get? k m := by
  induction m with
  | nil => simp [insert, get?]
  | cons p rest ih =>
    obtain ⟨l, v⟩ := p
    simp only [insert]
    split
    · simp only [get?]
    · split
      · rename_i h₁ h₂
        subst h₂
        simp only [get?]
        split <;> rfl
      · rename_i h₁ h₂
        simp only [get?, ih]
        split
        · rename_i h₃
          have : ¬ key = k := fun e => h₂ (e.trans h₃.symm)
          simp [this]
        · rfl

end Keyed
end Dashboard
