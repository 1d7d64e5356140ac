/-
  Dashboard.Proofs.Keyed
  ──────────────────────
  Keyed lists in order, and what each operation leaves under a key.

  `insert` and `erase` keep the order, and a list that is in order already is
  its own keyed form.  All later reasoning about slots and records looks
  through `get?` only.

  Main results:
    get?_erase           — a dropped key is absent, all others stay
    get?_ofList_of_nodup — a list of distinct keys keeps all its pairs
    ofList_of_sorted     — a list in order is its own keyed form
    ext_of_sorted        — two lists in order that answer alike are equal
    get?_modify          — a value changed in its place
-/
import Dashboard.Keyed
import Mathlib.Data.String.Basic

namespace Dashboard.Keyed

variable {α : Type}

/-! ## §1. Keys. -/

/-- A key that no member has is not found. -/
theorem get?_eq_none_of_notMem {key : String} {m : Keyed α}
    (h : key ∉ m.map (·.1)) : get? key m = none := by
  induction m with
  | nil => rfl
  | cons p rest ih =>
      obtain ⟨k, v⟩ := p
      simp only [List.map_cons, List.mem_cons, not_or] at h
      rw [get?, if_neg (Ne.symm h.1), ih h.2]

/-- What is found is a member. -/
theorem mem_of_get? {key : String} {value : α} {m : Keyed α}
    (h : get? key m = some value) : (key, value) ∈ m := by
  induction m with
  | nil => simp [get?] at h
  | cons p rest ih =>
      obtain ⟨k, v⟩ := p
      rw [get?] at h
      by_cases hk : k = key
      · rw [if_pos hk] at h
        injection h with hv
        rw [hk, hv]
        exact List.mem_cons_self
      · rw [if_neg hk] at h
        exact List.mem_cons_of_mem _ (ih h)

/-- Not found means not among the keys. -/
theorem get?_eq_none_iff {key : String} {m : Keyed α} : get? key m = none ↔ key ∉ m.keys := by
  refine ⟨fun h hmem => ?_, get?_eq_none_of_notMem⟩
  induction m with
  | nil => exact nomatch hmem
  | cons p rest ih =>
      obtain ⟨k, v⟩ := p
      rw [get?] at h
      by_cases hk : k = key
      · rw [if_pos hk] at h
        cases h
      · rw [if_neg hk] at h
        exact ih h ((List.mem_cons.mp hmem).resolve_left (Ne.symm hk))

/-- Distinct keys: the keyed form answers as the list does. -/
theorem get?_foldl_insert (k : String) (pairs : List (String × α))
    (nodup : (pairs.map (·.1)).Nodup) (m : Keyed α) :
    get? k (pairs.foldl (fun m p => insert p.1 p.2 m) m) = (get? k pairs).or (get? k m) := by
  induction pairs generalizing m with
  | nil => rfl
  | cons p rest ih =>
      obtain ⟨l, v⟩ := p
      rw [List.map_cons, List.nodup_cons] at nodup
      rw [List.foldl_cons, ih nodup.2, get?_insert, get?]
      by_cases h : l = k
      · -- no later pair has the key, so this one is not overwritten
        subst h
        rw [get?_eq_none_of_notMem nodup.1]
        simp
      · simp [h]

/-- Where no key is repeated, putting pairs in key order changes no answer. -/
theorem get?_ofList_of_nodup (k : String) (pairs : List (String × α))
    (nodup : (pairs.map (·.1)).Nodup) : get? k (ofList pairs) = get? k pairs := by
  rw [ofList, get?_foldl_insert k pairs nodup]
  simp [get?]

/-! ## §2. Order. -/

/-- The keys ascend strictly. -/
def Sorted (m : Keyed α) : Prop := m.Pairwise fun p q => p.1 < q.1

instance (m : Keyed α) : Decidable (Sorted m) :=
  inferInstanceAs (Decidable (m.Pairwise fun p q => p.1 < q.1))

/-- After an insertion there is the new member, and old ones. -/
theorem mem_insert {key : String} {value : α} {m : Keyed α} {p : String × α}
    (h : p ∈ insert key value m) : p = (key, value) ∨ p ∈ m := by
  induction m with
  | nil => exact Or.inl (by simpa [insert] using h)
  | cons q rest ih =>
      obtain ⟨k, v⟩ := q
      rw [insert] at h
      split at h
      · -- in front of the head
        rcases List.mem_cons.mp h with h | h
        · exact Or.inl h
        · exact Or.inr h
      · split at h
        · -- in its place
          rcases List.mem_cons.mp h with h | h
          · exact Or.inl h
          · exact Or.inr (List.mem_cons_of_mem _ h)
        · -- somewhere behind it
          rcases List.mem_cons.mp h with h | h
          · exact Or.inr (h ▸ List.mem_cons_self)
          · rcases ih h with h | h
            · exact Or.inl h
            · exact Or.inr (List.mem_cons_of_mem _ h)

/-- The keys after an insertion: the one inserted, and the old ones. -/
theorem any_insert (q : String → Bool) (key : String) (value : α) (m : Keyed α) :
    (insert key value m).any (fun p => q p.1) = (q key || m.any fun p => q p.1) := by
  induction m with
  | nil => rfl
  | cons p rest ih =>
      obtain ⟨k, v⟩ := p
      rw [insert]
      split
      · rfl
      · split
        next heq =>
          subst heq
          simp
        next =>
          rw [List.any_cons, ih, List.any_cons, Bool.or_left_comm]

/-- Insertion keeps the order of the keys. -/
theorem Sorted.insert {m : Keyed α} (h : Sorted m) (key : String) (value : α) :
    Sorted (Keyed.insert key value m) := by
  induction m with
  | nil => exact List.pairwise_singleton _ _
  | cons q rest ih =>
      obtain ⟨k, v⟩ := q
      obtain ⟨hk, hrest⟩ := List.pairwise_cons.mp h
      rw [Keyed.insert]
      split
      next hlt =>
        -- the key lies below the head, hence below all keys
        refine List.pairwise_cons.mpr ⟨?_, h⟩
        intro p hp
        rcases List.mem_cons.mp hp with rfl | hp
        · exact hlt
        · exact lt_trans hlt (hk p hp)
      next hnlt =>
        split
        next heq =>
          subst heq
          exact List.pairwise_cons.mpr ⟨hk, hrest⟩
        next hne =>
          -- the key lies strictly above the head, so the head stays first
          have hgt : k < key := lt_of_le_of_ne (not_lt.mp hnlt) (Ne.symm hne)
          refine List.pairwise_cons.mpr ⟨?_, ih hrest⟩
          intro p hp
          rcases mem_insert hp with rfl | hp
          · exact hgt
          · exact hk p hp

/-- Removal only drops members. -/
theorem erase_sublist (key : String) (m : Keyed α) : (erase key m).Sublist m := by
  induction m with
  | nil => exact List.Sublist.refl _
  | cons q rest ih =>
      obtain ⟨k, v⟩ := q
      rw [erase]
      split
      · exact List.sublist_cons_self _ _
      · exact ih.cons_cons _

theorem Sorted.erase {m : Keyed α} (h : Sorted m) (key : String) :
    Sorted (Keyed.erase key m) :=
  List.Pairwise.sublist (erase_sublist key m) h

/-- In key order no key is repeated. -/
theorem Sorted.nodup {m : Keyed α} (h : Sorted m) : (m.map (·.1)).Nodup := by
  refine List.pairwise_map.mpr (h.imp ?_)
  intro p q hlt
  exact ne_of_lt hlt

/-- Removal leaves the other keys. -/
theorem get?_erase_of_ne {key k : String} (hk : k ≠ key) (m : Keyed α) :
    get? k (erase key m) = get? k m := by
  induction m with
  | nil => rfl
  | cons q rest ih =>
      obtain ⟨l, v⟩ := q
      rw [erase]
      by_cases hl : l = key
      · rw [if_pos hl, get?, if_neg (fun h => hk (h.symm.trans hl))]
      · rw [if_neg hl, get?, get?, ih]

/-- In key order a removal drops all there is of its key. -/
theorem get?_erase_self {m : Keyed α} (h : Sorted m) (key : String) :
    get? key (erase key m) = none := by
  induction m with
  | nil => rfl
  | cons q rest ih =>
      obtain ⟨l, v⟩ := q
      obtain ⟨hl, hrest⟩ := List.pairwise_cons.mp h
      rw [erase]
      by_cases hk : l = key
      · -- the head is dropped, and the keys behind it lie above
        subst hk
        rw [if_pos rfl]
        apply get?_eq_none_of_notMem
        intro hmem
        obtain ⟨p, hp, heq⟩ := List.mem_map.mp hmem
        exact absurd heq.symm (ne_of_lt (hl p hp))
      · rw [if_neg hk, get?, if_neg hk, ih hrest]

theorem get?_erase {m : Keyed α} (h : Sorted m) (key k : String) :
    get? k (erase key m) = if key = k then none else get? k m := by
  split
  next hk => rw [← hk, get?_erase_self h key]
  next hk => exact get?_erase_of_ne (Ne.symm hk) m

/-- There is nothing to remove under a key that is not there. -/
theorem erase_of_get?_eq_none {key : String} {m : Keyed α} (h : get? key m = none) :
    erase key m = m := by
  induction m with
  | nil => rfl
  | cons q rest ih =>
      obtain ⟨k, v⟩ := q
      rw [get?] at h
      by_cases hk : k = key
      · rw [if_pos hk] at h
        cases h
      · rw [if_neg hk] at h
        rw [erase, if_neg hk, ih h]

/-! ## §3. The keyed form. -/

/-- The keyed form is in key order. -/
theorem sorted_ofList (pairs : List (String × α)) : Sorted (ofList pairs) := by
  have step : ∀ (pairs : List (String × α)) (m : Keyed α), Sorted m →
      Sorted (pairs.foldl (fun m p => Keyed.insert p.1 p.2 m) m) := by
    intro pairs
    induction pairs with
    | nil => intro m hm; exact hm
    | cons p rest ih => intro m hm; exact ih _ (hm.insert _ _)
  exact step pairs [] List.Pairwise.nil

/-- A key above all others goes to the end. -/
theorem insert_of_above (key : String) (value : α) (m : Keyed α)
    (h : ∀ p ∈ m, p.1 < key) : insert key value m = m ++ [(key, value)] := by
  induction m with
  | nil => rfl
  | cons q rest ih =>
      obtain ⟨k, v⟩ := q
      have hlt : k < key := h (k, v) List.mem_cons_self
      rw [insert, if_neg (not_lt.mpr (le_of_lt hlt)), if_neg (ne_of_gt hlt),
        ih fun p hp => h p (List.mem_cons_of_mem _ hp)]
      rfl

/-- Pairs in key order are inserted one behind the other. -/
theorem foldl_insert_of_sorted (pairs m : Keyed α) (h : Sorted (m ++ pairs)) :
    pairs.foldl (fun m p => insert p.1 p.2 m) m = m ++ pairs := by
  induction pairs generalizing m with
  | nil => simp
  | cons p rest ih =>
      -- what is there already lies below the next key
      have habove : ∀ q ∈ m, q.1 < p.1 := by
        intro q hq
        exact (List.pairwise_append.mp h).2.2 q hq p List.mem_cons_self
      rw [List.foldl_cons, insert_of_above p.1 p.2 m habove]
      show rest.foldl _ (m ++ [p]) = m ++ p :: rest
      rw [ih (m ++ [p]) (by simpa using h)]
      simp

/-- What is in key order stays as it is. -/
theorem ofList_of_sorted {m : Keyed α} (h : Sorted m) : ofList m = m := by
  rw [ofList, foldl_insert_of_sorted m [] (by simpa using h)]
  rfl

/-! ## §4. Equal answers. -/

/-- The first key of a list in order is found nowhere behind it. -/
theorem Sorted.get?_tail {k : String} {v : α} {rest : Keyed α} (h : Sorted ((k, v) :: rest)) :
    get? k rest = none := by
  apply get?_eq_none_of_notMem
  intro hmem
  obtain ⟨p, hp, heq⟩ := List.mem_map.mp hmem
  exact absurd heq.symm (ne_of_lt ((List.pairwise_cons.mp h).1 p hp))

/-- A key that a list in order has does not lie below its first one. -/
theorem Sorted.head_le {k l : String} {v w : α} {rest : Keyed α} (h : Sorted ((k, v) :: rest))
    (hl : get? l ((k, v) :: rest) = some w) : k ≤ l := by
  rcases List.mem_cons.mp (mem_of_get? hl) with heq | hmem
  · injection heq with hkey
    exact le_of_eq hkey.symm
  · exact le_of_lt ((List.pairwise_cons.mp h).1 _ hmem)

/-- **Two lists in order are equal as soon as they answer alike.** -/
theorem ext_of_sorted {m n : Keyed α} (hm : Sorted m) (hn : Sorted n)
    (h : ∀ k, get? k m = get? k n) : m = n := by
  have self : ∀ (k : String) (v : α) (rest : Keyed α), get? k ((k, v) :: rest) = some v :=
    fun k v rest => if_pos rfl
  induction m generalizing n with
  | nil =>
      cases n with
      | nil => rfl
      | cons q more => exact nomatch (h q.1).trans (self q.1 q.2 more)
  | cons p rest ih =>
      obtain ⟨k, v⟩ := p
      cases n with
      | nil => exact nomatch (h k).symm.trans (self k v rest)
      | cons q more =>
          obtain ⟨l, w⟩ := q
          -- each first key is in the other list, so neither lies below the other
          obtain rfl : k = l :=
            le_antisymm (hm.head_le ((h l).trans (self l w more)))
              (hn.head_le ((h k).symm.trans (self k v rest)))
          obtain rfl : v = w :=
            Option.some.inj ((self k v rest).symm.trans ((h k).trans (self k w more)))
          have hrest : rest = more := by
            refine ih (List.pairwise_cons.mp hm).2 (List.pairwise_cons.mp hn).2 fun j => ?_
            by_cases hj : k = j
            · rw [← hj, hm.get?_tail, hn.get?_tail]
            · have hboth := h j
              rwa [get?, get?, if_neg hj, if_neg hj] at hboth
          rw [hrest]

/-- What is there already is put in its own place. -/
theorem insert_of_get?_eq_some {key : String} {value : α} {m : Keyed α} (hm : Sorted m)
    (h : get? key m = some value) : insert key value m = m := by
  refine ext_of_sorted (hm.insert key value) hm fun k => ?_
  rw [get?_insert]
  split
  next hk => rw [← hk, h]
  next => rfl

/-! ## §5. Values changed in their place. -/

/-- Change the value under a key, if there is one. -/
def modify (key : String) (f : α → α) : Keyed α → Keyed α
  | [] => []
  | (k, v) :: rest => if k = key then (k, f v) :: rest else (k, v) :: modify key f rest

/-- A change under one key, seen under any key. -/
theorem get?_modify (key k : String) (f : α → α) (m : Keyed α) :
    get? k (modify key f m) = if key = k then (get? k m).map f else get? k m := by
  induction m with
  | nil => simp [modify, get?]
  | cons p rest ih =>
      obtain ⟨l, v⟩ := p
      rw [modify]
      by_cases hl : l = key
      · subst hl
        rw [if_pos rfl, get?, get?]
        split <;> rfl
      · rw [if_neg hl, get?, get?, ih]
        by_cases hk : l = k
        · -- the head has another key than the one that is changed
          subst hk
          rw [if_pos rfl, if_pos rfl, if_neg (Ne.symm hl)]
        · rw [if_neg hk, if_neg hk]

/-- A change that leaves the value leaves all members. -/
theorem modify_of_fixed {key : String} {f : α → α} {m : Keyed α}
    (h : ∀ v ∈ get? key m, f v = v) : modify key f m = m := by
  induction m with
  | nil => rfl
  | cons p rest ih =>
      obtain ⟨l, v⟩ := p
      rw [modify]
      by_cases hl : l = key
      · rw [if_pos hl, h v (by rw [get?, if_pos hl]; rfl)]
      · rw [if_neg hl, ih]
        intro w hw
        exact h w (by rw [get?, if_neg hl]; exact hw)

end Dashboard.Keyed
