/-
  Dashboard.Proofs.Json.Reading
  ─────────────────────────────
  **A PRINTED VALUE IS READ BACK.**

  The reader goes through the lexemes of a value as if they were one: whatever
  containers are open, it hands the whole value to the innermost one.  The
  induction is on the value; the containers that it opens on the way have to
  fit under the limit, which `Value.depth` counts.

  Main results:
    run_tokens              — the lexemes of a value hand it over
    readWritten_compact, readWritten_pretty — both texts are read back
    readNormal_compact      — the compact one also as the normal form
-/
import Dashboard.Json.Reader
import Dashboard.Proofs.Json.Lexing
import Dashboard.Proofs.Keyed

namespace Dashboard.Json

/-! ## §1. Depth. -/

mutual

/-- How many containers are open at most while the value is read. -/
def Value.depth : Value → Nat
  | .list items => itemDepth items + 1
  | .object m => memberDepth m + 1
  | _ => 0

/-- The greatest depth of the items. -/
def itemDepth : List Value → Nat
  | [] => 0
  | v :: rest => max v.depth (itemDepth rest)

/-- The greatest depth of the members. -/
def memberDepth : Members → Nat
  | [] => 0
  | (_, v) :: rest => max v.depth (memberDepth rest)

end

/-! ## §2. Lexemes of a value. -/

namespace Reading

/-- Where a value may begin. -/
def Begins (r : Reading) : Prop := r.mode = .value ∨ r.mode = .firstItem

/-- A lexeme that begins a value and closes nothing. -/
theorem step_of_begins {r : Reading} (h : r.Begins) (t : Token) (ht : t ≠ .closeList) :
    r.step t = r.begin? t := by
  obtain ⟨mode, stack, result⟩ := r
  rcases h with rfl | rfl
  · rfl
  · cases t with
    | closeList => exact (ht rfl).elim
    | _ => rfl

theorem run_cons {r r' : Reading} {t : Token} (h : r.step t = some r') (ts : List Token) :
    r.run (t :: ts) = r'.run ts := by
  rw [run, h]
  rfl

/-- A lexeme that is a whole value. -/
theorem run_scalar {r : Reading} (h : r.Begins) (t : Token) {v : Value} (ht : t ≠ .closeList)
    (hv : r.begin? t = r.supply v) (ts : List Token) :
    r.run (t :: ts) = (r.supply v).bind (·.run ts) := by
  rw [run, step_of_begins h t ht, hv]

theorem run_key {mode : Mode} (h : mode = .key ∨ mode = .firstKey) (k : String) (m : Members)
    (stack : List Frame) (ts : List Token) :
    (Reading.mk mode (.object m :: stack) none).run (.text k :: .colon :: ts)
      = (Reading.mk .value (.member k m :: stack) none).run ts := by
  rcases h with rfl | rfl <;> rfl

theorem run_open {r : Reading} {t : Token} {mode : Mode} {f : Frame}
    (h : r.step t = r.open? mode f) (hdepth : r.stack.length < nestingLimit) (ts : List Token) :
    r.run (t :: ts) = (Reading.mk mode (f :: r.stack) none).run ts := by
  refine run_cons (h.trans ?_) ts
  rw [open?, if_pos hdepth]

mutual

/-- **The lexemes of a value hand it over** to the innermost container. -/
theorem run_tokens : (v : Value) → (r : Reading) → r.Begins →
    r.stack.length + v.depth ≤ nestingLimit → (ts : List Token) →
    r.run (v.tokens ++ ts) = (r.supply v).bind (·.run ts)
  | .null, _, h, _, ts => run_scalar h .null nofun rfl ts
  | .bool b, _, h, _, ts => run_scalar h (.bool b) nofun rfl ts
  | .number n, _, h, _, ts => run_scalar h (.number n) nofun rfl ts
  | .text s, _, h, _, ts => run_scalar h (.text s) nofun rfl ts
  | .list [], r, h, hdepth, ts => by
      have hroom : r.stack.length < nestingLimit := hdepth
      show r.run (.openList :: .closeList :: ts) = _
      rw [run_open (step_of_begins h .openList nofun) hroom]
      rfl
  | .list (v :: rest), r, h, hdepth, ts => by
      have hroom : r.stack.length < nestingLimit := by
        simp only [Value.depth] at hdepth
        omega
      -- the list is open, with no item yet
      show r.run (.openList :: (itemTokens (v :: rest) ++ [.closeList] ++ ts)) = _
      rw [run_open (step_of_begins h .openList nofun) hroom, List.append_assoc]
      exact run_itemTokens (v :: rest) nofun .firstItem [] r.stack (Or.inr rfl) hdepth ts
  | .object [], r, h, hdepth, ts => by
      have hroom : r.stack.length < nestingLimit := hdepth
      show r.run (.openObject :: .closeObject :: ts) = _
      rw [run_open (step_of_begins h .openObject nofun) hroom]
      rfl
  | .object ((k, v) :: rest), r, h, hdepth, ts => by
      have hroom : r.stack.length < nestingLimit := by
        simp only [Value.depth] at hdepth
        omega
      -- the object is open, with no member yet
      show r.run (.openObject :: (memberTokens ((k, v) :: rest) ++ [.closeObject] ++ ts)) = _
      rw [run_open (step_of_begins h .openObject nofun) hroom, List.append_assoc]
      exact run_memberTokens ((k, v) :: rest) nofun .firstKey [] r.stack (Or.inr rfl) hdepth ts

/-- The items of a list up to its end. -/
theorem run_itemTokens : (items : List Value) → items ≠ [] → (mode : Mode) →
    (acc : List Value) → (stack : List Frame) → mode = .value ∨ mode = .firstItem →
    stack.length + (itemDepth items + 1) ≤ nestingLimit → (ts : List Token) →
    (Reading.mk mode (.list acc :: stack) none).run (itemTokens items ++ .closeList :: ts)
      = (supply ⟨.next, stack, none⟩ (.list (acc.reverse ++ items))).bind (·.run ts)
  | [], hne, _, _, _, _, _, _ => (hne rfl).elim
  | [v], _, mode, acc, stack, h, hdepth, ts => by
      simp only [itemDepth] at hdepth
      show (Reading.mk mode (.list acc :: stack) none).run (v.tokens ++ .closeList :: ts) = _
      rw [run_tokens v ⟨mode, .list acc :: stack, none⟩ h (by simp only [List.length_cons]; omega)]
      show ((supply ⟨.next, stack, none⟩ (.list (v :: acc).reverse)).bind (·.run ts)) = _
      rw [List.reverse_cons]
  | v :: w :: rest, _, mode, acc, stack, h, hdepth, ts => by
      have hv : v.depth ≤ itemDepth (v :: w :: rest) := Nat.le_max_left _ _
      have hrest : itemDepth (w :: rest) ≤ itemDepth (v :: w :: rest) := Nat.le_max_right _ _
      show (Reading.mk mode (.list acc :: stack) none).run
        (v.tokens ++ .comma :: itemTokens (w :: rest) ++ .closeList :: ts) = _
      -- the first item is handed to the open list, then the comma asks for another
      rw [List.append_assoc, run_tokens v ⟨mode, .list acc :: stack, none⟩ h
        (by simp only [List.length_cons]; omega)]
      show (Reading.mk .value (.list (v :: acc) :: stack) none).run
        (itemTokens (w :: rest) ++ .closeList :: ts) = _
      rw [run_itemTokens (w :: rest) nofun .value (v :: acc) stack (Or.inl rfl) (by omega),
        List.reverse_cons, List.append_assoc]
      rfl

/-- The members of an object up to its end. -/
theorem run_memberTokens : (m : Members) → m ≠ [] → (mode : Mode) → (acc : Members) →
    (stack : List Frame) → mode = .key ∨ mode = .firstKey →
    stack.length + (memberDepth m + 1) ≤ nestingLimit → (ts : List Token) →
    (Reading.mk mode (.object acc :: stack) none).run (memberTokens m ++ .closeObject :: ts)
      = (supply ⟨.next, stack, none⟩ (.object (acc.reverse ++ m))).bind (·.run ts)
  | [], hne, _, _, _, _, _, _ => (hne rfl).elim
  | [(k, v)], _, mode, acc, stack, h, hdepth, ts => by
      simp only [memberDepth] at hdepth
      show (Reading.mk mode (.object acc :: stack) none).run
        (.text k :: .colon :: (v.tokens ++ .closeObject :: ts)) = _
      rw [run_key h, run_tokens v _ (Or.inl rfl) (by simp only [List.length_cons]; omega)]
      show ((supply ⟨.next, stack, none⟩ (.object ((k, v) :: acc).reverse)).bind (·.run ts)) = _
      rw [List.reverse_cons]
  | (k, v) :: (l, w) :: rest, _, mode, acc, stack, h, hdepth, ts => by
      have hv : v.depth ≤ memberDepth ((k, v) :: (l, w) :: rest) := Nat.le_max_left _ _
      have hrest : memberDepth ((l, w) :: rest) ≤ memberDepth ((k, v) :: (l, w) :: rest) :=
        Nat.le_max_right _ _
      show (Reading.mk mode (.object acc :: stack) none).run
        (.text k :: .colon :: (v.tokens ++ .comma :: memberTokens ((l, w) :: rest) ++
          .closeObject :: ts)) = _
      rw [run_key h, List.append_assoc, run_tokens v _ (Or.inl rfl)
        (by simp only [List.length_cons]; omega)]
      show (Reading.mk .key (.object ((k, v) :: acc) :: stack) none).run
        (memberTokens ((l, w) :: rest) ++ .closeObject :: ts) = _
      rw [run_memberTokens ((l, w) :: rest) nofun .key ((k, v) :: acc) stack (Or.inl rfl) (by omega),
        List.reverse_cons, List.append_assoc]
      rfl

end

end Reading

/-! ## §3. Whole texts. -/

theorem ofTokens?_tokens {v : Value} (h : v.depth ≤ nestingLimit) :
    ofTokens? v.tokens = some v := by
  have hrun := Reading.run_tokens v ⟨.value, [], none⟩ (Or.inl rfl) (by simpa using h) []
  rw [List.append_nil] at hrun
  rw [ofTokens?, hrun]
  rfl

/-- A text is read as the lexemes are that it spells. -/
theorem Spells.ofTokens? {cs : List Char} {ts : List Token} (h : Spells cs ts) :
    readWritten (String.ofList cs) = Json.ofTokens? ts := by
  have hlex := h [] (nofun)
  have hnil : lex [] = some [] := by rw [lex]
  rw [List.append_nil, hnil] at hlex
  rw [Json.readWritten, String.toList_ofList, hlex]
  show Json.ofTokens? (ts ++ []) = _
  rw [List.append_nil]

/-- A text that spells the lexemes of a value is read as it. -/
theorem Spells.readWritten {cs : List Char} {v : Value} (h : Spells cs v.tokens)
    (hdepth : v.depth ≤ nestingLimit) : readWritten (String.ofList cs) = some v := by
  rw [h.ofTokens?, ofTokens?_tokens hdepth]

/-- **The compact text of a value is read back.** -/
theorem readWritten_compact {v : Value} (whole : v.isWhole = true)
    (depth : v.depth ≤ nestingLimit) : readWritten v.compact = some v :=
  (spells_render v whole).readWritten depth

/-- **The laid out text of a value is read back.** -/
theorem readWritten_pretty {v : Value} (whole : v.isWhole = true)
    (depth : v.depth ≤ nestingLimit) : readWritten v.pretty = some v :=
  (spells_layout 0 v whole).readWritten depth

/-! ## §4. Normal form. -/

mutual

/-- The members of every object are in order, each key once. -/
def Value.isNormal : Value → Bool
  | .list items => allNormal items
  | .object m => decide (Keyed.Sorted m) && allNormalMembers m
  | _ => true

/-- `Value.isNormal` of every item. -/
def allNormal : List Value → Bool
  | [] => true
  | v :: rest => v.isNormal && allNormal rest

/-- `Value.isNormal` of every member. -/
def allNormalMembers : Members → Bool
  | [] => true
  | (_, v) :: rest => v.isNormal && allNormalMembers rest

end

mutual

/-- A value in normal form is its own normal form. -/
theorem Value.normalize_of_normal : (v : Value) → v.isNormal = true → v.normalize = v
  | .null, _ => rfl
  | .bool _, _ => rfl
  | .number _, _ => rfl
  | .text _, _ => rfl
  | .list items, h => by rw [Value.normalize, normalizeItems_of_normal items h]
  | .object m, h => by
      obtain ⟨hsorted, hm⟩ := (Bool.and_eq_true _ _).mp h
      rw [Value.normalize, normalizeMembers_of_normal m hm,
        Keyed.ofList_of_sorted (of_decide_eq_true hsorted)]

theorem normalizeItems_of_normal : (items : List Value) → allNormal items = true →
    normalizeItems items = items
  | [], _ => rfl
  | v :: rest, h => by
      obtain ⟨hv, hrest⟩ := (Bool.and_eq_true _ _).mp h
      rw [normalizeItems, v.normalize_of_normal hv, normalizeItems_of_normal rest hrest]

theorem normalizeMembers_of_normal : (m : Members) → allNormalMembers m = true →
    normalizeMembers m = m
  | [], _ => rfl
  | (k, v) :: rest, h => by
      obtain ⟨hv, hrest⟩ := (Bool.and_eq_true _ _).mp h
      rw [normalizeMembers, v.normalize_of_normal hv, normalizeMembers_of_normal rest hrest]

end

/-- **The compact text of a value** is read as its normal form. -/
theorem readNormal_compact {v : Value} (whole : v.isWhole = true)
    (depth : v.depth ≤ nestingLimit) : readNormal v.compact = some v.normalize := by
  rw [readNormal, readWritten_compact whole depth]
  rfl

end Dashboard.Json
