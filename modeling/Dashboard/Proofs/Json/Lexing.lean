/-
  Dashboard.Proofs.Json.Lexing
  ────────────────────────────
  **WHAT IS PRINTED IS READ AS ITS LEXEMES.**

  `Spells` says that a piece of text is read as some lexemes whatever comes
  after it, as long as no number could go on there.  Pieces are put together
  one after the other, so the compact and the laid out text of a value spell
  the same lexemes, `Value.tokens`, by one induction each.

  Numbers are integers here; how doubles are printed and read is left to
  `Decimal`.

  Main results:
    spells_quoteList — a string literal
    spells_integer   — an integer
    spells_render    — the compact text of a value
    spells_layout    — its laid out text
-/
import Dashboard.Json.Printer
import Dashboard.Json.Token

namespace Dashboard.Json

/-! ## §1. String literals. -/

/-- A quotation mark ends the literal. -/
theorem scanString_close (acc rest : List Char) :
    scanString acc ('"' :: rest) = some (acc.reverse, rest) := by
  rw [scanString]

/-- A character that needs no escape is taken as it is. -/
theorem scanString_plain {c : Char} (hquote : c ≠ '"') (hslash : c ≠ '\\')
    (hc : ¬ c.toNat < 0x20) (acc rest : List Char) :
    scanString acc (c :: rest) = scanString (c :: acc) rest := by
  rw [scanString, if_neg hc]
  · exact hquote
  · exact fun _ _ _ _ _ _ _ _ _ h _ => hslash h
  · exact fun _ _ _ _ _ h _ => hslash h
  · exact fun _ _ h _ => hslash h

/-- A short escape stands for one character. -/
theorem scanString_short {c e : Char} (hu : c ≠ 'u') (he : shortEscape? c = some e)
    (acc rest : List Char) : scanString acc ('\\' :: c :: rest) = scanString (e :: acc) rest := by
  rw [scanString, he]
  · exact fun _ _ _ _ _ _ _ _ _ h _ => hu h
  · exact fun _ _ _ _ _ h _ => hu h

/-- An escape by four digits, of a character before the surrogates. -/
theorem scanString_quad {a b c d : Char} {n : Nat} (hn : hexQuad? a b c d = some n)
    (hs : n < 0xD800) (acc rest : List Char) :
    scanString acc ('\\' :: 'u' :: a :: b :: c :: d :: rest)
      = scanString (Char.ofNat n :: acc) rest := by
  rw [scanString.eq_def]
  split
  next heq => cases heq
  next heq =>
    -- another escape follows, which could have been the second half of a pair
    cases heq
    rw [hn]
    dsimp only
    rw [if_neg (by omega), if_neg (by omega)]
  next heq =>
    cases heq
    rw [hn]
    dsimp only
    rw [if_neg (by omega)]
  next hnone heq =>
    cases heq
    exact (hnone _ _ _ _ _ rfl rfl).elim
  next hnone heq =>
    cases heq
    exact (hnone _ _ rfl rfl).elim
  next heq => cases heq

/-- The characters that have an escape of two characters. -/
def shortEscaped : List Char :=
  ['"', '\\', Char.ofNat 8, Char.ofNat 12, '\n', '\r', '\t']

/-- The characters with a short escape. -/
theorem escapeChar_of_short {c : Char} (h : c ∈ shortEscaped) :
    ∃ e, e ≠ 'u' ∧ shortEscape? e = some c ∧ escapeChar c = ['\\', e] := by
  simp only [shortEscaped, List.mem_cons, List.not_mem_nil, or_false] at h
  rcases h with rfl | rfl | rfl | rfl | rfl | rfl | rfl
  · exact ⟨'"', by decide, rfl, rfl⟩
  · exact ⟨'\\', by decide, rfl, rfl⟩
  · exact ⟨'b', by decide, rfl, rfl⟩
  · exact ⟨'f', by decide, rfl, rfl⟩
  · exact ⟨'n', by decide, rfl, rfl⟩
  · exact ⟨'r', by decide, rfl, rfl⟩
  · exact ⟨'t', by decide, rfl, rfl⟩

/-- All others: a control is written by its number, the rest as they are. -/
theorem escapeChar_of_not_short {c : Char} (h : c ∉ shortEscaped) :
    escapeChar c = if c.toNat < 0x20
      then ['\\', 'u', '0', '0', hexDigit (c.toNat / 16), hexDigit (c.toNat % 16)]
      else [c] := by
  simp only [shortEscaped, List.mem_cons, List.not_mem_nil, or_false, not_or] at h
  obtain ⟨hquote, hslash, hb, hf, hn, hr, ht⟩ := h
  rw [escapeChar, if_neg hquote, if_neg hslash, if_neg hb, if_neg hf, if_neg hn, if_neg hr,
    if_neg ht]

/-- A character of a string literal. -/
theorem scanString_escapeChar (c : Char) (acc rest : List Char) :
    scanString acc (escapeChar c ++ rest) = scanString (c :: acc) rest := by
  by_cases hshort : c ∈ shortEscaped
  · obtain ⟨e, hu, he, hescape⟩ := escapeChar_of_short hshort
    rw [hescape]
    exact scanString_short hu he acc rest
  rw [escapeChar_of_not_short hshort]
  by_cases hcontrol : c.toNat < 0x20
  · -- the other control characters are written by their number
    have hquad : ∀ n < 0x20, hexQuad? '0' '0' (hexDigit (n / 16)) (hexDigit (n % 16)) = some n := by
      decide
    have hback : Char.ofNat c.toNat = c := Char.ofNat_toNat c
    have hread := scanString_quad (hquad c.toNat hcontrol) (by omega) acc rest
    rw [if_pos hcontrol]
    rw [hback] at hread
    exact hread
  · -- every other character stands for itself
    have hquote : c ≠ '"' := fun h => hshort (h ▸ by decide)
    have hslash : c ≠ '\\' := fun h => hshort (h ▸ by decide)
    rw [if_neg hcontrol]
    exact scanString_plain hquote hslash hcontrol acc rest

/-- By induction on the characters that were escaped. -/
theorem scanString_flatMap (cs acc rest : List Char) :
    scanString acc (cs.flatMap escapeChar ++ '"' :: rest) = some (acc.reverse ++ cs, rest) := by
  induction cs generalizing acc with
  | nil => rw [List.flatMap_nil, List.nil_append, scanString_close, List.append_nil]
  | cons c more ih =>
      rw [List.flatMap_cons, List.append_assoc, scanString_escapeChar, ih, List.reverse_cons,
        List.append_assoc]
      rfl

/-! ## §2. Lexing piece by piece. -/

/-- No number goes on at the beginning of the text. -/
def Ends (cs : List Char) : Prop :=
  ∀ c ∈ cs.head?, c.isDigit = false ∧ c ≠ '.' ∧ c ≠ 'e' ∧ c ≠ 'E'

/-- The text is read as the lexemes, whatever follows where a number may end. -/
def Spells (cs : List Char) (ts : List Token) : Prop :=
  ∀ rest, Ends rest → lex (cs ++ rest) = (lex rest).map (ts ++ ·)

/-- Blanks are passed over. -/
theorem lex_of_space {c : Char} (h : isSpace c = true) (rest : List Char) :
    lex (c :: rest) = lex rest := by
  rw [lex, if_pos h]

/-- One lexeme, then the rest of the text. -/
theorem lex_of_scanToken {c : Char} {rest left : List Char} {t : Token} (h : isSpace c = false)
    (ht : scanToken c rest = some (t, left)) (hlen : left.length ≤ rest.length) :
    lex (c :: rest) = (lex left).map (t :: ·) := by
  rw [lex, if_neg (by simp [h]), ht]
  dsimp only
  rw [if_pos hlen]

/-- A number ends before any other character. -/
theorem Ends.of_cons {c : Char} (h : c.isDigit = false ∧ c ≠ '.' ∧ c ≠ 'e' ∧ c ≠ 'E')
    (cs : List Char) : Ends (c :: cs) := by
  intro d hd
  cases hd
  exact h

namespace Spells

/-- Two pieces, the second of which begins where a number may end. -/
theorem append {cs ds : List Char} {ts us : List Token} (h : Spells cs ts) (h' : Spells ds us)
    (hd : ∀ rest, Ends rest → Ends (ds ++ rest)) : Spells (cs ++ ds) (ts ++ us) := by
  intro rest hrest
  rw [List.append_assoc, h _ (hd rest hrest), h' rest hrest, Option.map_map]
  congr 1
  funext more
  exact (List.append_assoc ts us more).symm

/-- A punctuation mark before a piece. -/
theorem mark {c : Char} {cs : List Char} {t : Token} {ts : List Token}
    (hc : ∀ rest, lex (c :: rest) = (lex rest).map (t :: ·)) (h : Spells cs ts) :
    Spells (c :: cs) (t :: ts) := by
  intro rest hrest
  rw [List.cons_append, hc, h rest hrest, Option.map_map]
  rfl

/-- Blanks before a piece. -/
theorem blank {c : Char} {cs : List Char} {ts : List Token} (hc : isSpace c = true)
    (h : Spells cs ts) : Spells (c :: cs) ts := by
  intro rest hrest
  rw [List.cons_append, lex_of_space hc, h rest hrest]

/-- No text, no lexemes. -/
theorem nil : Spells [] [] := by
  intro rest _
  rw [List.nil_append]
  exact Option.map_id'.symm

end Spells

theorem lex_openList (rest : List Char) :
    lex ('[' :: rest) = (lex rest).map (.openList :: ·) :=
  lex_of_scanToken rfl rfl (Nat.le_refl _)

theorem lex_closeList (rest : List Char) :
    lex (']' :: rest) = (lex rest).map (.closeList :: ·) :=
  lex_of_scanToken rfl rfl (Nat.le_refl _)

theorem lex_openObject (rest : List Char) :
    lex ('\x7b' :: rest) = (lex rest).map (.openObject :: ·) :=
  lex_of_scanToken rfl rfl (Nat.le_refl _)

theorem lex_closeObject (rest : List Char) :
    lex ('\x7d' :: rest) = (lex rest).map (.closeObject :: ·) :=
  lex_of_scanToken rfl rfl (Nat.le_refl _)

theorem lex_colon (rest : List Char) : lex (':' :: rest) = (lex rest).map (.colon :: ·) :=
  lex_of_scanToken rfl rfl (Nat.le_refl _)

theorem lex_comma (rest : List Char) : lex (',' :: rest) = (lex rest).map (.comma :: ·) :=
  lex_of_scanToken rfl rfl (Nat.le_refl _)

/-- A string literal. -/
theorem spells_quoteList (s : String) : Spells (quoteList s) [.text s] := by
  intro rest _
  have hread : scanToken '"' (s.toList.flatMap escapeChar ++ '"' :: rest)
      = some (.text s, rest) := by
    show (scanString [] _).map _ = _
    rw [scanString_flatMap]
    show some (Token.text (String.ofList s.toList), rest) = _
    rw [String.ofList_toList]
  have hwhole : quoteList s ++ rest = '"' :: (s.toList.flatMap escapeChar ++ '"' :: rest) := by
    rw [quoteList, List.cons_append, List.append_assoc]
    rfl
  rw [hwhole]
  refine lex_of_scanToken rfl hread ?_
  rw [List.length_append, List.length_cons]
  omega

/-! ## §3. Integers. -/

/-- Only zero is written with a zero in front. -/
theorem head?_toDigits {n : Nat} (h : n ≠ 0) : (Nat.toDigits 10 n).head? ≠ some '0' := by
  induction n using Nat.strongRecOn with
  | ind n ih =>
      rw [Nat.toDigits_eq_if (by decide)]
      split
      next hlt =>
        intro hzero
        exact h (Nat.digitChar_eq_zero.mp (Option.some.inj hzero))
      next hge =>
        -- the last digit goes behind those of the tenth, which are not none
        have hfront := ih (n / 10) (by omega) (by omega)
        have hne : Nat.toDigits 10 (n / 10) ≠ [] := Nat.toDigits_ne_nil
        cases hd : Nat.toDigits 10 (n / 10) with
        | nil => exact (hne hd).elim
        | cons d more =>
            rw [hd] at hfront
            exact hfront

theorem isDigit_toDigits (n : Nat) : ∀ c ∈ Nat.toDigits 10 n, c.isDigit = true :=
  fun _ h => Nat.isDigit_of_mem_toDigits (by decide) (by decide) h

/-- A number is the value of its digits. -/
theorem digitsValue_toDigits (n : Nat) : digitsValue (Nat.toDigits 10 n) = n := by
  have hvalue : ∀ ds, digitsValue ds = Nat.ofDigitChars 10 ds 0 := by
    intro ds
    simp [digitsValue, digitValue, Nat.ofDigitChars_eq_foldl, Nat.mul_comm]
  rw [hvalue, Nat.ofDigitChars_ten_toDigits]

/-- The digits of a number are read up to where it ends. -/
theorem spanDigits_append {ds rest : List Char} (h : ∀ c ∈ ds, c.isDigit = true)
    (hrest : Ends rest) : spanDigits (ds ++ rest) = (ds, rest) := by
  have hstop : rest.takeWhile Char.isDigit = [] ∧ rest.dropWhile Char.isDigit = rest := by
    cases rest with
    | nil => exact ⟨rfl, rfl⟩
    | cons c more =>
        have hc : ¬ c.isDigit = true := by simp [(hrest c rfl).1]
        exact ⟨List.takeWhile_cons_of_neg hc, List.dropWhile_cons_of_neg hc⟩
  rw [spanDigits, List.takeWhile_append_of_pos h, List.dropWhile_append_of_pos h, hstop.1,
    hstop.2, List.append_nil]

/-- A number has no leading zero unless it is zero. -/
theorem scanInteger_toDigits (n : Nat) {rest : List Char} (hrest : Ends rest) :
    scanInteger (Nat.toDigits 10 n ++ rest) = some (Nat.toDigits 10 n, rest) := by
  by_cases hn : n = 0
  · subst hn
    rfl
  · have hspan := spanDigits_append (isDigit_toDigits n) hrest
    have hhead := head?_toDigits hn
    have hne : Nat.toDigits 10 n ≠ [] := Nat.toDigits_ne_nil
    generalize Nat.toDigits 10 n = ds at hspan hhead hne ⊢
    cases ds with
    | nil => exact (hne rfl).elim
    | cons d more =>
        rw [scanInteger, hspan]
        intro _ heq
        cases heq
        exact hhead rfl

/-- No fraction and no exponent follow a whole number. -/
theorem scanLiteral_toDigits (negative : Bool) (n : Nat) {rest : List Char}
    (hrest : Ends rest) : scanLiteral negative (Nat.toDigits 10 n ++ rest)
      = some (⟨negative, Nat.toDigits 10 n, none, none⟩, rest) := by
  have hfraction : scanFraction rest = some (none, rest) := by
    unfold scanFraction
    split
    next more => exact ((hrest '.' rfl).2.1 rfl).elim
    next => rfl
  have hexponent : scanExponent rest = some (none, rest) := by
    unfold scanExponent
    -- six ways to begin an exponent, all with a letter that may not follow
    split
    case h_7 => rfl
    all_goals first
      | exact ((hrest 'e' rfl).2.2.1 rfl).elim
      | exact ((hrest 'E' rfl).2.2.2 rfl).elim
  rw [scanLiteral, scanInteger_toDigits n hrest]
  simp only [Option.bind_eq_bind, Option.bind_some, hfraction, hexponent]
  rfl

/-- An integer that a literal can stand for. -/
def Number.isWhole : Number → Bool
  | .integer n => -0x8000000000000000 ≤ n && n < 0x10000000000000000
  | .double _ => false

/-- A natural number of 64 bits is an integer. -/
theorem scanNumber_natural {n : Nat} (h : n < 0x10000000000000000) {rest : List Char}
    (hrest : Ends rest) :
    scanNumber (Nat.toDigits 10 n ++ rest) = some (.integer n, rest) := by
  have hread := scanLiteral_toDigits false n hrest
  have hnumber : (⟨false, Nat.toDigits 10 n, none, none⟩ : Literal).number?
      = some (.integer n) := by
    have hinteger : (⟨false, Nat.toDigits 10 n, none, none⟩ : Literal).integer?
        = some (n : Int) := by
      show (if digitsValue (Nat.toDigits 10 n) < 0x10000000000000000
        then some (digitsValue (Nat.toDigits 10 n) : Int) else none) = _
      rw [digitsValue_toDigits, if_pos h]
    rw [Literal.number?, hinteger]
  have hdigits := isDigit_toDigits n
  have hne : Nat.toDigits 10 n ≠ [] := Nat.toDigits_ne_nil
  generalize hds : Nat.toDigits 10 n = ds at hread hnumber hdigits hne ⊢
  cases ds with
  | nil => exact (hne rfl).elim
  | cons d more =>
      -- the literal begins with a digit, so it is not read as a negative one
      have hd : d ≠ '-' := by
        rintro rfl
        exact absurd (hdigits '-' List.mem_cons_self) (by decide)
      rw [scanNumber, hread]
      · simp only [Option.bind_eq_bind, Option.bind_some, hnumber]
        rfl
      · intro _ heq
        cases heq
        exact hd rfl

/-- So is a negative number of 64 bits. -/
theorem scanNumber_negative {n : Nat} (hpos : 0 < n) (h : n ≤ 0x8000000000000000) {rest : List Char}
    (hrest : Ends rest) :
    scanNumber ('-' :: (Nat.toDigits 10 n ++ rest)) = some (.integer (-(n : Int)), rest) := by
  have hread := scanLiteral_toDigits true n hrest
  have hinteger : (⟨true, Nat.toDigits 10 n, none, none⟩ : Literal).integer?
      = some (-(n : Int)) := by
    show (if 0 < digitsValue (Nat.toDigits 10 n) ∧
        digitsValue (Nat.toDigits 10 n) ≤ 0x8000000000000000
      then some (-(digitsValue (Nat.toDigits 10 n) : Int)) else none) = _
    rw [digitsValue_toDigits, if_pos ⟨hpos, h⟩]
  have hnumber : (⟨true, Nat.toDigits 10 n, none, none⟩ : Literal).number?
      = some (.integer (-(n : Int))) := by
    rw [Literal.number?, hinteger]
  show (scanLiteral true _ >>= fun p => p.1.number? >>= fun k => pure (k, p.2)) = _
  rw [hread]
  simp only [Option.bind_eq_bind, Option.bind_some, hnumber]
  rfl

/-- A lexeme that begins like a number is one. -/
theorem scanToken_of_number {c : Char} (hc : c.isDigit = true ∨ c = '-') (rest : List Char) :
    scanToken c rest = (scanNumber (c :: rest)).map fun (n, left) => (.number n, left) := by
  have hne : ∀ d : Char, (d.isDigit = true ∨ d = '-') = False → c ≠ d := by
    intro d hd hcd
    rw [← hd, ← hcd]
    exact hc
  unfold scanToken
  split
  all_goals first
    | rfl
    | exact (hne _ (by simp) rfl).elim

theorem isSpace_of_number {c : Char} (hc : c.isDigit = true ∨ c = '-') : isSpace c = false := by
  have hne : ∀ d : Char, (d.isDigit = true ∨ d = '-') = False → (c == d) = false := by
    intro d hd
    rw [beq_eq_false_iff_ne]
    intro hcd
    rw [← hd, ← hcd]
    exact hc
  rw [isSpace, hne ' ' (by simp), hne '\t' (by simp), hne '\n' (by simp), hne '\r' (by simp)]
  rfl

/-- A number that is read wherever it may end. -/
theorem spells_of_scanNumber {c : Char} {cs : List Char} {n : Number}
    (hc : c.isDigit = true ∨ c = '-')
    (h : ∀ rest, Ends rest → scanNumber (c :: (cs ++ rest)) = some (n, rest)) :
    Spells (c :: cs) [.number n] := by
  intro rest hrest
  have hscan : scanToken c (cs ++ rest) = some (.number n, rest) := by
    rw [scanToken_of_number hc, h rest hrest]
    rfl
  refine lex_of_scanToken (isSpace_of_number hc) hscan ?_
  show rest.length ≤ (cs ++ rest).length
  rw [List.length_append]
  omega

/-- **An integer.** -/
theorem spells_integer {n : Int} (h : (Number.integer n).isWhole = true) :
    Spells (toString n).toList [.number (.integer n)] := by
  obtain ⟨hlow, hhigh⟩ : -0x8000000000000000 ≤ n ∧ n < 0x10000000000000000 := by
    simpa [Number.isWhole] using h
  cases n with
  | ofNat k =>
      have htext : (toString (Int.ofNat k)).toList = Nat.toDigits 10 k := Nat.toList_repr
      have hk : (k : Int) < 0x10000000000000000 := hhigh
      have hdigits := isDigit_toDigits k
      have hne : Nat.toDigits 10 k ≠ [] := Nat.toDigits_ne_nil
      have hread : ∀ rest, Ends rest → scanNumber (Nat.toDigits 10 k ++ rest)
          = some (.integer k, rest) := fun rest => scanNumber_natural (by omega)
      rw [htext]
      generalize Nat.toDigits 10 k = ds at hdigits hne hread ⊢
      cases ds with
      | nil => exact (hne rfl).elim
      | cons d more => exact spells_of_scanNumber (Or.inl (hdigits d List.mem_cons_self)) hread
  | negSucc m =>
      have htext : (toString (Int.negSucc m)).toList = '-' :: Nat.toDigits 10 (m + 1) := by
        show ("-" ++ Nat.repr (m + 1)).toList = _
        rw [String.toList_append, Nat.toList_repr]
        rfl
      rw [htext]
      refine spells_of_scanNumber (Or.inr rfl) fun rest hrest => ?_
      exact scanNumber_negative (by omega) (by omega) hrest

/-! ## §4. Values. -/

mutual

/-- The lexemes of a value. -/
def Value.tokens : Value → List Token
  | .null => [.null]
  | .bool b => [.bool b]
  | .number n => [.number n]
  | .text s => [.text s]
  | .list items => .openList :: itemTokens items ++ [.closeList]
  | .object m => .openObject :: memberTokens m ++ [.closeObject]

/-- Items with commas between them. -/
def itemTokens : List Value → List Token
  | [] => []
  | [v] => v.tokens
  | v :: w :: rest => v.tokens ++ .comma :: itemTokens (w :: rest)

/-- Members with commas between them. -/
def memberTokens : Members → List Token
  | [] => []
  | [(k, v)] => .text k :: .colon :: v.tokens
  | (k, v) :: kv :: rest => .text k :: .colon :: v.tokens ++ .comma :: memberTokens (kv :: rest)

end

mutual

/-- Every number of the value is an integer of a literal. -/
def Value.isWhole : Value → Bool
  | .number n => n.isWhole
  | .list items => allWhole items
  | .object m => allWholeMembers m
  | _ => true

/-- `Value.isWhole` of every item. -/
def allWhole : List Value → Bool
  | [] => true
  | v :: rest => v.isWhole && allWhole rest

/-- `Value.isWhole` of every member. -/
def allWholeMembers : Members → Bool
  | [] => true
  | (_, v) :: rest => v.isWhole && allWholeMembers rest

end

theorem spells_null : Spells "null".toList [.null] :=
  fun rest _ => lex_of_scanToken rfl rfl (Nat.le_add_right rest.length 3)

theorem spells_true : Spells "true".toList [.bool true] :=
  fun rest _ => lex_of_scanToken rfl rfl (Nat.le_add_right rest.length 3)

theorem spells_false : Spells "false".toList [.bool false] :=
  fun rest _ => lex_of_scanToken rfl rfl (Nat.le_add_right rest.length 4)

/-- A number without a fraction is written by its digits. -/
theorem spells_number {n : Number} (h : n.isWhole = true) : Spells n.render [.number n] := by
  cases n with
  | integer n => exact spells_integer h
  | double x => cases h

/-- A piece that begins with a mark begins where a number may end. -/
theorem ends_mark {c : Char} (h : c.isDigit = false ∧ c ≠ '.' ∧ c ≠ 'e' ∧ c ≠ 'E')
    (cs : List Char) : ∀ rest, Ends rest → Ends ((c :: cs) ++ rest) :=
  fun rest _ => .of_cons h (cs ++ rest)

mutual

/-- **The compact text of a value** spells its lexemes. -/
theorem spells_render : (v : Value) → v.isWhole = true → Spells v.render v.tokens
  | .null, _ => spells_null
  | .bool true, _ => spells_true
  | .bool false, _ => spells_false
  | .number _, h => spells_number h
  | .text s, _ => spells_quoteList s
  | .list items, h =>
      .mark lex_openList
        ((spells_renderItems items h).append (.mark lex_closeList .nil) (ends_mark (by decide) _))
  | .object m, h =>
      .mark lex_openObject
        ((spells_renderMembers m h).append (.mark lex_closeObject .nil)
          (ends_mark (by decide) _))

/-- Items with commas between them. -/
theorem spells_renderItems : (items : List Value) → allWhole items = true →
    Spells (renderItems items) (itemTokens items)
  | [], _ => .nil
  | [v], h => spells_render v ((Bool.and_eq_true _ _).mp h).1
  | v :: w :: rest, h =>
      (spells_render v ((Bool.and_eq_true _ _).mp h).1).append
        (.mark lex_comma (spells_renderItems (w :: rest) ((Bool.and_eq_true _ _).mp h).2))
        (ends_mark (by decide) _)

/-- Keys and values with colons and commas between them. -/
theorem spells_renderMembers : (m : Members) → allWholeMembers m = true →
    Spells (renderMembers m) (memberTokens m)
  | [], _ => .nil
  | [(k, v)], h =>
      (spells_quoteList k).append
        (.mark lex_colon (spells_render v ((Bool.and_eq_true _ _).mp h).1))
        (ends_mark (by decide) _)
  | (k, v) :: kv :: rest, h =>
      ((spells_quoteList k).append
        (.mark lex_colon (spells_render v ((Bool.and_eq_true _ _).mp h).1))
        (ends_mark (by decide) _)).append
        (.mark lex_comma (spells_renderMembers (kv :: rest) ((Bool.and_eq_true _ _).mp h).2))
        (ends_mark (by decide) _)

end

/-! ## §5. Laid out text. -/

/-- Blanks in front of a text add no lexeme. -/
theorem Spells.newline {cs : List Char} {ts : List Token} (depth : Nat) (h : Spells cs ts) :
    Spells (newline depth ++ cs) ts := by
  refine .blank rfl ?_
  -- the line end is gone, the indentation is left
  show Spells (List.replicate (2 * depth) ' ' ++ cs) ts
  induction 2 * depth with
  | zero => exact h
  | succ n ih => exact .blank rfl ih

/-- A number ends at the end of its line. -/
theorem ends_newline (depth : Nat) (cs : List Char) :
    ∀ rest, Ends rest → Ends ((Json.newline depth ++ cs) ++ rest) :=
  ends_mark (by decide) _

mutual

/-- **The laid out text of a value** spells its lexemes. -/
theorem spells_layout (depth : Nat) : (v : Value) → v.isWhole = true →
    Spells (v.layout depth) v.tokens
  | .null, _ => spells_null
  | .bool true, _ => spells_true
  | .bool false, _ => spells_false
  | .number _, h => spells_number h
  | .text s, _ => spells_quoteList s
  | .list [], _ => .mark lex_openList (.mark lex_closeList .nil)
  | .object [], _ => .mark lex_openObject (.mark lex_closeObject .nil)
  | .list (v :: rest), h => by
      rw [Value.layout, List.append_assoc]
      exact .mark lex_openList
        ((spells_layoutItems (depth + 1) (v :: rest) h).append
          (.newline depth (.mark lex_closeList .nil)) (ends_newline depth _))
  | .object (kv :: rest), h => by
      rw [Value.layout, List.append_assoc]
      exact .mark lex_openObject
        ((spells_layoutMembers (depth + 1) (kv :: rest) h).append
          (.newline depth (.mark lex_closeObject .nil)) (ends_newline depth _))

/-- Items, each on a line of its own. -/
theorem spells_layoutItems (depth : Nat) : (items : List Value) → allWhole items = true →
    Spells (layoutItems depth items) (itemTokens items)
  | [], _ => .nil
  | [v], h => .newline depth (spells_layout depth v ((Bool.and_eq_true _ _).mp h).1)
  | v :: w :: rest, h =>
      (Spells.newline depth (spells_layout depth v ((Bool.and_eq_true _ _).mp h).1)).append
        (.mark lex_comma (spells_layoutItems depth (w :: rest) ((Bool.and_eq_true _ _).mp h).2))
        (ends_mark (by decide) _)

/-- Members, each on a line of its own. -/
theorem spells_layoutMembers (depth : Nat) : (m : Members) → allWholeMembers m = true →
    Spells (layoutMembers depth m) (memberTokens m)
  | [], _ => .nil
  | [(k, v)], h => by
      rw [layoutMembers, List.append_assoc]
      exact .newline depth ((spells_quoteList k).append
        (.mark lex_colon (.blank rfl (spells_layout depth v ((Bool.and_eq_true _ _).mp h).1)))
        (ends_mark (by decide) _))
  | (k, v) :: kv :: rest, h => by
      rw [layoutMembers, List.append_assoc (newline depth)]
      exact (Spells.newline depth ((spells_quoteList k).append
        (.mark lex_colon (.blank rfl (spells_layout depth v ((Bool.and_eq_true _ _).mp h).1)))
        (ends_mark (by decide) _))).append
        (.mark lex_comma (spells_layoutMembers depth (kv :: rest) ((Bool.and_eq_true _ _).mp h).2))
        (ends_mark (by decide) _)

end

end Dashboard.Json
