/-
  Dashboard.Proofs.Text.FormEncoding
  ──────────────────────────────────
  **FORM TEXT IS WRITTEN OCTET BY OCTET AND READ BACK.**

  The standard writes the octets of a text one by one (`octetText`); writing its
  characters comes to the same, since a character outside ASCII has no octet
  that stands for itself.  No name and no value has a mark that separates pairs
  or a name from its value, so a list of pairs is cut where it was joined, and
  each piece is read back octet by octet.

  Main results:
    encode_eq     — **a list of pairs is written as the standard says**
    decode_append — two texts joined by `&` are read one after the other
    decode_encode — **a list of pairs that was written is read back**
-/
import Dashboard.Proofs.Text.Utf8
import Dashboard.Text.FormEncoding
import Mathlib.Data.List.Basic

namespace Dashboard.Text

/-! ## §1. ASCII. -/

namespace Utf8

/-- A character of ASCII is one octet. -/
theorem encodeChar_of_lt {c : Char} (h : c.toNat < 0x80) :
    encodeChar c = [UInt8.ofNat c.toNat] :=
  if_pos h

theorem encode_cons_of_lt {c : Char} (h : c.toNat < 0x80) (cs : List Char) :
    encode (c :: cs) = UInt8.ofNat c.toNat :: encode cs := by
  show encodeChar c ++ encode cs = _
  rw [encodeChar_of_lt h, List.singleton_append]

/-- The octets after the first are beyond ASCII. -/
theorem high_tailOctet (n : Nat) : 0x80 ≤ (tailOctet n).toNat := by
  rw [toNat_tailOctet]
  exact Nat.le_add_right _ _

/-- A character outside ASCII has no octet of ASCII. -/
theorem high_of_mem_encodeChar {c : Char} (h : 0x80 ≤ c.toNat) {b : UInt8}
    (hb : b ∈ encodeChar c) : 0x80 ≤ b.toNat := by
  have hc := toNat_bounds c
  have hfirst : ∀ n, 0x80 ≤ n → n < 256 → 0x80 ≤ (UInt8.ofNat n).toNat := by
    intro n hlow hhigh
    rwa [toNat_ofNat_of_lt hhigh]
  unfold encodeChar at hb
  dsimp only at hb
  generalize c.toNat = n at h hc hb
  rw [if_neg (Nat.not_lt_of_le h)] at hb
  split at hb
  next =>
    rcases List.mem_cons.mp hb with rfl | hb
    · exact hfirst _ (by omega) (by omega)
    · obtain rfl := List.mem_singleton.mp hb
      exact high_tailOctet _
  next =>
    split at hb
    next =>
      rcases List.mem_cons.mp hb with rfl | hb
      · exact hfirst _ (by omega) (by omega)
      · simp only [List.mem_cons, List.not_mem_nil, or_false] at hb
        rcases hb with rfl | rfl <;> exact high_tailOctet _
    next =>
      rcases List.mem_cons.mp hb with rfl | hb
      · exact hfirst _ (by omega) (by omega)
      · simp only [List.mem_cons, List.not_mem_nil, or_false] at hb
        rcases hb with rfl | rfl | rfl <;> exact high_tailOctet _

/-- Nothing is replaced in what was encoded. -/
theorem decodeReplacing_encode (cs : List Char) : decodeReplacing (encode cs) = cs := by
  rw [decodeReplacing, steps_encode, List.map_map]
  exact List.map_id cs

end Utf8

/-! ## §2. Octets. -/

theorem octet_lt (b : UInt8) : b.toNat < 256 := UInt8.toNat_lt b

/-- What holds of all small numbers holds of all characters of ASCII. -/
theorem forall_ascii {p : Char → Prop} (h : ∀ n < 0x80, p (Char.ofNat n)) {c : Char}
    (hc : c.toNat < 0x80) : p c := by
  have hp := h c.toNat hc
  rwa [Char.ofNat_toNat] at hp

theorem toNat_ofNat_of_ascii {n : Nat} (h : n < 0x80) : (Char.ofNat n).toNat = n := by
  rw [Char.ofNat, dif_pos (Or.inl (by omega))]
  rfl

namespace Percent

/-- The octet of a digit. -/
def hexOctet (n : Nat) : UInt8 := UInt8.ofNat (hexDigit n).toNat

theorem hexDigit_lt : ∀ n < 16, (hexDigit n).toNat < 0x80 := by decide

/-- A hexadecimal digit is read back. -/
theorem hexValue?_hexOctet : ∀ n < 16, hexValue? (hexOctet n) = some n := by decide

/-- An escape is a mark and two digits. -/
theorem encode_encodeOctet (b : UInt8) :
    Utf8.encode (encodeOctet b) = [mark, hexOctet (b.toNat / 16), hexOctet (b.toNat % 16)] := by
  have hb := octet_lt b
  unfold encodeOctet
  rw [Utf8.encode_cons_of_lt (by decide), Utf8.encode_cons_of_lt (hexDigit_lt _ (by omega)),
    Utf8.encode_cons_of_lt (hexDigit_lt _ (by omega))]
  rfl

/-- Two digits are read back. -/
theorem pair?_hexOctet (b : UInt8) :
    pair? (hexOctet (b.toNat / 16)) (hexOctet (b.toNat % 16)) = some b := by
  have hb := octet_lt b
  have hsum : b.toNat / 16 * 16 + b.toNat % 16 = b.toNat := by omega
  unfold pair?
  rw [hexValue?_hexOctet _ (by omega), hexValue?_hexOctet _ (by omega)]
  show some (UInt8.ofNat (b.toNat / 16 * 16 + b.toNat % 16)) = some b
  rw [hsum, UInt8.ofNat_toNat]

/-- An escape is read back as its octet. -/
theorem decode_encodeOctet (b : UInt8) (bs : List UInt8) :
    decode (Utf8.encode (encodeOctet b) ++ bs) = b :: decode bs := by
  rw [encode_encodeOctet]
  show decode (mark :: hexOctet (b.toNat / 16) :: hexOctet (b.toNat % 16) :: bs) = _
  rw [decode, if_pos rfl, pair?_hexOctet]

end Percent

namespace FormEncoding

/-- The octets that stand for themselves: digits, letters and `*-._`. -/
def plainOctet (b : UInt8) : Bool :=
  (0x30 ≤ b && b ≤ 0x39) || (0x41 ≤ b && b ≤ 0x5A) || (0x61 ≤ b && b ≤ 0x7A)
    || [0x2A, 0x2D, 0x2E, 0x5F].contains b

/-- How the standard writes an octet. -/
def octetText (b : UInt8) : List Char :=
  if b = 0x20 then ['+']
  else if plainOctet b then [Char.ofNat b.toNat]
  else Percent.encodeOctet b

/-- Only octets of ASCII stand for themselves. -/
theorem plainOctet_lt {b : UInt8} (h : plainOctet b = true) : b.toNat < 0x80 := by
  simp only [plainOctet, Bool.or_eq_true, Bool.and_eq_true, decide_eq_true_eq,
    List.contains_iff_mem, List.mem_cons, List.not_mem_nil, or_false] at h
  rcases h with ((⟨-, h⟩ | ⟨-, h⟩) | ⟨-, h⟩) | rfl | rfl | rfl | rfl
  · exact Nat.lt_of_le_of_lt h (by decide)
  · exact Nat.lt_of_le_of_lt h (by decide)
  · exact Nat.lt_of_le_of_lt h (by decide)
  all_goals decide

/-- The character of an octet that stands for itself. -/
theorem char_of_plainOctet {b : UInt8} (h : plainOctet b = true) :
    (Char.ofNat b.toNat).toNat < 0x80 ∧ UInt8.ofNat (Char.ofNat b.toNat).toNat = b := by
  rw [toNat_ofNat_of_ascii (plainOctet_lt h)]
  exact ⟨plainOctet_lt h, UInt8.ofNat_toNat⟩

/-- In ASCII, a character stands for itself where its octet does. -/
theorem plainOctet_ofNat {c : Char} (hc : c.toNat < 0x80) :
    plainOctet (UInt8.ofNat c.toNat) = isPlain c := by
  refine forall_ascii (p := fun c => plainOctet (UInt8.ofNat c.toNat) = isPlain c) ?_ hc
  decide +kernel

/-- An octet beyond ASCII is escaped. -/
theorem octetText_of_high {b : UInt8} (h : 0x80 ≤ b.toNat) :
    octetText b = Percent.encodeOctet b := by
  have hblank : b ≠ 0x20 := by
    rintro rfl
    exact absurd h (by decide)
  rw [octetText, if_neg hblank, if_neg fun hplain => Nat.not_lt_of_le h (plainOctet_lt hplain)]

theorem isPlain_lt {c : Char} (h : isPlain c = true) : c.toNat < 0x80 := by
  have hc : c.toNat = c.val.toNat := rfl
  unfold isPlain Char.isAlphanum Char.isAlpha Char.isUpper Char.isLower Char.isDigit at h
  simp only [Bool.or_eq_true, Bool.and_eq_true, decide_eq_true_eq, beq_iff_eq, ge_iff_le,
    UInt32.le_iff_toNat_le, ← hc] at h
  rcases h with (((((⟨-, h⟩ | ⟨-, h⟩) | ⟨-, h⟩) | rfl) | rfl) | rfl) | rfl
  · exact Nat.lt_of_le_of_lt h (by decide)
  · exact Nat.lt_of_le_of_lt h (by decide)
  · exact Nat.lt_of_le_of_lt h (by decide)
  all_goals decide

/-- A character is written as its octets are. -/
theorem encodeChar_eq (c : Char) : encodeChar c = (Utf8.encodeChar c).flatMap octetText := by
  by_cases hc : c.toNat < 0x80
  · by_cases hblank : c = ' '
    · rw [hblank]
      rfl
    -- its one octet is no blank, and both stand for themselves or neither does
    have hback : (UInt8.ofNat c.toNat).toNat = c.toNat := Utf8.toNat_ofNat_of_lt (by omega)
    have hoctet : UInt8.ofNat c.toNat ≠ 0x20 := by
      intro h
      rw [h] at hback
      exact hblank (Char.toNat_inj.mp hback.symm)
    rw [encodeChar, if_neg hblank, Utf8.encodeChar_of_lt hc, List.flatMap_singleton,
      List.flatMap_singleton, octetText, if_neg hoctet, plainOctet_ofNat hc, hback,
      Char.ofNat_toNat]
  · -- neither the character nor any octet of it stands for itself
    have hblank : c ≠ ' ' := by
      rintro rfl
      exact hc (by decide)
    rw [encodeChar, if_neg hblank, if_neg fun hplain => hc (isPlain_lt hplain)]
    refine (List.flatMap_congr fun b hb => ?_).symm
    exact octetText_of_high (Utf8.high_of_mem_encodeChar (Nat.le_of_not_lt hc) hb)

/-- **A name or a value is written octet by octet.** -/
theorem encodeText_eq (s : String) : encodeText s = (Utf8.encode s.toList).flatMap octetText := by
  unfold encodeText Utf8.encode
  rw [List.flatMap_assoc]
  exact List.flatMap_congr fun c _ => encodeChar_eq c

/-! ## §3. Reading a name or a value. -/

theorem plainOctet_ne {b d : UInt8} (h : plainOctet b = true) (hd : plainOctet d = false) :
    b ≠ d := by
  rintro rfl
  rw [h] at hd
  cases hd

/-- Only the plus stands for a blank. -/
theorem plusToBlank_of_ne {b : UInt8} (h : b ≠ 0x2B) : plusToBlank b = b := if_neg h

theorem map_plusToBlank_plain {b : UInt8} (h : plainOctet b = true) :
    (Utf8.encode [Char.ofNat b.toNat]).map plusToBlank = [b] := by
  obtain ⟨hlt, hback⟩ := char_of_plainOctet h
  rw [Utf8.encode_cons_of_lt hlt, hback]
  exact congrArg (fun d => [d]) (plusToBlank_of_ne (plainOctet_ne h rfl))

/-- There is no plus in an escape. -/
theorem map_plusToBlank_encodeOctet (b : UInt8) :
    (Utf8.encode (Percent.encodeOctet b)).map plusToBlank =
      Utf8.encode (Percent.encodeOctet b) := by
  have hb := octet_lt b
  have hdigit : ∀ n < 16, plusToBlank (Percent.hexOctet n) = Percent.hexOctet n := by decide
  have hhigh := hdigit (b.toNat / 16) (by omega)
  have hlow := hdigit (b.toNat % 16) (by omega)
  rw [Percent.encode_encodeOctet, List.map_cons, List.map_cons, List.map_singleton, hhigh, hlow]
  rfl

/-- An octet is read back: a blank was written as a plus, a plus was not. -/
theorem decode_octetText (b : UInt8) (bs : List UInt8) :
    Percent.decode ((Utf8.encode (octetText b)).map plusToBlank ++ bs) = b :: Percent.decode bs := by
  unfold octetText
  split
  -- the plus of a blank is turned back before anything is unescaped
  next hblank =>
    rw [hblank]
    exact Percent.decode_append_plain 0x20 bs (by decide)
  next =>
    split
    next h =>
      rw [map_plusToBlank_plain h]
      exact Percent.decode_append_plain b bs (plainOctet_ne h rfl)
    next =>
      rw [map_plusToBlank_encodeOctet]
      exact Percent.decode_encodeOctet b bs

/-- Octets written one by one are read back. -/
theorem decode_octetTexts (bs : List UInt8) :
    Percent.decode ((Utf8.encode (bs.flatMap octetText)).map plusToBlank) = bs := by
  induction bs with
  | nil => rfl
  | cons b rest ih =>
    rw [List.flatMap_cons, Utf8.encode_append, List.map_append, decode_octetText, ih]

/-- **A name or a value is read back.** -/
theorem decodeText_encodeText (s : String) : decodeText (Utf8.encode (encodeText s)) = s := by
  unfold decodeText
  rw [encodeText_eq, decode_octetTexts, Utf8.decodeReplacing_encode, String.ofList_toList]

/-! ## §4. Marks. -/

/-- The characters of a name or a value. -/
def isWritten (c : Char) : Bool := isPlain c || c == '+' || c == '%'

/-- An octet is written in the characters that a form allows. -/
theorem isWritten_octetText (b : UInt8) : ∀ c ∈ octetText b, isWritten c = true := by
  have hb := octet_lt b
  intro c hc
  unfold octetText at hc
  split at hc
  next =>
    obtain rfl := List.mem_singleton.mp hc
    rfl
  next =>
    split at hc
    next h =>
      obtain rfl := List.mem_singleton.mp hc
      obtain ⟨hlt, hback⟩ := char_of_plainOctet h
      have hplain := plainOctet_ofNat hlt
      rw [hback, h] at hplain
      rw [isWritten, ← hplain]
      rfl
    next =>
      have hdigit : ∀ n < 16, isWritten (Percent.hexDigit n) = true := by decide
      rcases List.mem_cons.mp hc with rfl | hc
      · rfl
      · simp only [List.mem_cons, List.not_mem_nil, or_false] at hc
        rcases hc with rfl | rfl
        · exact hdigit _ (by omega)
        · exact hdigit _ (by omega)

theorem isWritten_encodeText (s : String) : ∀ c ∈ encodeText s, isWritten c = true := by
  intro c hc
  rw [encodeText_eq] at hc
  obtain ⟨b, -, hb⟩ := List.mem_flatMap.mp hc
  exact isWritten_octetText b c hb

theorem isWritten_lt {c : Char} (h : isWritten c = true) : c.toNat < 0x80 := by
  simp only [isWritten, Bool.or_eq_true, beq_iff_eq] at h
  rcases h with (h | rfl) | rfl
  · exact isPlain_lt h
  all_goals decide

/-- An octet of a name or a value. -/
theorem mem_encode_encodeText {s : String} {b : UInt8} (hb : b ∈ Utf8.encode (encodeText s)) :
    ∃ c, isWritten c = true ∧ b = UInt8.ofNat c.toNat := by
  obtain ⟨c, hc, hbc⟩ := List.mem_flatMap.mp hb
  have hwritten := isWritten_encodeText s c hc
  rw [Utf8.encodeChar_of_lt (isWritten_lt hwritten)] at hbc
  exact ⟨c, hwritten, List.mem_singleton.mp hbc⟩

/-- A name or a value has neither of the two marks. -/
theorem no_mark {s : String} {b : UInt8} (hb : b ∈ Utf8.encode (encodeText s)) :
    b ≠ 0x26 ∧ b ≠ 0x3D := by
  obtain ⟨c, hwritten, rfl⟩ := mem_encode_encodeText hb
  have hlt := isWritten_lt hwritten
  have hne : ∀ d : Char, isWritten d = false → d.toNat < 0x80 →
      UInt8.ofNat c.toNat ≠ UInt8.ofNat d.toNat := by
    intro d hd hdlt h
    have hnat := congrArg UInt8.toNat h
    rw [Utf8.toNat_ofNat_of_lt (by omega), Utf8.toNat_ofNat_of_lt (by omega)] at hnat
    obtain rfl := Char.toNat_inj.mp hnat
    rw [hwritten] at hd
    cases hd
  exact ⟨hne '&' rfl (by decide), hne '=' rfl (by decide)⟩

section Split

variable {α : Type} [DecidableEq α] {mark : α}

/-- There is always a first part. -/
theorem splitOn_ne_nil (mark : α) (l : List α) : splitOn mark l ≠ [] := by
  cases l with
  | nil => exact List.cons_ne_nil _ _
  | cons a rest =>
    unfold splitOn
    split
    next => exact List.cons_ne_nil _ _
    next => split <;> exact List.cons_ne_nil _ _

/-- A list is cut at every mark. -/
theorem splitOn_append (l l' : List α) :
    splitOn mark (l ++ mark :: l') = splitOn mark l ++ splitOn mark l' := by
  induction l with
  | nil => exact if_pos rfl
  | cons a rest ih =>
    rw [List.cons_append, splitOn, splitOn, ih]
    split
    next => rfl
    -- an item that is no mark goes to the front of the first piece
    next =>
      cases h : splitOn mark rest with
      | nil => exact absurd h (splitOn_ne_nil mark rest)
      | cons piece more => rfl

/-- Without the mark there is one part. -/
theorem splitOn_of_not_mem {l : List α} (h : mark ∉ l) : splitOn mark l = [l] := by
  induction l with
  | nil => rfl
  | cons a rest ih =>
    rw [List.mem_cons, not_or] at h
    rw [splitOn, if_neg (Ne.symm h.1), ih h.2]

/-- What stands before the first mark. -/
theorem splitFirst_append {l : List α} (h : mark ∉ l) (l' : List α) :
    splitFirst mark (l ++ mark :: l') = (l, l') := by
  have hne : ∀ a ∈ l, decide (a ≠ mark) = true :=
    fun a ha => decide_eq_true fun heq => h (heq ▸ ha)
  unfold splitFirst
  rw [List.takeWhile_append_of_pos hne, List.dropWhile_append_of_pos hne,
    List.takeWhile_cons_of_neg (by simp), List.dropWhile_cons_of_neg (by simp), List.append_nil]
  rfl

end Split

/-! ## §5. Lists of pairs. -/

/-- **Two texts joined by `&` are read one after the other.** -/
theorem decode_append (s t : String) : decode (s ++ "&" ++ t) = decode s ++ decode t := by
  have hoctets : Utf8.encode (s ++ "&" ++ t).toList =
      Utf8.encode s.toList ++ 0x26 :: Utf8.encode t.toList := by
    rw [String.toList_append, String.toList_append, Utf8.encode_append, Utf8.encode_append,
      List.append_assoc]
    rfl
  unfold decode
  rw [hoctets, splitOn_append, List.filter_append, List.map_append]

/-- Name and value, with an equals sign between them. -/
theorem encode_encodePair (p : String × String) : Utf8.encode (encodePair p) =
    Utf8.encode (encodeText p.1) ++ 0x3D :: Utf8.encode (encodeText p.2) := by
  unfold encodePair
  rw [Utf8.encode_append, Utf8.encode_cons_of_lt (by decide)]
  rfl

/-- **A pair is read back.** -/
theorem decodePair_encodePair (p : String × String) :
    decodePair (Utf8.encode (encodePair p)) = p := by
  unfold decodePair
  rw [encode_encodePair, splitFirst_append fun hmem => (no_mark hmem).2 rfl]
  dsimp only
  rw [decodeText_encodeText, decodeText_encodeText]

theorem decode_encodePair (p : String × String) :
    decode (String.ofList (encodePair p)) = [p] := by
  have hnone : (0x26 : UInt8) ∉ Utf8.encode (encodePair p) := by
    rw [encode_encodePair]
    intro hmem
    rcases List.mem_append.mp hmem with hname | hvalue
    · exact (no_mark hname).1 rfl
    · rcases List.mem_cons.mp hvalue with heq | hvalue
      · exact absurd heq (by decide)
      · exact (no_mark hvalue).1 rfl
  have hsome : Utf8.encode (encodePair p) ≠ [] := by
    rw [encode_encodePair]
    exact List.append_ne_nil_of_right_ne_nil _ (List.cons_ne_nil _ _)
  unfold decode
  rw [String.toList_ofList, splitOn_of_not_mem hnone, List.filter_cons_of_pos (by simpa using hsome),
    List.filter_nil, List.map_singleton, decodePair_encodePair]

/-- How the standard writes a text. -/
def octetsText (s : String) : String := String.ofList ((Utf8.encode s.toList).flatMap octetText)

/-- How the standard writes a list of pairs. -/
def standardText (pairs : List (String × String)) : String :=
  "&".intercalate (pairs.map fun p => octetsText p.1 ++ "=" ++ octetsText p.2)

theorem ofList_encodePair (p : String × String) :
    String.ofList (encodePair p) = octetsText p.1 ++ "=" ++ octetsText p.2 := by
  rw [← String.toList_inj]
  simp [encodePair, octetsText, encodeText_eq]

/-- Pairs are joined by ampersands. -/
theorem encode_cons_cons (p q : String × String) (rest : List (String × String)) :
    encode (p :: q :: rest) = String.ofList (encodePair p) ++ "&" ++ encode (q :: rest) := by
  rw [← String.toList_inj]
  simp [encode, encodeList]

/-- **Lists of pairs are written as the standard says.** -/
theorem encode_eq (pairs : List (String × String)) : encode pairs = standardText pairs := by
  induction pairs with
  | nil => rfl
  | cons p rest ih =>
    cases rest with
    | nil => exact ofList_encodePair p
    | cons q rest =>
      rw [encode_cons_cons, ih, ofList_encodePair]
      exact String.intercalate_cons_cons.symm

/-- **A list of pairs that was written is read back.** -/
theorem decode_encode (pairs : List (String × String)) : decode (encode pairs) = pairs := by
  induction pairs with
  | nil => rfl
  | cons p rest ih =>
    cases rest with
    | nil => exact decode_encodePair p
    | cons q rest =>
      rw [encode_cons_cons, decode_append, decode_encodePair, ih]
      rfl

/-- The characters of a list of pairs. -/
def isFormChar (c : Char) : Bool := isWritten c || c == '=' || c == '&'

theorem isFormChar_encodePair (p : String × String) : ∀ c ∈ encodePair p, isFormChar c = true := by
  have htext : ∀ s, ∀ c ∈ encodeText s, isFormChar c = true := by
    intro s c hc
    simp [isFormChar, isWritten_encodeText s c hc]
  intro c hc
  rcases List.mem_append.mp hc with hname | hvalue
  · exact htext _ c hname
  · rcases List.mem_cons.mp hvalue with rfl | hvalue
    · rfl
    · exact htext _ c hvalue

/-- Only characters of forms stand in a written list. -/
theorem isFormChar_encodeList (pairs : List (String × String)) :
    ∀ c ∈ encodeList pairs, isFormChar c = true := by
  induction pairs with
  | nil => exact nofun
  | cons p rest ih =>
    cases rest with
    | nil => exact isFormChar_encodePair p
    | cons q rest =>
      intro c hc
      rcases List.mem_append.mp hc with hfirst | hrest
      · exact isFormChar_encodePair p c hfirst
      · rcases List.mem_cons.mp hrest with rfl | hrest
        · rfl
        · exact ih c hrest

theorem isFormChar_lt {c : Char} (h : isFormChar c = true) : c.toNat < 0x80 := by
  simp only [isFormChar, Bool.or_eq_true, beq_iff_eq] at h
  rcases h with (h | rfl) | rfl
  · exact isWritten_lt h
  all_goals decide

end FormEncoding
end Dashboard.Text
