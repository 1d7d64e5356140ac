/-
  Dashboard.Text.Utf8
  ───────────────────
  The UTF-8 form of a text, and two readers of octets.

  The strict reader accepts exactly the well-formed octet sequences.  The
  replacing reader accepts everything: each longest run of octets that could
  have begun a character but does not finish one becomes U+FFFD.  Both read
  one character at a time with `lead` and `within`, which say for a first
  octet how many more follow and in which range the second one must lie.

  Main results:
    encode_append — the form of two texts is the form of their concatenation
-/

namespace Dashboard.Text.Utf8

/-! ## §1. Writing. -/

/-- The continuation octet that carries the low six bits of `n`. -/
def tailOctet (n : Nat) : UInt8 := UInt8.ofNat (0x80 + n % 64)

/-- The one to four octets of a character. -/
def encodeChar (c : Char) : List UInt8 :=
  let n := c.toNat
  if n < 0x80 then [UInt8.ofNat n]
  else if n < 0x800 then [UInt8.ofNat (0xC0 + n / 64), tailOctet n]
  else if n < 0x10000 then
    [UInt8.ofNat (0xE0 + n / 4096), tailOctet (n / 64), tailOctet n]
  else
    [UInt8.ofNat (0xF0 + n / 262144), tailOctet (n / 4096), tailOctet (n / 64),
      tailOctet n]

/-- The octets of a text. -/
def encode (cs : List Char) : List UInt8 := cs.flatMap encodeChar

theorem encode_append (a b : List Char) : encode (a ++ b) = encode a ++ encode b := by
  simp [encode]

/-! ## §2. One character. -/

/-- What a first octet announces: the number of further octets, the range of
the next one, and the bits it contributes. -/
structure Lead where
  more : Nat
  low : Nat
  high : Nat
  bits : Nat

/-- The announcement of a first octet above U+007F, if it has one. -/
def lead (b : Nat) : Option Lead :=
  if 0xC2 ≤ b ∧ b ≤ 0xDF then some ⟨1, 0x80, 0xBF, b - 0xC0⟩
  else if b = 0xE0 then some ⟨2, 0xA0, 0xBF, 0⟩
  else if b = 0xED then some ⟨2, 0x80, 0x9F, 0xD⟩
  else if 0xE1 ≤ b ∧ b ≤ 0xEF then some ⟨2, 0x80, 0xBF, b - 0xE0⟩
  else if b = 0xF0 then some ⟨3, 0x90, 0xBF, 0⟩
  else if 0xF1 ≤ b ∧ b ≤ 0xF3 then some ⟨3, 0x80, 0xBF, b - 0xF0⟩
  else if b = 0xF4 then some ⟨3, 0x80, 0x8F, 4⟩
  else none

/-- Whether an octet lies in a range. -/
def within (low high : Nat) (b : UInt8) : Bool := low ≤ b.toNat && b.toNat ≤ high

/-- What reading one character found. -/
inductive Step where
  /-- A whole character. -/
  | char (c : Char)
  /-- The beginning of a character that is not finished. -/
  | broken

/-- Read the octets after a first one; the octets not read come back. -/
def continueChar : Nat → Nat → Nat → Nat → List UInt8 → Step × List UInt8
  | 0, _, _, bits, rest => (.char (Char.ofNat bits), rest)
  | _ + 1, _, _, _, [] => (.broken, [])
  | more + 1, low, high, bits, b :: rest =>
      if within low high b then
        continueChar more 0x80 0xBF (bits * 64 + b.toNat % 64) rest
      else (.broken, b :: rest)

/-- Read one character that begins with the octet `b`. -/
def readChar (b : UInt8) (rest : List UInt8) : Step × List UInt8 :=
  if b.toNat < 0x80 then (.char (Char.ofNat b.toNat), rest)
  else
    match lead b.toNat with
    | none => (.broken, rest)
    | some l => continueChar l.more l.low l.high l.bits rest

theorem continueChar_length (more low high bits : Nat) (bs : List UInt8) :
    (continueChar more low high bits bs).2.length ≤ bs.length := by
  induction bs generalizing more low high bits with
  | nil => cases more <;> simp [continueChar]
  | cons b rest ih =>
    cases more with
    | zero => simp [continueChar]
    | succ more =>
      simp only [continueChar]
      split
      · exact Nat.le_succ_of_le (ih _ _ _ _)
      · exact Nat.le_refl _

theorem readChar_length (b : UInt8) (rest : List UInt8) :
    (readChar b rest).2.length ≤ rest.length := by
  unfold readChar
  split
  · exact Nat.le_refl _
  · split
    · exact Nat.le_refl _
    · exact continueChar_length _ _ _ _ _

/-! ## §3. Whole texts. -/

/-- Every character of an octet sequence, `none` standing for each broken one. -/
def steps : List UInt8 → List (Option Char)
  | [] => []
  | b :: rest =>
    let found := readChar b rest
    (match found.1 with
      | .char c => some c
      | .broken => none) :: steps found.2
termination_by bs => bs.length
decreasing_by exact Nat.lt_succ_of_le (readChar_length b rest)

/-- The strict reader: no broken character. -/
def decode? (bs : List UInt8) : Option (List Char) := (steps bs).mapM id

/-- The replacing reader: U+FFFD for each broken character. -/
def decodeReplacing (bs : List UInt8) : List Char :=
  (steps bs).map (·.getD (Char.ofNat 0xFFFD))

end Dashboard.Text.Utf8
