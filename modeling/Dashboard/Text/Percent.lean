/-
  Dashboard.Text.Percent
  ──────────────────────
  Percent encoding: an octet as `%` and two hexadecimal digits.

  Writing uses upper case digits and works on the octets of a character;
  reading takes digits of either case and leaves a `%` that two digits do not
  follow as it is.

  Main results:
    decode_append_plain — octets other than `%` stand for themselves
-/
import Dashboard.Text.Utf8

namespace Dashboard.Text.Percent

/-- The octet of `%`. -/
def mark : UInt8 := 0x25

/-- The value of a hexadecimal digit octet. -/
def hexValue? (b : UInt8) : Option Nat :=
  let n := b.toNat
  if 0x30 ≤ n ∧ n ≤ 0x39 then some (n - 0x30)
  else if 0x41 ≤ n ∧ n ≤ 0x46 then some (n - 0x37)
  else if 0x61 ≤ n ∧ n ≤ 0x66 then some (n - 0x57)
  else none

/-- The upper case hexadecimal digit of a number below sixteen. -/
def hexDigit (n : Nat) : Char := Char.ofNat (if n < 10 then 0x30 + n else 0x37 + n)

/-- The octet behind `%` and two digits. -/
def pair? (a b : UInt8) : Option UInt8 :=
  match hexValue? a, hexValue? b with
  | some h, some l => some (UInt8.ofNat (h * 16 + l))
  | _, _ => none

/-- Undo percent encoding. -/
def decode : List UInt8 → List UInt8
  | c :: a :: b :: rest =>
    if c = mark then
      match pair? a b with
      | some o => o :: decode rest
      | none => c :: decode (a :: b :: rest)
    else c :: decode (a :: b :: rest)
  | bs => bs

/-- An octet written with `%`. -/
def encodeOctet (b : UInt8) : List Char :=
  ['%', hexDigit (b.toNat / 16), hexDigit (b.toNat % 16)]

/-- A character, its octets written with `%` when it is in the given class. -/
def encodeChar (escaped : Char → Bool) (c : Char) : List Char :=
  if escaped c then (Utf8.encodeChar c).flatMap encodeOctet else [c]

/-- A text, the characters of a class written with `%`. -/
def encode (escaped : Char → Bool) (cs : List Char) : List Char :=
  cs.flatMap (encodeChar escaped)

theorem decode_append_plain (c : UInt8) (bs : List UInt8) (h : c ≠ mark) :
    decode (c :: bs) = c :: decode bs := by
  match bs with
  | [] => simp [decode]
  | [a] => simp [decode]
  | a :: b :: rest => rw [decode, if_neg h]

/-! ## Classes of characters. -/

/-- Controls and everything outside ASCII. -/
def isControl (c : Char) : Bool := c.toNat < 0x20 || 0x7F ≤ c.toNat

/-- One of the given characters. -/
def oneOf (s : String) (c : Char) : Bool := s.toList.contains c

end Dashboard.Text.Percent
