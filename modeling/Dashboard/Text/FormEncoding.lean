/-
  Dashboard.Text.FormEncoding
  ───────────────────────────
  Lists of pairs as `application/x-www-form-urlencoded` text.

  Pairs are joined by `&`, a name and its value by `=`.  A blank is written
  `+`; ASCII letters, digits and `*-._` stand for themselves; every other
  octet is percent encoded.  Reading skips empty pairs, takes a pair without
  `=` as a name with an empty value, and puts U+FFFD for octets that are no
  UTF-8.
-/
import Dashboard.Text.Percent

namespace Dashboard.Text.FormEncoding

/-! ## §1. Writing. -/

/-- The characters that stand for themselves. -/
def isPlain (c : Char) : Bool :=
  c.isAlphanum || c == '*' || c == '-' || c == '.' || c == '_'

/-- One character of a name or value. -/
def encodeChar (c : Char) : List Char :=
  if c = ' ' then ['+']
  else if isPlain c then [c]
  else (Utf8.encodeChar c).flatMap Percent.encodeOctet

/-- A name or a value. -/
def encodeText (s : String) : List Char := s.toList.flatMap encodeChar

/-- A pair. -/
def encodePair (p : String × String) : List Char :=
  encodeText p.1 ++ '=' :: encodeText p.2

/-- Pairs joined by `&`. -/
def encodeList : List (String × String) → List Char
  | [] => []
  | [p] => encodePair p
  | p :: q :: rest => encodePair p ++ '&' :: encodeList (q :: rest)

/-- The text of a list of pairs. -/
def encode (pairs : List (String × String)) : String := String.ofList (encodeList pairs)

/-! ## §2. Reading. -/

/-- The pieces of a list between the items equal to a mark. -/
def splitOn {α : Type} [DecidableEq α] (mark : α) : List α → List (List α)
  | [] => [[]]
  | a :: rest =>
    if a = mark then [] :: splitOn mark rest
    else
      match splitOn mark rest with
      | [] => [[a]]
      | piece :: more => (a :: piece) :: more

/-- The part before the first mark, and the part after it. -/
def splitFirst {α : Type} [DecidableEq α] (mark : α) (l : List α) : List α × List α :=
  (l.takeWhile (· ≠ mark), (l.dropWhile (· ≠ mark)).drop 1)

/-- The octet of a blank where the form has the octet of a plus. -/
def plusToBlank (b : UInt8) : UInt8 := if b = 0x2B then 0x20 else b

/-- A name or a value from its octets. -/
def decodeText (bs : List UInt8) : String :=
  String.ofList (Utf8.decodeReplacing (Percent.decode (bs.map plusToBlank)))

/-- A pair from its octets. -/
def decodePair (bs : List UInt8) : String × String :=
  let (name, value) := splitFirst 0x3D bs
  (decodeText name, decodeText value)

/-- The pairs of a text. -/
def decode (s : String) : List (String × String) :=
  ((splitOn 0x26 (Utf8.encode s.toList)).filter fun piece => piece ≠ []).map decodePair

end Dashboard.Text.FormEncoding
