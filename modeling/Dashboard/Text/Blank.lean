/-
  Dashboard.Text.Blank
  ────────────────────
  White space at the ends of a text.

  A character is blank when Unicode gives it the property White_Space: the
  five ASCII controls from tab to carriage return, the space, and nineteen
  more.  U+200B, U+FEFF and U+001C are not blank.
-/

namespace Dashboard.Text

/-! ## §1. The class. -/

/-- The characters with the Unicode property White_Space. -/
def isBlank (c : Char) : Bool :=
  let n := c.toNat
  (0x09 ≤ n && n ≤ 0x0D) || n == 0x20 || n == 0x85 || n == 0xA0 || n == 0x1680
    || (0x2000 ≤ n && n ≤ 0x200A) || n == 0x2028 || n == 0x2029 || n == 0x202F
    || n == 0x205F || n == 0x3000

/-- No character but blanks. -/
def isBlankList (cs : List Char) : Bool := cs.all isBlank

/-! ## §2. Trimming. -/

/-- A text without its leading blanks. -/
def trimStartList (cs : List Char) : List Char := cs.dropWhile isBlank

/-- A text without its trailing blanks. -/
def trimEndList (cs : List Char) : List Char :=
  (cs.reverse.dropWhile isBlank).reverse

/-- A text without the blanks at its two ends. -/
def trimList (cs : List Char) : List Char := trimEndList (trimStartList cs)

/-- `trimList` on strings. -/
def trim (s : String) : String := String.ofList (trimList s.toList)

/-- Whether a string has no character but blanks. -/
def isBlankText (s : String) : Bool := isBlankList s.toList

/-- The trimmed text, unless nothing is left of it. -/
def nonBlank? (s : String) : Option String :=
  if isBlankText s then none else some (trim s)

end Dashboard.Text
