/-
  Dashboard.Text.Quoted
  ─────────────────────
  A text between double quotes, on one line, with nothing hidden in it.

  The quote and the backslash are escaped by a backslash, the line feed, the
  carriage return, the tab and the character 0 by a backslash and a letter,
  and every other character that cannot be shown by its number, as in
  `\u{200b}`.  A single quote stands as it is.
-/
import Dashboard.Text.Printable

namespace Dashboard.Text

/-- The number of a character between braces, in lower case hexadecimal. -/
def numberEscape (c : Char) : List Char :=
  ['\\', 'u', '\x7b'] ++ Nat.toDigits 16 c.toNat ++ ['\x7d']

/-- A character as a quotation shows it. -/
def escape (c : Char) : List Char :=
  if c = '"' ∨ c = '\\' then ['\\', c]
  else if c = '\n' then ['\\', 'n']
  else if c = '\r' then ['\\', 'r']
  else if c = '\t' then ['\\', 't']
  else if c = Char.ofNat 0 then ['\\', '0']
  else if isPrintable c then [c]
  else numberEscape c

/-- A text between quotes. -/
def quoted (s : String) : String := String.ofList ('"' :: s.toList.flatMap escape ++ ['"'])

end Dashboard.Text
