/-
  Dashboard.Json.Printer
  ──────────────────────
  The text of a value: compact, or laid out with two blanks per level.

  A string escapes the quote, the backslash and the controls below U+0020,
  five of them by a letter and the others by four hexadecimal digits.  An
  empty container is written without a line break in both forms.
-/
import Dashboard.Json.Value
import Dashboard.Decimal.Shortest

namespace Dashboard.Json

/-! ## §1. Scalars. -/

/-- The lower case hexadecimal digit of a number below sixteen. -/
def hexDigit (n : Nat) : Char :=
  if n < 10 then Char.ofNat (48 + n) else Char.ofNat (87 + n)

/-- A character inside a string literal. -/
def escapeChar (c : Char) : List Char :=
  if c = '"' then ['\\', '"']
  else if c = '\\' then ['\\', '\\']
  else if c = Char.ofNat 8 then ['\\', 'b']
  else if c = Char.ofNat 12 then ['\\', 'f']
  else if c = '\n' then ['\\', 'n']
  else if c = '\r' then ['\\', 'r']
  else if c = '\t' then ['\\', 't']
  else if c.toNat < 0x20 then
    ['\\', 'u', '0', '0', hexDigit (c.toNat / 16), hexDigit (c.toNat % 16)]
  else [c]

/-- A string literal. -/
def quoteList (s : String) : List Char :=
  '"' :: (s.toList.flatMap escapeChar ++ ['"'])

/-- A number literal. -/
def Number.render : Number → List Char
  | .integer n => (toString n).toList
  | .double x => Decimal.render x

/-! ## §2. Compact text. -/

mutual
/-- The compact text of a value. -/
def Value.render : Value → List Char
  | .null => "null".toList
  | .bool true => "true".toList
  | .bool false => "false".toList
  | .number n => n.render
  | .text s => quoteList s
  | .list items => '[' :: renderItems items ++ [']']
  | .object m => '\x7b' :: renderMembers m ++ ['\x7d']

/-- Items with commas between them. -/
def renderItems : List Value → List Char
  | [] => []
  | [v] => v.render
  | v :: w :: rest => v.render ++ ',' :: renderItems (w :: rest)

/-- Members with commas between them. -/
def renderMembers : Members → List Char
  | [] => []
  | [(k, v)] => quoteList k ++ ':' :: v.render
  | (k, v) :: kv :: rest =>
    quoteList k ++ ':' :: v.render ++ ',' :: renderMembers (kv :: rest)
end

/-- The compact text of a value. -/
def Value.compact (v : Value) : String := String.ofList v.render

/-! ## §3. Laid out text. -/

/-- A line break and the blanks of a nesting depth. -/
def newline (depth : Nat) : List Char := '\n' :: List.replicate (2 * depth) ' '

mutual
/-- The laid out text of a value at a nesting depth. -/
def Value.layout (depth : Nat) : Value → List Char
  | .list [] => ['[', ']']
  | .list (v :: rest) =>
    '[' :: layoutItems (depth + 1) (v :: rest) ++ newline depth ++ [']']
  | .object [] => ['\x7b', '\x7d']
  | .object (kv :: rest) =>
    '\x7b' :: layoutMembers (depth + 1) (kv :: rest) ++ newline depth ++ ['\x7d']
  | .null => "null".toList
  | .bool true => "true".toList
  | .bool false => "false".toList
  | .number n => n.render
  | .text s => quoteList s

/-- Items, each on its own line. -/
def layoutItems (depth : Nat) : List Value → List Char
  | [] => []
  | [v] => newline depth ++ v.layout depth
  | v :: w :: rest =>
    newline depth ++ v.layout depth ++ ',' :: layoutItems depth (w :: rest)

/-- Members, each on its own line. -/
def layoutMembers (depth : Nat) : Members → List Char
  | [] => []
  | [(k, v)] => newline depth ++ quoteList k ++ ':' :: ' ' :: v.layout depth
  | (k, v) :: kv :: rest =>
    newline depth ++ quoteList k ++ ':' :: ' ' :: v.layout depth
      ++ ',' :: layoutMembers depth (kv :: rest)
end

/-- The laid out text of a value. -/
def Value.pretty (v : Value) : String := String.ofList (v.layout 0)

end Dashboard.Json
