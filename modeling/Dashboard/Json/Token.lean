/-
  Dashboard.Json.Token
  ────────────────────
  The lexemes of JSON text.

  Blanks are the space, the tab, the line feed and the carriage return.  A
  string holds no raw control character and no escape of a surrogate that is
  not half of a pair.  A number literal without point and exponent that fits
  64 bits, signed or not, is an integer; every other literal is a double, and
  one that overflows is refused.
-/
import Dashboard.Json.Value

namespace Dashboard.Json

/-! ## §1. Lexemes. -/

/-- A lexeme. -/
inductive Token where
  | openList
  | closeList
  | openObject
  | closeObject
  | colon
  | comma
  | null
  | bool (b : Bool)
  | number (n : Number)
  | text (s : String)
  deriving DecidableEq, Repr

/-- JSON's own blanks. -/
def isSpace (c : Char) : Bool := c == ' ' || c == '\t' || c == '\n' || c == '\r'

/-- The value of a hexadecimal digit. -/
def hexValue? (c : Char) : Option Nat :=
  if '0' ≤ c ∧ c ≤ '9' then some (c.toNat - 48)
  else if 'a' ≤ c ∧ c ≤ 'f' then some (c.toNat - 87)
  else if 'A' ≤ c ∧ c ≤ 'F' then some (c.toNat - 55)
  else none

/-- The number written by four hexadecimal digits. -/
def hexQuad? (a b c d : Char) : Option Nat := do
  let a ← hexValue? a
  let b ← hexValue? b
  let c ← hexValue? c
  let d ← hexValue? d
  pure (((a * 16 + b) * 16 + c) * 16 + d)

/-! ## §2. Strings. -/

/-- The character of a short escape. -/
def shortEscape? (c : Char) : Option Char :=
  if c = '"' ∨ c = '\\' ∨ c = '/' then some c
  else if c = 'b' then some (Char.ofNat 8)
  else if c = 'f' then some (Char.ofNat 12)
  else if c = 'n' then some '\n'
  else if c = 'r' then some '\r'
  else if c = 't' then some '\t'
  else none

/-- The character of a surrogate pair. -/
def ofSurrogates (high low : Nat) : Char :=
  Char.ofNat (0x10000 + (high - 0xD800) * 1024 + (low - 0xDC00))

/-- Read the rest of a string literal up to its closing quote. -/
def scanString : List Char → List Char → Option (List Char × List Char)
  | acc, '"' :: rest => some (acc.reverse, rest)
  | acc, '\\' :: 'u' :: a :: b :: c :: d :: '\\' :: 'u' :: e :: f :: g :: h :: rest =>
    match hexQuad? a b c d with
    | none => none
    | some n =>
      -- the first half of a pair takes the second escape with it
      if 0xD800 ≤ n ∧ n ≤ 0xDBFF then
        match hexQuad? e f g h with
        | none => none
        | some m =>
          if 0xDC00 ≤ m ∧ m ≤ 0xDFFF then scanString (ofSurrogates n m :: acc) rest
          else none
      -- a second half cannot come first
      else if 0xDC00 ≤ n ∧ n ≤ 0xDFFF then none
      else scanString (Char.ofNat n :: acc) ('\\' :: 'u' :: e :: f :: g :: h :: rest)
  | acc, '\\' :: 'u' :: a :: b :: c :: d :: rest =>
    match hexQuad? a b c d with
    | none => none
    | some n =>
      -- neither half of a pair stands alone
      if 0xD800 ≤ n ∧ n ≤ 0xDFFF then none
      else scanString (Char.ofNat n :: acc) rest
  | acc, '\\' :: c :: rest =>
    match shortEscape? c with
    | none => none
    | some e => scanString (e :: acc) rest
  -- control characters have to be escaped
  | acc, c :: rest => if c.toNat < 0x20 then none else scanString (c :: acc) rest
  | _, [] => none
termination_by _ cs => cs.length

/-! ## §3. Numbers. -/

/-- The value of a decimal digit. -/
def digitValue (c : Char) : Nat := c.toNat - 48

/-- The number written by decimal digits. -/
def digitsValue (ds : List Char) : Nat := ds.foldl (fun n c => n * 10 + digitValue c) 0

/-- The greatest exponent a literal's exponent field can hold. -/
def exponentLimit : Nat := 0x80000000

/-- The parts of a number literal. -/
structure Literal where
  negative : Bool
  integer : List Char
  fraction : Option (List Char)
  exponent : Option (Bool × List Char)

/-- An integer in the range of 64 bits, signed or not; minus zero is none. -/
def Literal.integer? (l : Literal) : Option Int :=
  match l.fraction, l.exponent with
  | none, none =>
    let n := digitsValue l.integer
    if l.negative then
      if 0 < n ∧ n ≤ 0x8000000000000000 then some (-(n : Int)) else none
    else if n < 0x10000000000000000 then some (n : Int)
    else none
  | _, _ => none

/-- The exponent field, or `none` where its magnitude passes the limit. -/
def Literal.exponent? (l : Literal) : Option Int :=
  match l.exponent with
  | none => some 0
  | some (negative, ds) =>
    let e := digitsValue ds
    if exponentLimit ≤ e then none else some (if negative then -(e : Int) else e)

/-- Whether every digit of the literal is a zero. -/
def Literal.isZero (l : Literal) : Bool :=
  l.integer.all (· == '0') && (l.fraction.getD []).all (· == '0')

/-- The double of a literal.  An exponent past the limit overflows upwards,
unless the digits are all zero, and vanishes downwards. -/
def Literal.double? (l : Literal) : Option Binary64 :=
  match l.exponent? with
  | some e =>
    Binary64.ofDecimal? l.negative (l.integer.map digitValue)
      ((l.fraction.getD []).map digitValue) e
  | none =>
    let small := match l.exponent with
      | some (negative, _) => negative
      | none => false
    -- too small for a double, or zero whatever the exponent
    if small || l.isZero then
      some (Binary64.ofFloat (if l.negative then -0.0 else 0.0))
    else none

/-- The number of a literal. -/
def Literal.number? (l : Literal) : Option Number :=
  match l.integer? with
  | some n => some (.integer n)
  | none => l.double?.map .double

/-- Split off the leading decimal digits. -/
def spanDigits (cs : List Char) : List Char × List Char :=
  (cs.takeWhile Char.isDigit, cs.dropWhile Char.isDigit)

/-- Read a fraction part, if a point follows. -/
def scanFraction (cs : List Char) : Option (Option (List Char) × List Char) :=
  match cs with
  | '.' :: rest =>
    match spanDigits rest with
    | ([], _) => none
    | (ds, left) => some (some ds, left)
  | _ => some (none, cs)

/-- Read an exponent's digits. -/
def scanExponentDigits (negative : Bool) (cs : List Char) :
    Option (Option (Bool × List Char) × List Char) :=
  match spanDigits cs with
  | ([], _) => none
  | (ds, left) => some (some (negative, ds), left)

/-- Read an exponent part, if an exponent mark follows. -/
def scanExponent (cs : List Char) : Option (Option (Bool × List Char) × List Char) :=
  match cs with
  | 'e' :: '+' :: rest | 'E' :: '+' :: rest => scanExponentDigits false rest
  | 'e' :: '-' :: rest | 'E' :: '-' :: rest => scanExponentDigits true rest
  | 'e' :: rest | 'E' :: rest => scanExponentDigits false rest
  | _ => some (none, cs)

/-- Read the digits before the point: a lone zero or digits that begin with
another one. -/
def scanInteger (cs : List Char) : Option (List Char × List Char) :=
  match cs with
  | '0' :: rest => some (['0'], rest)
  | _ =>
    match spanDigits cs with
    | ([], _) => none
    | (ds, left) => some (ds, left)

/-- Read a number literal after its sign. -/
def scanLiteral (negative : Bool) (cs : List Char) : Option (Literal × List Char) := do
  let (integer, cs) ← scanInteger cs
  let (fraction, cs) ← scanFraction cs
  let (exponent, cs) ← scanExponent cs
  pure (⟨negative, integer, fraction, exponent⟩, cs)

/-- Read a number. -/
def scanNumber (cs : List Char) : Option (Number × List Char) := do
  let (l, rest) ← match cs with
    | '-' :: cs => scanLiteral true cs
    | _ => scanLiteral false cs
  let n ← l.number?
  pure (n, rest)

/-! ## §4. The lexer. -/

/-- The lexeme at the head of the text; the rest of the text comes back. -/
def scanToken (c : Char) (rest : List Char) : Option (Token × List Char) :=
  match c, rest with
  | '[', _ => some (.openList, rest)
  | ']', _ => some (.closeList, rest)
  | '\x7b', _ => some (.openObject, rest)
  | '\x7d', _ => some (.closeObject, rest)
  | ':', _ => some (.colon, rest)
  | ',', _ => some (.comma, rest)
  | '"', _ => (scanString [] rest).map fun (s, left) => (.text (String.ofList s), left)
  | 'n', 'u' :: 'l' :: 'l' :: left => some (.null, left)
  | 't', 'r' :: 'u' :: 'e' :: left => some (.bool true, left)
  | 'f', 'a' :: 'l' :: 's' :: 'e' :: left => some (.bool false, left)
  | _, _ => (scanNumber (c :: rest)).map fun (n, left) => (.number n, left)

/-- All lexemes of a text.  A step that would not use up text ends the reading,
which no step does. -/
def lex : List Char → Option (List Token)
  | [] => some []
  | c :: rest =>
    if isSpace c then lex rest
    else
      match scanToken c rest with
      | none => none
      | some (t, left) =>
        if left.length ≤ rest.length then (lex left).map (t :: ·) else none
termination_by cs => cs.length

end Dashboard.Json
