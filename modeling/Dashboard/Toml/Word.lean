/-
  Dashboard.Toml.Word
  ───────────────────
  The values that are written without quotes and brackets: booleans, integers,
  floats, dates and times.

  An integer is written in ten, or in sixteen, eight or two after `0x`, `0o`
  or `0b` and then without a sign, and fits 64 bits with sign.  A float has a
  fraction or an exponent, or is `inf` or `nan`.  Between two digits one low
  line may stand.  A number in ten has no leading zero.
-/
import Dashboard.Decimal.Nearest
import Dashboard.Json.Token
import Dashboard.Time.Rfc3339

namespace Dashboard.Toml

open Dashboard (Binary64)
open Dashboard.Decimal (isExponentMark nearest signed)
open Dashboard.Json (Value)
open Dashboard.Time (Rfc3339.digit? Rfc3339.date? Rfc3339.separator? Rfc3339.time?
  Rfc3339.fraction? Rfc3339.offsetSize?)

/-! ## §1. Digits. -/

/-- Digits, two of which may be parted by a low line. -/
def grouped? (digit? : Char → Option Nat) : List Char → Option (List Nat)
  | [] => none
  | [c] => (digit? c).map fun d => [d]
  | c :: '_' :: rest => do
    let d ← digit? c
    let ds ← grouped? digit? rest
    pure (d :: ds)
  | c :: rest => do
    let d ← digit? c
    let ds ← grouped? digit? rest
    pure (d :: ds)

/-- The value of a digit in a base up to sixteen. -/
def digitBelow? (base : Nat) (c : Char) : Option Nat :=
  (Json.hexValue? c).bind fun d => if d < base then some d else none

/-- The number that digits write. -/
def ofDigits (base : Nat) (ds : List Nat) : Nat := ds.foldl (fun n d => n * base + d) 0

/-- The digits of a number in ten, without a leading zero. -/
def wholeDigits? (cs : List Char) : Option (List Nat) := do
  let ds ← grouped? Rfc3339.digit? cs
  if ds.length = 1 ∨ ds.head? ≠ some 0 then some ds else none

/-! ## §2. Numbers. -/

/-- An integer of 64 bits with sign. -/
def integer? (n : Int) : Option Value :=
  if -0x8000000000000000 ≤ n ∧ n < 0x8000000000000000 then some (.ofInt n) else none

/-- An integer in a base other than ten, after its mark. -/
def based? (base : Nat) (cs : List Char) : Option Value := do
  let ds ← grouped? (digitBelow? base) cs
  integer? (ofDigits base ds)

/-- A float, which does not exceed the greatest double. -/
def float? (negative : Bool) (x : Float) : Option Value :=
  if negative then some (.number (.double (.ofFloat (-x))))
  else if x.isInf then none
  else some (.number (.double (.ofFloat x)))

/-- The exponent after its mark, if there is one. -/
def exponent? : List Char → Option Int
  | [] => some 0
  | _ :: cs => do
    let (negative, cs) := signed cs
    let ds ← grouped? Rfc3339.digit? cs
    let n : Int := ofDigits 10 ds
    pure (if negative then -n else n)

/-- The digits of the fraction after the point, if there is one. -/
def fractionDigits? : List Char → Option (List Nat)
  | '.' :: cs => grouped? Rfc3339.digit? cs
  | [] => some []
  | _ => none

/-- A number in ten. -/
def decimal? (cs : List Char) : Option Value := do
  let (negative, body) := signed cs
  let before := body.takeWhile fun c => !isExponentMark c
  let whole ← wholeDigits? (before.takeWhile (· ≠ '.'))
  let fraction ← fractionDigits? (before.dropWhile (· ≠ '.'))
  let exponent ← exponent? (body.dropWhile fun c => !isExponentMark c)
  if body.all fun c => c.isDigit || c == '_' then
    let n : Int := ofDigits 10 whole
    integer? (if negative then -n else n)
  else float? negative (nearest (ofDigits 10 (whole ++ fraction)) (exponent - fraction.length))

/-- Infinity or not a number, which may have a sign. -/
def special? (cs : List Char) : Option Value :=
  let (negative, name) := signed cs
  let x : Float := if name = "inf".toList then 1.0 / 0.0 else 0.0 / 0.0
  if name = "inf".toList ∨ name = "nan".toList then
    some (.number (.double (.ofFloat (if negative then -x else x))))
  else none

/-! ## §3. Dates and times. -/

/-- A time of day up to the end of the word. -/
def clockTime? (cs : List Char) : Option (List Char) := do
  let (_, cs) ← Rfc3339.time? cs
  let (_, cs) ← Rfc3339.fraction? cs
  pure cs

/-- An offset from universal time up to the end of the word, or nothing. -/
def isOffset : List Char → Bool
  | [] | ['Z'] | ['z'] => true
  | c :: cs =>
    (c == '+' || c == '-') && (Rfc3339.offsetSize? cs).any fun r => r.2.isEmpty

/-- A time of day after its date, with or without an offset. -/
def isTimeOfDate (cs : List Char) : Bool :=
  ((Rfc3339.separator? cs).bind clockTime?).any isOffset

/-- A date, a time of day, or a date with a time of day. -/
def isMoment (cs : List Char) : Bool :=
  (Rfc3339.date? cs).any (fun r => r.2.isEmpty || isTimeOfDate r.2)
    || (clockTime? cs).any List.isEmpty

/-- A date or a time as data: the member has a name of its own, so the value
is taken for nothing else. -/
def moment (cs : List Char) : Value := .object [("$moment", .text (String.ofList cs))]

/-! ## §4. Words. -/

/-- The characters of a word. -/
def isWordChar (c : Char) : Bool :=
  c.isAlphanum || c == '_' || c == '+' || c == '-' || c == '.' || c == ':'

/-- The value that a word writes. -/
def ofWord? (cs : List Char) : Option Value :=
  if cs = "true".toList then some (.bool true)
  else if cs = "false".toList then some (.bool false)
  else if isMoment cs then some (moment cs)
  else
    match cs with
    | '0' :: 'x' :: rest => based? 16 rest
    | '0' :: 'o' :: rest => based? 8 rest
    | '0' :: 'b' :: rest => based? 2 rest
    | _ => (special? cs).orElse fun _ => decimal? cs

/-- The word at the start of a text: a blank and a digit after a date belong
to it. -/
def wordSpan (cs : List Char) : List Char × List Char :=
  let word := cs.takeWhile isWordChar
  let rest := cs.dropWhile isWordChar
  match rest with
  | ' ' :: c :: after =>
    if c.isDigit ∧ (Rfc3339.date? word).any (·.2.isEmpty) then
      (word ++ ' ' :: (c :: after).takeWhile isWordChar, (c :: after).dropWhile isWordChar)
    else (word, rest)
  | _ => (word, rest)

/-- The value of the word at the start of a text. -/
def word? (cs : List Char) : Option (Value × List Char) :=
  let (word, rest) := wordSpan cs
  (ofWord? word).map (·, rest)

end Dashboard.Toml
