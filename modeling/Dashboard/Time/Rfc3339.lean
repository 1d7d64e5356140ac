/-
  Dashboard.Time.Rfc3339
  ──────────────────────
  Reading a timestamp of RFC 3339 and ordering two of them.

  The date and the time are parted by `T`, `t` or a blank; a fraction has at
  least one digit, and digits past the ninth are dropped; the offset is `Z`,
  `z` or a sign (a hyphen, a plus or U+2212) with hours and minutes, less than
  a whole day in size.  The second 60 is read as the second 59 with one second
  added to its fraction, so it stands after every instant of that second.
-/
import Dashboard.Time.Calendar

namespace Dashboard.Time

/-- A point in time: seconds since 1970-01-01T00:00:00Z and nanoseconds. -/
structure Moment where
  seconds : Int
  nanos : Nat
  deriving DecidableEq, Repr

/-- Earlier in time. -/
def Moment.before (a b : Moment) : Bool :=
  a.seconds < b.seconds || (a.seconds == b.seconds && a.nanos < b.nanos)

namespace Rfc3339

/-! ## §1. Pieces. -/

/-- The value of a decimal digit character. -/
def digit? (c : Char) : Option Nat := if c.isDigit then some (c.toNat - 48) else none

/-- Exactly two digits. -/
def twoDigits? : List Char → Option (Nat × List Char)
  | a :: b :: rest => do
    let a ← digit? a
    let b ← digit? b
    pure (a * 10 + b, rest)
  | _ => none

/-- One given character. -/
def char? (c : Char) : List Char → Option (List Char)
  | d :: rest => if d = c then some rest else none
  | [] => none

/-- Year, month and day with hyphens. -/
def date? (cs : List Char) : Option (Date × List Char) := do
  let (century, cs) ← twoDigits? cs
  let (year, cs) ← twoDigits? cs
  let cs ← char? '-' cs
  let (month, cs) ← twoDigits? cs
  let cs ← char? '-' cs
  let (day, cs) ← twoDigits? cs
  let d : Date := ⟨century * 100 + year, month, day⟩
  if d.isValid then pure (d, cs) else none

/-- The mark between the date and the time. -/
def separator? : List Char → Option (List Char)
  | c :: rest => if c = 'T' ∨ c = 't' ∨ c = ' ' then some rest else none
  | [] => none

/-- Hours, minutes and seconds with colons. -/
def time? (cs : List Char) : Option ((Nat × Nat × Nat) × List Char) := do
  let (h, cs) ← twoDigits? cs
  let cs ← char? ':' cs
  let (m, cs) ← twoDigits? cs
  let cs ← char? ':' cs
  let (s, cs) ← twoDigits? cs
  if h < 24 ∧ m < 60 ∧ s ≤ 60 then pure ((h, m, s), cs) else none

/-- The nanoseconds of fraction digits: nine of them, filled up with zeros. -/
def nanosOf (ds : List Char) : Nat :=
  ((ds ++ List.replicate 9 '0').take 9).foldl (fun n c => n * 10 + (c.toNat - 48)) 0

/-- An optional fraction of the second. -/
def fraction? : List Char → Option (Nat × List Char)
  | '.' :: rest =>
    match rest.takeWhile Char.isDigit with
    | [] => none
    | ds => some (nanosOf ds, rest.dropWhile Char.isDigit)
  | cs => some (0, cs)

/-- Hours and minutes of an offset, in seconds. -/
def offsetSize? (cs : List Char) : Option (Nat × List Char) := do
  let (h, cs) ← twoDigits? cs
  let cs ← char? ':' cs
  let (m, cs) ← twoDigits? cs
  if m < 60 ∧ h < 24 then pure (h * 3600 + m * 60, cs) else none

/-- The offset from UTC in seconds. -/
def offset? : List Char → Option (Int × List Char)
  | [] => none
  | c :: rest =>
    if c = 'Z' ∨ c = 'z' then some (0, rest)
    else if c = '+' then (offsetSize? rest).map fun (n, cs) => ((n : Int), cs)
    else if c = '-' ∨ c = Char.ofNat 0x2212 then
      (offsetSize? rest).map fun (n, cs) => (-(n : Int), cs)
    else none

/-! ## §2. The whole. -/

/-- The moment that a timestamp names. -/
def moment? (s : String) : Option Moment := do
  let (d, cs) ← date? s.toList
  let cs ← separator? cs
  let ((h, m, sec), cs) ← time? cs
  let (nanos, cs) ← fraction? cs
  let (offset, cs) ← offset? cs
  if cs ≠ [] then none
  else
    let whole : Nat := h * 3600 + m * 60 + min sec 59
    let extra : Nat := if sec = 60 then 1000000000 else 0
    pure ⟨d.dayNumber * 86400 + (whole : Int) - offset, nanos + extra⟩

/-- Whether the first timestamp is strictly before the second.  A text that is
no timestamp is before nothing and after nothing. -/
def isBefore (a b : String) : Bool :=
  match moment? a, moment? b with
  | some a, some b => a.before b
  | _, _ => false

end Rfc3339
end Dashboard.Time
