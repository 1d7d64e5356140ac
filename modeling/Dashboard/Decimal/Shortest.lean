/-
  Dashboard.Decimal.Shortest
  ──────────────────────────
  The fewest decimal digits that still name a double, and their two layouts.

  A finite magnitude `m · 2 ^ q` is the nearest double to every real of an
  interval around it, whose ends count exactly when `m` is even.  For one,
  two, … seventeen digits the two neighbours of the magnitude on that decimal
  grid are tested in exact arithmetic; the first grid with a neighbour inside
  the interval wins, the nearer neighbour first, the even one on a tie.
-/
import Dashboard.Decimal.Binary64

namespace Dashboard.Decimal

/-! ## §1. The interval of a double. -/

/-- The value and the two ends of its rounding interval, as numerators over
one denominator. -/
structure Interval where
  low : Nat
  value : Nat
  high : Nat
  denominator : Nat
  closed : Bool

/-- The rounding interval of a non-zero magnitude.  The lower neighbour of a
power of two is half as far away as the upper one. -/
def interval (x : Binary64) : Interval :=
  let m := x.significand
  let below := if x.fractionField = 0 ∧ 1 < x.exponentField then 1 else 2
  let up := Nat.pow 2 x.power.toNat
  let down := Nat.pow 2 (-x.power).toNat
  ⟨(4 * m - below) * up, 4 * m * up, (4 * m + 2) * up, 4 * down, m % 2 = 0⟩

/-- Whether the grid point `a · 10 ^ k` lies in the interval. -/
def Interval.admits (i : Interval) (a : Nat) (k : Int) : Bool :=
  let p := a * Nat.pow 10 k.toNat * i.denominator
  let scale := Nat.pow 10 (-k).toNat
  if i.closed then i.low * scale ≤ p && p ≤ i.high * scale
  else i.low * scale < p && p < i.high * scale

/-! ## §2. The search. -/

/-- Digits and exponent of a decimal `digits · 10 ^ exponent`. -/
structure Digits where
  digits : Nat
  exponent : Int
  deriving DecidableEq, Repr

/-- The quotient of the value by `10 ^ k`, with twice its remainder compared to
the divisor. -/
def Interval.quotient (i : Interval) (k : Int) : Nat × Ordering :=
  let num := i.value * Nat.pow 10 (-k).toNat
  let den := i.denominator * Nat.pow 10 k.toNat
  (num / den, compare (2 * (num % den)) den)

/-- The neighbour of the value on the grid `10 ^ k` that names it, if any. -/
def Interval.neighbour? (i : Interval) (k : Int) : Option Nat :=
  let (a, side) := i.quotient k
  -- halfway between the two, the even one comes first
  let nearerFirst := match side with
    | .lt => true
    | .gt => false
    | .eq => a % 2 = 0
  let first := if nearerFirst then a else a + 1
  let second := if nearerFirst then a + 1 else a
  if i.admits first k then some first
  else if i.admits second k then some second
  else none

/-- Whether the value is at least `10 ^ p`. -/
def Interval.reaches (i : Interval) (p : Int) : Bool :=
  Nat.pow 10 p.toNat * i.denominator ≤ i.value * Nat.pow 10 (-p).toNat

/-- The greatest `p` with `10 ^ p` at most the value, searched downwards. -/
def Interval.leadingPlace (i : Interval) : Nat → Int → Int
  | 0, p => p
  | fuel + 1, p => if i.reaches p then p else i.leadingPlace fuel (p - 1)

/-- The first grid, coarse to fine, on which a neighbour names the value. -/
def Interval.search (i : Interval) : Nat → Int → Digits
  | 0, k => ⟨(i.quotient k).1, k⟩
  | fuel + 1, k =>
    match i.neighbour? k with
    | some a => ⟨a, k⟩
    | none => i.search fuel (k - 1)

/-- Drop trailing zeros of the digits. -/
def Digits.strip : Nat → Digits → Digits
  | 0, d => d
  | fuel + 1, d =>
    if d.digits % 10 = 0 ∧ d.digits ≠ 0 then
      Digits.strip fuel ⟨d.digits / 10, d.exponent + 1⟩
    else d

/-- An exponent of ten that is at least the leading place: every power of two
below `2 ^ b` is below ten to the power `b · 309 / 1024 + 1`. -/
def placeAbove (x : Binary64) : Int :=
  let bits := (x.significand.log2 : Int) + 1 + x.power
  Int.fdiv (bits * 309) 1024 + 1

/-- The fewest digits that name the magnitude of a non-zero double. -/
def shortest (x : Binary64) : Digits :=
  let i := interval x
  let place := i.leadingPlace 400 (placeAbove x)
  (i.search 17 place).strip 20

/-! ## §3. Layout. -/

/-- Where plain notation ends: plain numbers have their point at most
`mostBefore` digits after the first digit and at most `mostZeros` zeros right
after it. -/
structure Layout where
  mostBefore : Int
  mostZeros : Int

/-- Numbers from 0.00001 up to below ten to the power 16 are written plainly. -/
def Layout.json : Layout := ⟨16, 4⟩

/-- A run of zeros. -/
def zeros (n : Int) : List Char := List.replicate n.toNat '0'

/-- The decimal digits of a number. -/
def digitChars (n : Nat) : List Char := Nat.toDigits 10 n

/-- Digits laid out plainly, always with a point, or with a signed exponent. -/
def Digits.layout (l : Layout) (d : Digits) : List Char :=
  let ds := digitChars d.digits
  let point : Int := (ds.length : Int) + d.exponent
  -- `point` digits stand in front of the point
  if 0 ≤ d.exponent ∧ point ≤ l.mostBefore then
    ds ++ zeros d.exponent ++ ['.', '0']
  else if 0 < point ∧ point ≤ l.mostBefore then
    ds.take point.toNat ++ '.' :: ds.drop point.toNat
  else if -l.mostZeros ≤ point ∧ point ≤ 0 then
    '0' :: '.' :: zeros (-point) ++ ds
  else
    let e := point - 1
    let sign := if e < 0 then '-' else '+'
    let mantissa := match ds with
      | [] => []
      | [c] => [c]
      | c :: rest => c :: '.' :: rest
    mantissa ++ 'e' :: sign :: digitChars e.natAbs

/-- The text of a finite double. -/
def render (x : Binary64) : List Char :=
  let body := if x.isZero then ['0', '.', '0'] else (shortest x).layout .json
  if x.isNegative then '-' :: body else body

end Dashboard.Decimal
