/-
  Dashboard.Decimal.Binary64
  ──────────────────────────
  Double-precision numbers by their bits, and how a decimal is read into one.

  A `Binary64` is the 64-bit word of an IEEE 754 double.  Two words name the
  same number when they are equal or both are a zero (`Binary64.same`); the
  words of this library are never NaN.

  A decimal literal is read in two steps: its digits accumulate into a 64-bit
  significand, digits past the 64-bit range being dropped with only their
  place counted, and the significand is then scaled by one power of ten in
  double precision.  The reading is exact for up to fifteen digits and small
  exponents and may be off in the last place beyond that.
-/

namespace Dashboard

/-- A finite double-precision number, as its IEEE 754 word. -/
structure Binary64 where
  bits : UInt64
  deriving DecidableEq, Repr, Inhabited

namespace Binary64

/-! ## §1. Anatomy. -/

def ofFloat (x : Float) : Binary64 := ⟨x.toBits⟩

def toFloat (x : Binary64) : Float := Float.ofBits x.bits

/-- The sign bit. -/
def isNegative (x : Binary64) : Bool := x.bits >>> 63 == 1

/-- The word without its sign bit. -/
def magnitude (x : Binary64) : Nat := x.bits.toNat % 0x8000000000000000

/-- Either zero. -/
def isZero (x : Binary64) : Bool := x.magnitude == 0

/-- The same number: equal words, or two zeros of any sign. -/
def same (x y : Binary64) : Bool := x == y || (x.isZero && y.isZero)

/-- The exponent field. -/
def exponentField (x : Binary64) : Nat := x.magnitude / 0x10000000000000

/-- The fraction field. -/
def fractionField (x : Binary64) : Nat := x.magnitude % 0x10000000000000

/-- The integer `m` of the magnitude `m · 2 ^ q`. -/
def significand (x : Binary64) : Nat :=
  if x.exponentField = 0 then x.fractionField else x.fractionField + 0x10000000000000

/-- The power `q` of the magnitude `m · 2 ^ q`. -/
def power (x : Binary64) : Int :=
  if x.exponentField = 0 then -1074 else (x.exponentField : Int) - 1075

theorem same_refl (x : Binary64) : x.same x = true := by simp [same]

/-! ## §2. Reading a decimal. -/

/-- The digits of a literal, gathered: `significand · 10 ^ exponent`. -/
structure Gathered where
  significand : Nat
  exponent : Int

/-- The least number that no longer fits the significand. -/
def significandLimit : Nat := 0x10000000000000000

/-- Digits before the point: past the limit only their number counts. -/
def gatherInteger : Nat → List Nat → Gathered
  | acc, [] => ⟨acc, 0⟩
  | acc, d :: ds =>
    if acc * 10 + d < significandLimit then gatherInteger (acc * 10 + d) ds
    else ⟨acc, (ds.length : Int) + 1⟩

/-- Digits after the point: past the limit they are dropped. -/
def gatherFraction : Gathered → List Nat → Gathered
  | g, [] => g
  | g, d :: ds =>
    if g.significand * 10 + d < significandLimit then
      gatherFraction ⟨g.significand * 10 + d, g.exponent - 1⟩ ds
    else g

/-- Gather both digit runs. -/
def gather (integer fraction : List Nat) : Gathered :=
  gatherFraction (gatherInteger 0 integer) fraction

/-- Ten to a natural power up to 308. -/
def powerOfTen (e : Nat) : Float := Float.ofScientific 1 false e

/-- Divide by ten to the power 308 until the rest of the exponent fits. -/
def shrink : Nat → Float → Nat → Float
  | 0, x, _ => x
  | fuel + 1, x, e =>
    if e ≤ 308 then x / powerOfTen e
    else if x == 0 then x
    else shrink fuel (x / powerOfTen 308) (e - 308)

/-- Scale a significand by a power of ten; `none` when the result overflows. -/
def scale? (significand : Nat) (exponent : Int) : Option Float :=
  let x := (UInt64.ofNat significand).toFloat
  if 0 ≤ exponent then
    if exponent ≤ 308 then
      let y := x * powerOfTen exponent.toNat
      if y.isInf then none else some y
    else if significand = 0 then some x else none
  else
    let e := (-exponent).toNat
    some (shrink (e / 308 + 1) x e)

/-- The double of a decimal literal, unless it overflows. -/
def ofDecimal? (negative : Bool) (integer fraction : List Nat) (exponent : Int) :
    Option Binary64 :=
  let g := gather integer fraction
  (scale? g.significand (g.exponent + exponent)).map fun x =>
    ofFloat (if negative then -x else x)

end Binary64
end Dashboard
