/-
  Dashboard.Decimal.Whole
  ───────────────────────
  A double written without a fraction.

  The double is rounded to the nearest integer, a half to the even one.  A
  negative double keeps its sign, also when it rounds to zero.
-/
import Dashboard.Decimal.Binary64

namespace Dashboard.Decimal

/-! ## §1. Rounding. -/

/-- The integer nearest to a fraction, a half going to the even one. -/
def quotient (n d : Nat) : Nat :=
  if d < 2 * (n % d) ∨ (2 * (n % d) = d ∧ n / d % 2 = 1) then n / d + 1 else n / d

/-! ## §2. Texts. -/

/-- The magnitude of a finite double, rounded. -/
def whole (x : Binary64) : Nat :=
  if 0 ≤ x.power then x.significand * Nat.pow 2 x.power.toNat
  else quotient x.significand (Nat.pow 2 (-x.power).toNat)

/-- A double without its sign. -/
def wholeMagnitude (x : Binary64) : String :=
  if x.exponentField = 2047 then "inf" else toString (whole x)

/-- A double without a fraction. -/
def wholeText (x : Float) : String :=
  let b := Binary64.ofFloat x
  if x.isNaN then "NaN"
  else if b.isNegative then "-" ++ wholeMagnitude b
  else wholeMagnitude b

end Dashboard.Decimal
