/-
  Dashboard.Decimal.Nearest
  ─────────────────────────
  Reading a decimal as the double nearest to it.

  A decimal has a sign or none, digits with at most one point among them, and
  an exponent or none; `inf`, `infinity` and `nan` are read in letters of any
  case.  A decimal that is too large reads as infinity.
-/

namespace Dashboard.Decimal

/-! ## §1. Numbers. -/

/-- The number that decimal digits write. -/
def ofDigits (ds : List Nat) : Nat := ds.foldl (fun n d => n * 10 + d) 0

/-- The double nearest to `significand · 10 ^ exponent`: past the exponents of
doubles it is zero or infinity. -/
def nearest (significand : Nat) (exponent : Int) : Float :=
  let magnitude : Int := (Nat.toDigits 10 significand).length + exponent
  if significand = 0 ∨ magnitude < -400 then 0.0
  else if 310 < magnitude then 1.0 / 0.0
  else Float.ofScientific significand (exponent < 0) exponent.natAbs

/-! ## §2. Texts. -/

/-- A sign, which is negative, and what follows it. -/
def signed : List Char → Bool × List Char
  | '+' :: rest => (false, rest)
  | '-' :: rest => (true, rest)
  | cs => (false, cs)

/-- The values of characters that are all digits. -/
def digits? (cs : List Char) : Option (List Nat) :=
  if cs.all Char.isDigit then some (cs.map fun c => c.toNat - 48) else none

/-- Whether an exponent begins here. -/
def isExponentMark (c : Char) : Bool := c == 'e' || c == 'E'

/-- The exponent after its mark, if there is one. -/
def exponent? : List Char → Option Int
  | [] => some 0
  | _ :: cs => do
    let (negative, cs) := signed cs
    let ds ← digits? cs
    let n : Int := ofDigits ds
    if ds.isEmpty then none else pure (if negative then -n else n)

/-- A decimal without a sign. -/
def unsigned? (cs : List Char) : Option Float := do
  let body := cs.takeWhile fun c => !isExponentMark c
  let whole ← digits? (body.takeWhile (· ≠ '.'))
  let fraction ← digits? ((body.dropWhile (· ≠ '.')).drop 1)
  let exponent ← exponent? (cs.dropWhile fun c => !isExponentMark c)
  if whole.isEmpty && fraction.isEmpty then none
  else pure (nearest (ofDigits (whole ++ fraction)) (exponent - fraction.length))

/-- The double that a text writes. -/
def read? (s : String) : Option Float := do
  let (negative, cs) := signed s.toList
  let name := String.ofList (cs.map Char.toLower)
  let x ← if name = "inf" ∨ name = "infinity" then some (1.0 / 0.0)
    else if name = "nan" then some (0.0 / 0.0)
    else unsigned? cs
  pure (if negative then -x else x)

end Dashboard.Decimal
