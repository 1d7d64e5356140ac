/-
  Dashboard.Json.Value
  ────────────────────
  JSON data.

  A number is an integer between -2^63 and 2^64 - 1 or a finite double; the
  two never name the same number, so `1` and `1.0` differ.  The members of an
  object stand in the code point order of their keys, each key once; `insert`
  keeps that order and `Value.normalize` establishes it for members as they
  were written, the last of several members of one key winning.
-/
import Dashboard.Decimal.Binary64
import Dashboard.Keyed

namespace Dashboard.Json

/-! ## §1. The data. -/

/-- A number: an integer literal in range, or a double. -/
inductive Number where
  | integer (n : Int)
  | double (x : Binary64)
  deriving DecidableEq, Repr, Inhabited

/-- A JSON value. -/
inductive Value where
  | null
  | bool (b : Bool)
  | number (n : Number)
  | text (s : String)
  | list (items : List Value)
  | object (members : List (String × Value))
  deriving Repr, Inhabited

/-! ## §2. Members. -/

/-- The members of an object. -/
abbrev Members := Keyed Value

/-! ## §3. Looking into a value. -/

namespace Value

/-- The members of an object. -/
def members? : Value → Option Members
  | .object m => some m
  | _ => none

/-- The items of an array. -/
def items? : Value → Option (List Value)
  | .list items => some items
  | _ => none

/-- The text of a string. -/
def text? : Value → Option String
  | .text s => some s
  | _ => none

/-- The value of a boolean. -/
def bool? : Value → Option Bool
  | .bool b => some b
  | _ => none

/-- A natural number, from an integer that is not negative. -/
def nat? : Value → Option Nat
  | .number (.integer n) => if 0 ≤ n then some n.toNat else none
  | _ => none

/-- A natural number below two to the power 32. -/
def word32? (v : Value) : Option UInt32 :=
  v.nat?.bind fun n => if n < 0x100000000 then some (UInt32.ofNat n) else none

def isNull : Value → Bool
  | .null => true
  | _ => false

/-- The value under a key, if this is an object that has it. -/
def get? (v : Value) (key : String) : Option Value :=
  v.members?.bind (Keyed.get? key)

/-- An integer value. -/
def ofNat (n : Nat) : Value := .number (.integer n)

/-- An integer value. -/
def ofInt (n : Int) : Value := .number (.integer n)

/-- An object of members in any order. -/
def ofMembers (written : Members) : Value := .object (Keyed.ofList written)

end Value

/-! ## §4. Normal form and sameness. -/

mutual
/-- The value with the members of every object in order, each key once. -/
def Value.normalize : Value → Value
  | .list items => .list (normalizeItems items)
  | .object m => .object (Keyed.ofList (normalizeMembers m))
  | v => v

/-- `Value.normalize` on every item. -/
def normalizeItems : List Value → List Value
  | [] => []
  | v :: rest => v.normalize :: normalizeItems rest

/-- `Value.normalize` on every member. -/
def normalizeMembers : Members → Members
  | [] => []
  | (k, v) :: rest => (k, v.normalize) :: normalizeMembers rest
end

/-- The same number: two equal integers, or two doubles of one number. -/
def Number.same : Number → Number → Bool
  | .integer a, .integer b => a == b
  | .double a, .double b => a.same b
  | _, _ => false

mutual
/-- The same data: equal but for the sign of zeros. -/
def Value.same : Value → Value → Bool
  | .null, .null => true
  | .bool a, .bool b => a == b
  | .number a, .number b => a.same b
  | .text a, .text b => a == b
  | .list a, .list b => sameItems a b
  | .object a, .object b => sameMembers a b
  | _, _ => false

/-- `Value.same` item by item. -/
def sameItems : List Value → List Value → Bool
  | [], [] => true
  | a :: as, b :: bs => a.same b && sameItems as bs
  | _, _ => false

/-- Equal keys and `Value.same` member by member. -/
def sameMembers : Members → Members → Bool
  | [], [] => true
  | (k, a) :: as, (l, b) :: bs => k == l && a.same b && sameMembers as bs
  | _, _ => false
end

end Dashboard.Json
