import MemberEncoding.Decimal.Shortest

/-!
# MemberEncoding.Decimal.Quantity

**Quantities**: the exact values of numbers, on which whole numbers and floating-point numbers are
compared without rounding either of them.
-/

namespace MemberEncoding.Decimal

/-- The exact value of a number. -/
inductive Quantity
  | nan
  | infinite (negative : Bool)
  /-- A fraction; its denominator is positive. -/
  | fraction (num : Int) (den : Nat)
  deriving DecidableEq

namespace Quantity

/-- The value of a whole number. -/
def ofInt (n : Int) : Quantity := fraction n 1

/-- The value of a floating-point number. -/
def ofFloat (x : Float) : Quantity :=
  match Decoded.ofFloat x with
  | .nan => nan
  | .infinite negative => infinite negative
  | .zero _ => ofInt 0
  | .finite negative b =>
    let n : Int := (b.mantissa * Nat.pow 2 b.exponent.toNat : Nat)
    fraction (if negative then -n else n) (Nat.pow 2 (-b.exponent).toNat)

/-- Is a value less than another? No number is neither less nor greater. -/
def lt : Quantity → Quantity → Bool
  | fraction a b, fraction c d => a * d < c * b
  | infinite a, infinite b => a && !b
  | infinite a, fraction .. => a
  | fraction .., infinite b => !b
  | nan, _ | _, nan => false

/-- Are two values the same? -/
def same : Quantity → Quantity → Bool
  | fraction a b, fraction c d => a * d == c * b
  | infinite a, infinite b => a == b
  | nan, nan => true
  | _, _ => false

end Quantity

end MemberEncoding.Decimal
