/-!
# MemberEncoding.Decimal.Nearest

**The binary number nearest to a fraction.** Floating-point numbers of 64 bits have a mantissa of 53
bits; of the two next to a fraction the nearer is taken, and of two equally near ones the one with
the even mantissa. What is too large becomes infinite, what is too small zero.

All of it is arithmetic on natural numbers: with the unit `2^q` chosen such that the fraction is
between `2^52` and `2^53` units, or as small as units get, the fraction is rounded to whole units.
The bits of the result are then a sum, in which a carry out of the mantissa raises the exponent.
-/

namespace MemberEncoding.Decimal

/-- The exponent of the smallest unit. -/
def leastUnit : Int := -1074

/-- How many units `2^q` a fraction counts, rounded to the nearer whole, a tie to the even one, and
how many it counts rounded down. -/
def units (num den : Nat) (q : Int) : Nat × Nat :=
  let n := num * Nat.pow 2 (-q).toNat
  let d := den * Nat.pow 2 q.toNat
  let below := n / d
  let rest := n % d
  let up := d < 2 * rest || (d = 2 * rest && below % 2 = 1)
  (if up then below + 1 else below, below)

/-- The number nearest to `num / den`, with a sign. -/
def nearest (negative : Bool) (num den : Nat) : Float :=
  let hidden := Nat.pow 2 52
  let magnitude :=
    if num = 0 then 0
    else
      let order : Int := (Nat.log2 num : Int) - (Nat.log2 den : Int)
      let q := max (order - 52) leastUnit
      -- The order may be one too high; then the unit is too coarse.
      let q := if (units num den q).2 < hidden then max (q - 1) leastUnit else q
      min ((q - leastUnit).toNat * hidden + (units num den q).1) (2047 * hidden)
  Float.ofBits (magnitude + if negative then Nat.pow 2 63 else 0).toUInt64

/-- The exponents of ten beyond which numbers are infinite, or below which they are zero. -/
def widest : Int := 400

/-- The number nearest to `digits · 10^exponent`, with a sign. Exponents that are out of range are
not raised ten to. -/
def ofNumeral (negative : Bool) (digits : Nat) (exponent : Int) : Float :=
  let order : Int := exponent + (Nat.log2 digits * 30103 / 100000 : Nat)
  if digits = 0 || order < -widest then nearest negative 0 1
  else if widest < order then nearest negative (Nat.pow 2 1024) 1
  else nearest negative (digits * Nat.pow 10 exponent.toNat) (Nat.pow 10 (-exponent).toNat)

/-- The number nearest to a whole number. -/
def ofInt (n : Int) : Float := nearest (decide (n < 0)) n.natAbs 1

end MemberEncoding.Decimal
