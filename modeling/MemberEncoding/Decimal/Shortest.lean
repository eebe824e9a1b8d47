/-!
# MemberEncoding.Decimal.Shortest

**The shortest decimal of a binary number.** Among the decimals that read back as a given binary
floating-point number, take those with the fewest digits, and of these the one nearest to the
number; an exact tie goes to the even digit.

A positive number is `m · 2^q`. The reals that round to it form an interval around it
(`Binary.low`, `Binary.high`, in units of `2^(q-2)`), whose ends belong to it exactly if `m` is
even. The search walks down the decimal grids `10^k`, coarsest first, and on each tests the two
neighbours of the number; all of it is arithmetic on natural numbers.
-/

namespace MemberEncoding.Decimal

/-- A positive binary number `mantissa · 2^exponent`; `lowest` says that its mantissa is the
smallest of its binade, where the gap below is half the gap above. -/
structure Binary where
  mantissa : Nat
  exponent : Int
  lowest : Bool

/-- A positive decimal number `digits · 10^exponent`. -/
structure Numeral where
  digits : Nat
  exponent : Int
  deriving DecidableEq

namespace Binary

/-- The number itself, in quarters of its last place. -/
def quarters (b : Binary) : Nat := 4 * b.mantissa

/-- The lower end of the interval that rounds to the number, in quarters of its last place. -/
def low (b : Binary) : Nat := if b.lowest then b.quarters - 1 else b.quarters - 2

/-- The upper end of that interval. -/
def high (b : Binary) : Nat := b.quarters + 2

/-- What a quarter of the last place weighs on the grid `10^k`, as a numerator and a denominator. -/
def scale (b : Binary) (k : Int) : Nat × Nat :=
  let e := b.exponent - 2
  (Nat.pow 2 e.toNat * Nat.pow 10 (-k).toNat, Nat.pow 2 (-e).toNat * Nat.pow 10 k.toNat)

/-- Does `n · 10^k` read back as the number? -/
def readsBack (b : Binary) (k : Int) (n : Nat) : Bool :=
  let (num, den) := b.scale k
  if b.mantissa % 2 = 0 then b.low * num ≤ n * den && n * den ≤ b.high * num
  else b.low * num < n * den && n * den < b.high * num

/-- The digits on the grid `10^k` that read back, the nearer neighbour of the number first. -/
def onGrid? (b : Binary) (k : Int) : Option Nat :=
  let (num, den) := b.scale k
  let below := b.quarters * num / den
  let rest := b.quarters * num % den
  let downFirst := 2 * rest < den || (2 * rest = den && below % 2 = 0)
  let (near, far) := if downFirst then (below, below + 1) else (below + 1, below)
  if b.readsBack k near then some near
  else if b.readsBack k far then some far
  else none

/-- The exact decimal value, which a search that runs out of grids falls back on. -/
def exact (b : Binary) : Numeral :=
  if 0 ≤ b.exponent then ⟨b.mantissa * Nat.pow 2 b.exponent.toNat, 0⟩
  else ⟨b.mantissa * Nat.pow 5 (-b.exponent).toNat, b.exponent⟩

/-- Searches the grids `10^k`, `10^(k-1)`, …, as many as `count`. -/
def searchFrom (b : Binary) (k : Int) : Nat → Numeral
  | 0 => b.exact
  | count + 1 =>
    match b.onGrid? k with
    | some n => ⟨n, k⟩
    | none => b.searchFrom (k - 1) count

/-- A power of ten above the number: its binary order of magnitude times the decimal logarithm of
two, rounded up generously. -/
def coarsest (b : Binary) : Int :=
  let order : Int := b.exponent + (Nat.log2 b.mantissa : Nat) + 1
  order * 30103 / 100000 + 1

/-- The shortest decimal of the number. -/
def shortest (b : Binary) : Numeral :=
  b.searchFrom b.coarsest 24

end Binary

/-- What the bits of a floating-point number say. -/
inductive Decoded
  | nan
  | infinite (negative : Bool)
  | zero (negative : Bool)
  | finite (negative : Bool) (value : Binary)

/-- Decodes the sign, exponent and fraction of a number of 64 bits. -/
def Decoded.ofFloat (x : Float) : Decoded :=
  let bits := x.toBits.toNat
  -- The number of fractions, which is the weight of the exponent, and the number of exponents.
  let fractions := Nat.pow 2 52
  let exponents := Nat.pow 2 11
  let negative := decide (fractions * exponents ≤ bits)
  let biased : Nat := bits / fractions % exponents
  let fraction : Nat := bits % fractions
  if biased = exponents - 1 then
    if fraction = 0 then .infinite negative else .nan
  else if biased = 0 then
    if fraction = 0 then .zero negative else .finite negative ⟨fraction, -1074, false⟩
  else
    .finite negative ⟨fractions + fraction, (biased : Int) - 1075, fraction = 0 && 1 < biased⟩

/-- How a decimal is laid out: exponents of the leading digit from `plainFrom` up to but not
including `plainBelow` are written with a point among the digits, the others with an exponent of
at least `exponentWidth` digits and its sign. -/
structure Layout where
  plainFrom : Int
  plainBelow : Int
  exponentWidth : Nat

/-- As many zeros. -/
def zeros (n : Nat) : List Char := List.replicate n '0'

/-- The text of a positive decimal; in positional form it always has a digit on either side of
the point. -/
def Layout.text (l : Layout) (d : Numeral) : List Char :=
  let ds := Nat.toDigits 10 d.digits
  let point : Int := ds.length + d.exponent
  let leading := point - 1
  if l.plainFrom ≤ leading && leading < l.plainBelow then
    -- The point stands before, among or after the digits.
    if point ≤ 0 then '0' :: '.' :: zeros (-point).toNat ++ ds
    else if point < ds.length then ds.take point.toNat ++ '.' :: ds.drop point.toNat
    else ds ++ zeros (point.toNat - ds.length) ++ ['.', '0']
  else
    let exponent := Nat.toDigits 10 leading.natAbs
    let mantissa :=
      match ds with
      | [] => []
      | [c] => [c]
      | c :: cs => c :: '.' :: cs
    mantissa ++ 'e' :: (if leading < 0 then '-' else '+')
      :: zeros (l.exponentWidth - exponent.length) ++ exponent

/-- The text of a floating-point number, by the words of its value type for infinity and no
number. -/
def Layout.floatText (l : Layout) (x : Float) : String :=
  let signed (negative : Bool) (s : String) := if negative then "-" ++ s else s
  match Decoded.ofFloat x with
  | .nan => "nan"
  | .infinite negative => signed negative "inf"
  | .zero negative => signed negative "0.0"
  | .finite negative value => signed negative (String.ofList (l.text value.shortest))

end MemberEncoding.Decimal
