import MemberEncoding.Decimal.Nearest
import MemberEncoding.Text.Base64
import MemberEncoding.Text.Blank
import MemberEncoding.Text.Case
import MemberEncoding.Yaml.Plain

/-!
# MemberEncoding.Yaml.Datum

**The data that scalars stand for**, by their kinds. A scalar whose kind was found by its spelling
is spelled as its kind asks, but for a few that only look so; one with a tag may be spelled in any
way, and then is read as far as that makes sense.

Numerals may be written in the digits of any script and have the same value as in those of ASCII
(`asciiNumeral`). The digits of a script are ten code points in a row, from its zero on
(`scriptZeros`, data of the Unicode standard); blanks beyond ASCII count as spaces around a numeral.
-/

namespace MemberEncoding.Yaml

/-! ### Numerals of all scripts -/

/-- The zeros of the scripts beyond ASCII. -/
def scriptZeros : List Nat :=
  [0x660, 0x6F0, 0x7C0, 0x966, 0x9E6, 0xA66, 0xAE6, 0xB66, 0xBE6, 0xC66, 0xCE6, 0xD66, 0xDE6, 0xE50,
   0xED0, 0xF20, 0x1040, 0x1090, 0x17E0, 0x1810, 0x1946, 0x19D0, 0x1A80, 0x1A90, 0x1B50, 0x1BB0,
   0x1C40, 0x1C50, 0xA620, 0xA8D0, 0xA900, 0xA9D0, 0xA9F0, 0xAA50, 0xABF0, 0xFF10, 0x104A0, 0x10D30,
   0x11066, 0x110F0, 0x11136, 0x111D0, 0x112F0, 0x11450, 0x114D0, 0x11650, 0x116C0, 0x11730,
   0x118E0, 0x11950, 0x11C50, 0x11D50, 0x11DA0, 0x16A60, 0x16AC0, 0x16B50, 0x1D7CE, 0x1D7D8,
   0x1D7E2, 0x1D7EC, 0x1D7F6, 0x1E140, 0x1E2F0, 0x1E950, 0x1FBF0]

/-- The value of a digit beyond ASCII. -/
def scriptDigit? (c : Char) : Option Nat :=
  (scriptZeros.find? fun z => z ≤ c.toNat && c.toNat < z + 10).map (c.toNat - ·)

/-- A character of a numeral as it is in ASCII, if there is such a character. -/
def asciiNumeral (c : Char) : Char :=
  if c.toNat < 0x80 then c
  else if Text.isBlank c then ' '
  else ((scriptDigit? c).map Nat.digitChar).getD c

/-! ### Signs and groups of digits -/

/-- The characters of a number without underscores, which only group its digits. -/
def ungrouped (s : String) : List Char := s.toList.filter (· != '_')

/-- Splits a sign off; without one a number is positive. -/
def signed (cs : List Char) : Bool × List Char := (cs.head? == some '-', unsigned cs)

/-- Puts a sign before a whole number. -/
def withSign (negative : Bool) (n : Int) : Int := if negative then -n else n

/-! ### Whole numbers -/

/-- Is this a blank that may stand around a number? -/
def isNumberBlank (c : Char) : Bool := c == ' ' || (0x09 ≤ c.toNat && c.toNat ≤ 0x0D)

/-- A number without the blanks around it, in ASCII. -/
def bare (cs : List Char) : List Char :=
  let after := (cs.map asciiNumeral).dropWhile isNumberBlank
  (after.reverse.dropWhile isNumberBlank).reverse

/-- The value of a digit of a base. -/
def digit? (base : Nat) (c : Char) : Option Nat := (hexValue? c).filter (· < base)

/-- The number that digits of a base denote. -/
def digitsValue? (base : Nat) (cs : List Char) : Option Nat :=
  if cs = [] then none
  else (cs.mapM (digit? base)).map fun ds => ds.foldl (fun n d => n * base + d) 0

/-- The letter that may stand after a zero in front of digits of a base. -/
def baseMark (base : Nat) : List Char :=
  if base = 2 then ['b', 'B'] else if base = 8 then ['o', 'O'] else if base = 16 then ['x', 'X']
  else []

/-- Takes the mark of a base off the front of digits. -/
def unmarked (base : Nat) : List Char → List Char
  | '0' :: c :: cs => if (baseMark base).contains c then cs else '0' :: c :: cs
  | cs => cs

/-- The whole number that is written in a base, with blanks around it and a sign or without. In base
ten it may only be so long, whatever comes after the digits. -/
def wholeInBase (base : Nat) (cs : List Char) : Except Fault Int :=
  let (negative, ds) := signed (bare cs)
  let ds := unmarked base ds
  let count := (ds.takeWhile fun c => (digit? base c).isSome).length
  if base = 10 && digitLimit < count then .error (.tooManyDigits count)
  else
    match digitsValue? base ds with
    | some n => .ok (withSign negative n)
    | none => .error (.notWhole base (String.ofList cs))

/-- The number with these places of base sixty. -/
def sexagesimalWhole (places : List (List Char)) : Except Fault Int := do
  let ns ← places.mapM (wholeInBase 10)
  .ok (ns.foldl (fun n place => n * 60 + place) 0)

/-- The whole number that a scalar stands for. -/
def whole (s : String) : Except Fault Int :=
  let (negative, cs) := signed (ungrouped s)
  withSign negative <$>
    match cs with
    | [] => .error .noNumber
    | ['0'] => .ok 0
    | '0' :: 'b' :: ds => wholeInBase 2 ds
    | '0' :: 'x' :: ds => wholeInBase 16 ds
    | '0' :: _ => wholeInBase 8 cs
    | _ => if cs.contains ':' then sexagesimalWhole (cs.splitOn ':') else wholeInBase 10 cs

/-! ### Numbers with a fraction -/

/-- The exponent of ten after a mark. -/
def exponent? : List Char → Option Int
  | [] => some 0
  | _ :: cs =>
    let (negative, ds) := signed cs
    (digitsValue? 10 ds).map fun n => withSign negative n

/-- The number with digits, a point among them and an exponent, or one of these words: `inf`,
`infinity` and `nan`. -/
def positiveReal? (negative : Bool) (cs : List Char) : Option Float :=
  if ["inf", "infinity"].contains (String.ofList cs) then
    some (if negative then -1.0 / 0.0 else 1.0 / 0.0)
  else if cs = "nan".toList then some (0.0 / 0.0)
  else
    let digits := cs.takeWhile (· != 'e')
    let places := digits.takeWhile (· != '.')
    let fraction := (digits.dropWhile (· != '.')).tail
    match digitsValue? 10 (places ++ fraction), exponent? (cs.dropWhile (· != 'e')) with
    | some n, some e => some (Decimal.ofNumeral negative n (e - fraction.length))
    | _, _ => none

/-- The number that is written, with blanks around it and a sign or without. -/
def realOf (cs : List Char) : Except Fault Float :=
  let (negative, ds) := signed (bare cs)
  match positiveReal? negative ds with
  | some x => .ok x
  | none => .error (.notReal (String.ofList cs))

/-- Adds places of base sixty, the last of them first, to a `sum`. The weight of a place is a whole
number, and has to be one that there is a floating-point number for. -/
def addPlaces (sum : Float) (weight : Nat) : List Float → Except Fault Float
  | [] => .ok sum
  | x :: xs =>
    let w := Decimal.ofInt weight
    if w.isInf then .error .tooManyPlaces else addPlaces (sum + x * w) (weight * 60) xs

/-- The sign of a number with a fraction, and what is written after it. -/
def signedReal (s : String) : Bool × List Char := signed (Text.lowerAll (ungrouped s))

/-- Is this the word for not-a-number, with a sign or without? -/
def isNanWord (s : String) : Bool := (signedReal s).2 == ".nan".toList

/-- The number that a scalar stands for. -/
def real (s : String) : Except Fault Float :=
  let (negative, cs) := signedReal s
  (fun x : Float => if negative then -x else x) <$>
    if s.toList.all (· == '_') then .error .noNumber
    else if cs = ".inf".toList then .ok (1.0 / 0.0)
    else if isNanWord s then .ok (0.0 / 0.0)
    else if cs.contains ':' then do
      let places ← (cs.splitOn ':').mapM realOf
      addPlaces 0 1 places.reverse
    else realOf cs

/-! ### Days and moments -/

/-- The fraction of a second in microseconds; further digits are cut off. -/
def microseconds (fraction : List Char) : Nat :=
  let ds := fraction.take 6
  decimalValue (ds ++ List.replicate (6 - ds.length) '0')

/-- The seconds that a clock is ahead. -/
def offset (sign : Char) (hours minutes : Nat) : Int :=
  let seconds : Int := (hours * 60 + minutes) * 60
  if sign = '-' then -seconds else seconds

/-- The datum of a day or a moment. The clock is checked first. -/
def momentDatum (m : WrittenMoment) : Except Calendar.Fault Scalar := do
  match m.time with
  | none => .day <$> Calendar.Day.make m.year m.month m.day
  | some t =>
    let ahead ← t.zone.mapM fun (sign, hours, minutes) =>
      Calendar.checkOffset (offset sign hours minutes)
    let day ← Calendar.Day.make m.year m.month m.day
    .moment <$> Calendar.Moment.make day t.hour t.minute t.second (microseconds t.fraction) ahead

/-- The day or moment that a scalar stands for. -/
def timestamp (s : String) : Except Fault Scalar :=
  match moment? (withoutBreak s) with
  | none => .error .notMoment
  | some m => (momentDatum m).mapError .calendar

/-! ### Scalars -/

/-- The truth value that a scalar stands for. -/
def truth (s : String) : Except Fault Bool :=
  let word := String.ofList (Text.lowerAll s.toList)
  match [("yes", true), ("true", true), ("on", true), ("no", false), ("false", false),
      ("off", false)].lookup word with
  | some b => .ok b
  | none => .error (.notTruth word)

/-- The bytes that a scalar stands for. -/
def binary (s : String) : Except Fault (List UInt8) :=
  if s.toList.all fun c => c.toNat < 0x80 then
    match Text.Base64.decode? s with
    | some bytes => .ok bytes
    | none => .error .malformed
  else .error .malformed

/-- Is the datum of a node of this kind a scalar? -/
def Kind.isScalar (kind : Kind) : Bool :=
  [null, bool, int, float, timestamp, binary, text].contains kind

/-- The datum of a scalar with this content. -/
def scalarDatum (kind : Kind) (content : String) : Except Fault Scalar :=
  match kind with
  | .null => .ok .null
  | .bool => .bool <$> truth content
  | .int => .int <$> whole content
  | .float => .float <$> real content
  | .timestamp => timestamp content
  | .binary => .bytes <$> binary content
  | .text => .ok (.text content)
  | _ => .error .malformed

end MemberEncoding.Yaml
