import MemberEncoding.Text.PrintTable

/-!
# MemberEncoding.Text.Quoted

**Quoted text**, the form in which names are listed inside messages. A text is put between single
quotes, or between double quotes if it holds a single quote and no double quote. Inside, the
quote in use and the backslash are escaped by a backslash, line breaks and tabs have their short
escapes, and every other character that does not print is written by its code point.
-/

namespace MemberEncoding.Text

/-- The lower case hexadecimal digits of `n`, at least `width` of them. -/
def hex (width n : Nat) : List Char :=
  let digits := Nat.toDigits 16 n
  List.replicate (width - digits.length) '0' ++ digits

/-- Does the character print as itself? ASCII is decided first: of it all but the controls do. -/
def isPrintable (c : Char) : Bool :=
  let n := c.toNat
  if n < 0x7F then 0x20 ≤ n else unprintableRanges.all fun r => n < r.1 || r.2 < n

/-- One character between quotes `q`. -/
def escape (q c : Char) : List Char :=
  if c = q || c = '\\' then ['\\', c]
  else if c = '\n' then ['\\', 'n']
  else if c = '\r' then ['\\', 'r']
  else if c = '\t' then ['\\', 't']
  else if isPrintable c then [c]
  else if c.toNat < 0x100 then '\\' :: 'x' :: hex 2 c.toNat
  else if c.toNat < 0x10000 then '\\' :: 'u' :: hex 4 c.toNat
  else '\\' :: 'U' :: hex 8 c.toNat

/-- The quote that a text is put between. -/
def quoteFor (cs : List Char) : Char :=
  if cs.contains '\'' && !cs.contains '"' then '"' else '\''

/-- A text between quotes. -/
def quote (s : String) : String :=
  let q := quoteFor s.toList
  String.ofList (q :: s.toList.flatMap (escape q) ++ [q])

/-- One byte between quotes `q`, as its character if it is of ASCII, else by its number. -/
def escapeByte (q : Char) (b : UInt8) : List Char :=
  if b < 0x80 then escape q (Char.ofNat b.toNat) else '\\' :: 'x' :: hex 2 b.toNat

/-- Bytes between quotes, marked as such. -/
def quoteBytes (bs : List UInt8) : String :=
  let q := quoteFor (bs.map fun b => Char.ofNat b.toNat)
  String.ofList ('b' :: q :: bs.flatMap (escapeByte q) ++ [q])

/-- A list of quoted texts between brackets. -/
def quoteList (names : List String) : String :=
  "[" ++ ", ".intercalate (names.map quote) ++ "]"

end MemberEncoding.Text
