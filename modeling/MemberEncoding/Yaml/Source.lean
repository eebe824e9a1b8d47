import MemberEncoding.Yaml.Fault

/-!
# MemberEncoding.Yaml.Source

**Sources**: the texts of documents, as far as they can be read. Line breaks are made one
(`Text.normalizeBreaks`), and characters that documents may not hold are refused (`isAllowed`).

A source is read in portions: the first two at once, each of the others when it is needed. A portion
with a fault cannot be read at all, but what comes before it can, and may have a fault of its own.
-/

namespace MemberEncoding.Yaml

/-- May a document hold the character? -/
def isAllowed (c : Char) : Bool :=
  let n := c.toNat
  n == 0x09 || n == 0x0A || n == 0x0D || (0x20 ≤ n && n ≤ 0x7E) || n == 0x85
    || (0xA0 ≤ n && n ≤ 0xFFFD) || 0x10000 ≤ n

/-- A text as far as it can be read, and what is wrong with it after that. -/
structure Source where
  chars : List Char
  fault : Option Fault

namespace Source

open Text.Utf8 (portion)

/-- How many characters are read before the one at `index` is needed. -/
def readBefore (index : Nat) : Nat :=
  if index < 2 * portion then 0 else index / portion * portion

/-- The source that decoded bytes make up. -/
def ofDecoded (d : Text.Utf8.Decoded) : Source :=
  let cs := Text.normalizeBreaks d.chars
  let decoded := if d.fault.isNone then cs.length else readBefore cs.length
  let allowed := (cs.takeWhile isAllowed).length
  if allowed < decoded then ⟨cs.take (readBefore allowed), some .malformed⟩
  else ⟨cs.take decoded, d.fault.map .encoding⟩

/-- The source that a text makes up. -/
def ofText (s : String) : Source := ofDecoded ⟨s.toList, none⟩

/-- The source that bytes make up. -/
def ofBytes (bytes : List UInt8) : Source := ofDecoded (Text.Utf8.decode bytes)

end Source

end MemberEncoding.Yaml
