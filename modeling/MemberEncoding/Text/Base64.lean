/-!
# MemberEncoding.Text.Base64

**Decoding base 64.** Four characters of the alphabet carry three bytes. Characters outside of it
are passed over, and the text ends where its padding fills up a group of four; a group that is left
unfinished is refused.
-/

namespace MemberEncoding.Text.Base64

/-- The six bits that a character of the alphabet carries. -/
def value? (c : Char) : Option Nat :=
  if c.isUpper then some (c.toNat - 'A'.toNat)
  else if c.isLower then some (c.toNat - 'a'.toNat + 26)
  else if c.isDigit then some (c.toNat - '0'.toNat + 52)
  else if c = '+' then some 62
  else if c = '/' then some 63
  else none

/-- Where decoding stands within a group of four characters. -/
structure Group where
  /-- How many of its characters came. -/
  size : Nat
  /-- The bits of them that no byte was made of yet. -/
  bits : Nat
  /-- How many characters of padding came since. -/
  padding : Nat

/-- The start of a group. -/
def Group.empty : Group := ⟨0, 0, 0⟩

/-- Takes six bits into a group: the byte that they complete, and the group after that. -/
def Group.take (g : Group) (v : Nat) : Option UInt8 × Group :=
  match g.size with
  | 0 => (none, ⟨1, v, 0⟩)
  | 1 => (some (g.bits * 4 + v / 16).toUInt8, ⟨2, v % 16, 0⟩)
  | 2 => (some (g.bits * 16 + v / 4).toUInt8, ⟨3, v % 4, 0⟩)
  | _ => (some (g.bits * 64 + v).toUInt8, .empty)

/-- Decodes on within a group. -/
def decodeFrom (g : Group) : List Char → Option (List UInt8)
  | [] => if g.size = 0 then some [] else none
  | c :: cs =>
    if c = '=' then
      if g.size < 2 then decodeFrom g cs
      else if 4 ≤ g.size + g.padding + 1 then some []
      else decodeFrom { g with padding := g.padding + 1 } cs
    else
      match value? c with
      | none => decodeFrom g cs
      | some v =>
        let (byte, g) := g.take v
        (decodeFrom g cs).map (byte.toList ++ ·)

/-- The bytes that a text stands for. -/
def decode? (s : String) : Option (List UInt8) := decodeFrom .empty s.toList

end MemberEncoding.Text.Base64
