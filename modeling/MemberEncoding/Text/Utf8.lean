import MemberEncoding.Text.Quoted

/-!
# MemberEncoding.Text.Utf8

**Decoding UTF-8.** A character is a leading byte, which fixes how many bytes follow and in which
range the first of them lies, and continuation bytes. Overlong forms, surrogates and code points
beyond the last plane are shut out by that range, so no check of the decoded number is needed.

Bytes are decoded block by block (`Progress.nextSize`), where a character that is not finished goes
on in the next block. A text that is not UTF-8 is reported by its first fault: what is wrong, and
which bytes are concerned, counted from the start of their block (`Fault.message`).

A line of a file ends in a line feed, a carriage return, or both. What is decoded has a single line
feed for each (`normalizeBreaks`), and is measured so where blocks are.
-/

namespace MemberEncoding.Text

/-! ### Line breaks -/

/-- Makes every line break a single line feed. -/
def normalizeBreaks (cs : List Char) : List Char :=
  (cs.foldl (fun (out : List Char × Bool) c =>
    if c = '\n' && out.2 then (out.1, false)
    else if c = '\r' then ('\n' :: out.1, true)
    else (c :: out.1, false)) ([], false)).1.reverse

/-- How many characters there are when line breaks are made one. A carriage return at the end is not
counted yet, as a line feed may follow. -/
def settledLength (cs : List Char) : Nat :=
  (normalizeBreaks cs).length - if cs.getLast? = some '\r' then 1 else 0

namespace Utf8

/-! ### Characters -/

/-- What is wrong with a sequence of bytes. -/
inductive Cause
  /-- A byte that cannot start a character. -/
  | start
  /-- A byte that cannot go on with the character begun. -/
  | continuation
  /-- The bytes end within a character. -/
  | ending
  deriving DecidableEq

/-- The first fault of a sequence of bytes: the bytes that make up the character begun, and the
position of the first of them. A character cut off by the end of the bytes is counted on its own,
from position zero. -/
structure Fault where
  cause : Cause
  position : Nat
  bytes : List UInt8
  deriving DecidableEq

/-- The wording of a cause. -/
def Cause.text : Cause → String
  | start => "invalid start byte"
  | continuation => "invalid continuation byte"
  | ending => "unexpected end of data"

/-- The wording of a fault. -/
def Fault.message (f : Fault) : String :=
  let which :=
    match f.bytes with
    | [b] => "byte 0x" ++ String.ofList (hex 2 b.toNat) ++ " in position " ++ toString f.position
    | bs => "bytes in position " ++ toString f.position ++ "-"
        ++ toString (f.position + bs.length - 1)
  "'utf-8' codec can't decode " ++ which ++ ": " ++ f.cause.text

/-- A leading byte: how many bytes follow it, the range of the first of them, and the bits that it
contributes itself. -/
structure Lead where
  following : Nat
  lowest : UInt8
  highest : UInt8
  bits : Nat

/-- What a leading byte beyond ASCII says; `none` for a byte that leads nothing. -/
def lead? (b : UInt8) : Option Lead :=
  if b < 0xC2 then none
  else if b < 0xE0 then some ⟨1, 0x80, 0xBF, b.toNat - 0xC0⟩
  else if b = 0xE0 then some ⟨2, 0xA0, 0xBF, 0⟩
  else if b = 0xED then some ⟨2, 0x80, 0x9F, 0x0D⟩
  else if b < 0xF0 then some ⟨2, 0x80, 0xBF, b.toNat - 0xE0⟩
  else if b = 0xF0 then some ⟨3, 0x90, 0xBF, 0⟩
  else if b < 0xF4 then some ⟨3, 0x80, 0xBF, b.toNat - 0xF0⟩
  else if b = 0xF4 then some ⟨3, 0x80, 0x8F, 4⟩
  else none

/-- Reads `following` continuation bytes after those already `taken` (in reverse), the first
between `lowest` and `highest`, onto the `bits` so far. -/
def continueWith (position : Nat) (taken : List UInt8) (bits : Nat) :
    (following : Nat) → (lowest highest : UInt8) → List UInt8 → Except Fault (Nat × List UInt8)
  | 0, _, _, bs => .ok (bits, bs)
  -- What is cut off by the end is looked at on its own, so its position is zero.
  | _ + 1, _, _, [] => .error ⟨.ending, 0, taken.reverse⟩
  | n + 1, lowest, highest, b :: bs =>
    if lowest ≤ b && b ≤ highest then
      continueWith position (b :: taken) (bits * 64 + (b.toNat - 0x80)) n 0x80 0xBF bs
    else .error ⟨.continuation, position, taken.reverse⟩

theorem length_of_continueWith {position : Nat} {taken : List UInt8} {bits following : Nat}
    {lowest highest : UInt8} {bs rest : List UInt8} {n : Nat}
    (h : continueWith position taken bits following lowest highest bs = .ok (n, rest)) :
    rest.length ≤ bs.length := by
  fun_induction continueWith position taken bits following lowest highest bs with
  | case1 => cases h; exact Nat.le_refl _
  | case2 => cases h
  | case3 => rename_i ih; exact Nat.le_succ_of_le (ih h)
  | case4 => cases h

/-- The first character of the bytes `b :: bs`, which start at `position`, and the rest. -/
def character (position : Nat) (b : UInt8) (bs : List UInt8) : Except Fault (Nat × List UInt8) :=
  if b < 0x80 then .ok (b.toNat, bs)
  else
    match lead? b with
    | none => .error ⟨.start, position, [b]⟩
    | some l => continueWith position [b] l.bits l.following l.lowest l.highest bs

theorem length_of_character {position : Nat} {b : UInt8} {bs rest : List UInt8} {n : Nat}
    (h : character position b bs = .ok (n, rest)) : rest.length ≤ bs.length := by
  unfold character at h
  split at h
  · cases h; exact Nat.le_refl _
  · split at h
    · cases h
    · exact length_of_continueWith h

/-- Characters, and what is wrong with the bytes after them. -/
structure Decoded where
  chars : List Char
  fault : Option Fault

/-- Decodes bytes that start at `position`, and puts the characters in reverse before `seen`. -/
def decodeFrom (seen : List Char) (position : Nat) (bytes : List UInt8) : Decoded :=
  match bytes with
  | [] => ⟨seen.reverse, none⟩
  | b :: bs =>
    match h : character position b bs with
    | .error f => ⟨seen.reverse, some f⟩
    | .ok (n, rest) =>
      decodeFrom (Char.ofNat n :: seen) (position + 1 + bs.length - rest.length) rest
  termination_by bytes.length
  decreasing_by exact Nat.lt_succ_of_le (length_of_character h)

/-- The characters that bytes encode, if they do. -/
def decode? (bytes : List UInt8) : Option (List Char) :=
  let d := decodeFrom [] 0 bytes
  if d.fault.isNone then some d.chars else none

/-! ### Blocks -/

/-- How many characters are asked for at once. -/
def portion : Nat := 4096

/-- How many bytes are decoded at once, or more where characters are wide. -/
def blockSize : Nat := 8192

/-- What was decoded so far, in reverse, and how many bytes the last block had for how many
characters, where a line break counts as one. -/
structure Progress where
  seen : List Char
  bytes : Nat
  chars : Nat

namespace Progress

/-- How many bytes the next block has: enough for what is still wanted of a portion, if characters
are as wide there as in the last block. -/
def nextSize (p : Progress) : Nat :=
  let wanted := portion - settledLength p.seen.reverse % portion
  max blockSize (p.bytes * wanted / p.chars)

/-- Adds the characters of a block. -/
def add (p : Progress) (bytes : Nat) (cs : List Char) : Progress :=
  let seen := cs.reverse ++ p.seen
  ⟨seen, bytes, settledLength seen.reverse - settledLength p.seen.reverse⟩

theorem blockSize_le_nextSize (p : Progress) : blockSize ≤ p.nextSize := Nat.le_max_left ..

end Progress

/-- Decodes blocks after the bytes `held` of an unfinished character. A block with a fault gives no
characters. -/
def decodeBlocks (p : Progress) (held bytes : List UInt8) : Decoded :=
  match bytes with
  | [] => ⟨p.seen.reverse, if held = [] then none else some ⟨.ending, 0, held⟩⟩
  | b :: bs =>
    let block := (b :: bs).take p.nextSize
    let d := decodeFrom [] 0 (held ++ block)
    let next := p.add block.length d.chars
    match d.fault with
    | none => decodeBlocks next [] ((b :: bs).drop p.nextSize)
    | some f =>
      if f.cause = .ending then decodeBlocks next f.bytes ((b :: bs).drop p.nextSize)
      else ⟨p.seen.reverse, some f⟩
  termination_by bytes.length
  decreasing_by
    all_goals
      have := p.blockSize_le_nextSize
      simp only [List.length_drop, List.length_cons, blockSize] at *
      omega

/-- The characters that bytes encode, as far as whole blocks of them do. -/
def decode (bytes : List UInt8) : Decoded := decodeBlocks ⟨[], 0, 0⟩ [] bytes

end Utf8

end MemberEncoding.Text
