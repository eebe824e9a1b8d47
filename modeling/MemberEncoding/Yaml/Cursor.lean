import MemberEncoding.Yaml.Source

/-!
# MemberEncoding.Yaml.Cursor

**Cursors**: a place in the text of a document, with its line and column, because the layout of a
document is part of what it says. A byte order mark has no width.
-/

namespace MemberEncoding.Yaml

/-- The characters that end a line. -/
def isBreak (c : Char) : Bool :=
  c == '\n' || c == '\x85' || c == '\u2028' || c == '\u2029'

/-- The characters that separate words in a line. -/
def isGap (c : Char) : Bool := c == ' ' || c == '\t'

/-- Is there a gap, a line break or the end of the text? -/
def atGap : List Char → Bool
  | [] => true
  | c :: _ => isGap c || isBreak c

/-- The byte order mark. -/
def byteOrderMark : Char := '\uFEFF'

/-- A place in a text. -/
structure Cursor where
  rest : List Char
  index : Nat
  line : Nat
  column : Nat
  /-- What is wrong with the text after the rest, if it goes on there. -/
  ending : Option Fault
  /-- More than there are characters in the whole text. -/
  bound : Nat

namespace Cursor

/-- The start of a text. -/
def start (source : Source) : Cursor :=
  let bound := source.chars.length + 1
  match source.chars with
  | c :: rest =>
    if c = byteOrderMark then ⟨rest, 1, 0, 0, source.fault, bound⟩
    else ⟨c :: rest, 0, 0, 0, source.fault, bound⟩
  | [] => ⟨[], 0, 0, 0, source.fault, bound⟩

/-- What is wrong where the text ends too early. -/
def cutOff (c : Cursor) : Fault := c.ending.getD .malformed

/-- The place after a character, with the text that follows it. -/
def pass (c : Cursor) (ch : Char) (rest : List Char) : Cursor :=
  let c := { c with rest, index := c.index + 1 }
  if isBreak ch then { c with line := c.line + 1, column := 0 }
  else if ch = byteOrderMark then c
  else { c with column := c.column + 1 }

/-- The place after the next character. -/
def next (c : Cursor) : Cursor :=
  match c.rest with
  | [] => c
  | ch :: rest => c.pass ch rest

/-- The place `n` characters on. -/
def forward (c : Cursor) : Nat → Cursor
  | 0 => c
  | n + 1 => c.next.forward n

/-- The characters from here on that satisfy `p`, and the place after them. -/
def run (c : Cursor) (p : Char → Bool) : List Char × Cursor :=
  let taken := c.rest.takeWhile p
  (taken, c.forward taken.length)

/-- The place after the characters from here on that satisfy `p`. -/
def skip (c : Cursor) (p : Char → Bool) : Cursor := (c.run p).2

/-- Does a marker of three equal characters stand here, at the start of a line? -/
def atMarker (c : Cursor) (mark : Char) : Bool :=
  c.column == 0 && c.rest.take 3 == [mark, mark, mark] && atGap (c.rest.drop 3)

/-- Does a document begin or end here? -/
def atBoundary (c : Cursor) : Bool := c.atMarker '-' || c.atMarker '.'

/-- The line break here, as content has it, and the place after it. -/
def takeBreak? (c : Cursor) : Option (Char × Cursor) :=
  match c.rest with
  | [] => none
  | ch :: _ =>
    if isBreak ch then some (if ch = '\x85' then '\n' else ch, c.next) else none

end Cursor

end MemberEncoding.Yaml
