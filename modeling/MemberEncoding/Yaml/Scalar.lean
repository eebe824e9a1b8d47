import MemberEncoding.Yaml.Cursor

/-!
# MemberEncoding.Yaml.Scalar

**Scalars** in their five styles: plain, single-quoted, double-quoted, literal block and folded
block. Each reader starts at the scalar and returns its content and the place after it, or what is
wrong with it.

All styles but the literal block fold lines: a single line break counts as a space, and of several
all but the first count as themselves (`foldBreaks`).

The readers that walk over several lines take an amount of fuel that bounds their steps; each step
takes a character at least, so more than the text has is enough (`Cursor.bound`).
-/

namespace MemberEncoding.Yaml

/-- Puts characters behind those already `seen`, which are in reverse. -/
def after (seen piece : List Char) : List Char := piece.reverse ++ seen

/-- A line break with the breaks of the empty lines after it, as content has them. -/
def foldBreaks (first : Char) (more : List Char) : List Char :=
  if first ≠ '\n' then first :: more
  else if more = [] then [' ']
  else more

/-! ### Plain scalars -/

/-- The characters that a plain scalar in a flow collection cannot hold. -/
def isFlowMark (c : Char) : Bool := [',', '?', '[', ']', '\x7b', '\x7d'].contains c

/-- The characters that end a key in a flow collection. -/
def isFlowEnd (c : Char) : Bool := [',', '[', ']', '\x7b', '\x7d'].contains c

/-- Does a plain word end before these characters? -/
def endsPlainWord (flow : Bool) : List Char → Bool
  | [] => true
  | c :: cs =>
    isGap c || isBreak c || (flow && isFlowMark c)
      || (c == ':' && (atGap cs || (flow && (cs.head?.map isFlowEnd).getD false)))

/-- The length of the plain word at the front of the characters, on top of `n`. -/
def plainWordLength (flow : Bool) : List Char → (n : Nat) → Nat
  | [], n => n
  | c :: cs, n => if endsPlainWord flow (c :: cs) then n else plainWordLength flow cs (n + 1)

/-- What stands between two words of a plain scalar. -/
structure PlainGap where
  content : List Char
  after : Cursor
  crossesLine : Bool

/-- The breaks of empty lines in a plain scalar; nothing if the document ends there. -/
def plainBreaks (c : Cursor) : (fuel : Nat) → Option (List Char) × Cursor
  | 0 => (some [], c)
  | fuel + 1 =>
    match c.rest with
    | ' ' :: _ => plainBreaks c.next fuel
    | _ =>
      match c.takeBreak? with
      | none => (some [], c)
      | some (b, c) =>
        if c.atBoundary then (none, c)
        else
          let (more, c) := plainBreaks c fuel
          (more.map (b :: ·), c)

/-- Reads what stands between two words of a plain scalar. -/
def plainGap (c : Cursor) : PlainGap :=
  let (spaces, c) := c.run (· == ' ')
  match c.takeBreak? with
  | none => ⟨spaces, c, false⟩
  | some (b, c) =>
    if c.atBoundary then ⟨[], c, true⟩
    else
      match plainBreaks c c.bound with
      | (none, c) => ⟨[], c, true⟩
      | (some more, c) => ⟨foldBreaks b more, c, true⟩

/-- A plain scalar, the place after it, and whether a line ended on the way there. -/
structure PlainScalar where
  content : List Char
  after : Cursor
  crossesLine : Bool

/-- Reads on in a plain scalar after what was `seen` of it, in reverse, and the gap `gap`. Lines
after the first have to be indented by `indent` outside of flow collections. -/
def plainFrom (flow : Bool) (indent : Int) (seen gap : List Char) (c : Cursor)
    (crossesLine : Bool) : (fuel : Nat) → PlainScalar
  | 0 => ⟨seen.reverse, c, crossesLine⟩
  | fuel + 1 =>
    let n := if c.rest.head? = some '#' then 0 else plainWordLength flow c.rest 0
    if n = 0 then ⟨seen.reverse, c, crossesLine⟩
    else
      let seen := after (after seen gap) (c.rest.take n)
      let g := plainGap (c.forward n)
      if g.content = [] || g.after.rest.head? = some '#'
          || (!flow && (g.after.column : Int) < indent) then
        ⟨seen.reverse, g.after, g.crossesLine⟩
      else plainFrom flow indent seen g.content g.after g.crossesLine fuel

/-- Reads a plain scalar. -/
def plainScalar (flow : Bool) (indent : Int) (c : Cursor) : PlainScalar :=
  plainFrom flow indent [] [] c false c.bound

/-! ### Quoted scalars -/

/-- The breaks of empty lines in a quoted scalar; a boundary of documents is refused. -/
def quotedBreaks (c : Cursor) : (fuel : Nat) → Except Fault (List Char × Cursor)
  | 0 => .error .malformed
  | fuel + 1 =>
    if c.atBoundary then .error .malformed
    else
      let c := c.skip isGap
      match c.takeBreak? with
      | none => .ok ([], c)
      | some (b, c) => do
        let (more, c) ← quotedBreaks c fuel
        .ok (b :: more, c)

/-- The character of a short escape. -/
def shortEscape? (c : Char) : Option Char :=
  [('0', '\x00'), ('a', '\x07'), ('b', '\x08'), ('t', '\t'), ('\t', '\t'), ('n', '\n'),
   ('v', '\x0b'), ('f', '\x0c'), ('r', '\r'), ('e', '\x1b'), (' ', ' '), ('"', '"'),
   ('\\', '\\'), ('/', '/'), ('N', '\x85'), ('_', '\xa0'), ('L', '\u2028'),
   ('P', '\u2029')].lookup c

/-- How many digits follow the letter of an escape by code point. -/
def escapeWidth? (c : Char) : Option Nat := [('x', 2), ('u', 4), ('U', 8)].lookup c

/-- The value of a hexadecimal digit. -/
def hexValue? (c : Char) : Option Nat :=
  if c.isDigit then some (c.toNat - '0'.toNat)
  else if 'a' ≤ c && c ≤ 'f' then some (c.toNat - 'a'.toNat + 10)
  else if 'A' ≤ c && c ≤ 'F' then some (c.toNat - 'A'.toNat + 10)
  else none

/-- The character that hexadecimal digits denote, if all are digits and it exists. There are readers
that let half of a surrogate pair stand in a text; here it is no character, and the document that
asks for it is refused. -/
def codePoint (digits : List Char) : Except Fault Char :=
  match digits.mapM hexValue? with
  | none => .error .malformed
  | some values =>
    let n := values.foldl (fun n d => n * 16 + d) 0
    if h : n.isValidChar then .ok (Char.ofNatAux n h)
    -- Halves of surrogate pairs are no characters, and neither are numbers beyond the last.
    else .error (if n < 0x110000 then .malformed else .codePoint n)

/-- Reads an escape after its backslash. -/
def escape (c : Cursor) : Except Fault (List Char × Cursor) :=
  match c.rest with
  | [] => .error c.cutOff
  | ch :: rest =>
    match shortEscape? ch, escapeWidth? ch with
    | some e, _ => .ok ([e], c.next)
    | none, some width =>
      let digits := rest.take width
      if digits.length = width then do
        let e ← codePoint digits
        .ok ([e], c.forward (width + 1))
      else .error c.cutOff
    | none, none =>
      match c.takeBreak? with
      | some (_, c) => quotedBreaks c c.bound
      | none => .error .malformed

/-- Reads on in a quoted scalar after what was `seen` of it, in reverse, up to its closing
`quote`. -/
def quotedFrom (quote : Char) (seen : List Char) (c : Cursor) :
    (fuel : Nat) → Except Fault (List Char × Cursor)
  | 0 => .error .malformed
  | fuel + 1 =>
    match c.rest with
    | [] => .error c.cutOff
    | ch :: rest =>
      if ch = quote then
        if quote = '\'' && rest.head? = some '\'' then
          quotedFrom quote ('\'' :: seen) (c.forward 2) fuel
        else .ok (seen.reverse, c.next)
      else if ch = '\\' && quote = '"' then do
        let (e, c) ← escape c.next
        quotedFrom quote (after seen e) c fuel
      else if isGap ch || isBreak ch then
        let (gaps, c) := c.run isGap
        match c.takeBreak? with
        | none => quotedFrom quote (after seen gaps) c fuel
        | some (b, c) => do
          let (more, c) ← quotedBreaks c c.bound
          quotedFrom quote (after seen (foldBreaks b more)) c fuel
      else quotedFrom quote (ch :: seen) c.next fuel

/-- Reads a quoted scalar from its opening quote on. -/
def quotedScalar (c : Cursor) : Except Fault (List Char × Cursor) :=
  match c.rest with
  | [] => .error c.cutOff
  | quote :: _ => quotedFrom quote [] c.next c.bound

/-! ### Block scalars -/

/-- What happens to the line breaks at the end of a block scalar. -/
inductive Chomping
  /-- None is content. -/
  | strip
  /-- The first is content. -/
  | clip
  /-- All are content. -/
  | keep
  deriving DecidableEq

/-- The chomping that a character stands for. -/
def chomping? (c : Char) : Option Chomping :=
  if c = '+' then some .keep else if c = '-' then some .strip else none

/-- The indentation that a character stands for; zero is none. -/
def indentation? (c : Char) : Option Nat :=
  if c.isDigit && c ≠ '0' then some (c.toNat - '0'.toNat) else none

/-- Reads the chomping and the indentation in the header of a block scalar, in either order. -/
def blockHeader (c : Cursor) : Chomping × Option Nat × Cursor :=
  match c.rest with
  | [] => (.clip, none, c)
  | a :: rest =>
    match chomping? a, indentation? a with
    | some ch, _ =>
      match rest.head?.bind indentation? with
      | some n => (ch, some n, c.forward 2)
      | none => (ch, none, c.next)
    | none, some n =>
      match rest.head?.bind chomping? with
      | some ch => (ch, some n, c.forward 2)
      | none => (.clip, some n, c.next)
    | none, none => (.clip, none, c)

/-- The rest of a line, which may hold a comment only. -/
def lineEnd (c : Cursor) : Except Fault Cursor :=
  let c := c.skip (· == ' ')
  let c := if c.rest.head? = some '#' then c.skip fun ch => !isBreak ch else c
  match c.rest, c.takeBreak? with
  | [], _ => .ok c
  | _, some (_, c) => .ok c
  | _, none => .error .malformed

/-- The breaks of the empty lines at the start of a block scalar, and how far the farthest of these
lines, or the first line with content, is indented. -/
def leadingBreaks (c : Cursor) (deepest : Nat) : (fuel : Nat) → List Char × Nat × Cursor
  | 0 => ([], deepest, c)
  | fuel + 1 =>
    match c.rest with
    | ' ' :: _ => leadingBreaks c.next (max deepest c.next.column) fuel
    | _ =>
      match c.takeBreak? with
      | none => ([], deepest, c)
      | some (b, c) =>
        let (more, deepest, c) := leadingBreaks c deepest fuel
        (b :: more, deepest, c)

/-- The breaks of empty lines within a block scalar, up to the column `indent` of its next line. -/
def blockBreaks (indent : Nat) (c : Cursor) : (fuel : Nat) → List Char × Cursor
  | 0 => ([], c)
  | fuel + 1 =>
    let spaces := (c.rest.takeWhile (· == ' ')).length
    let c := c.forward (min spaces (indent - c.column))
    match c.takeBreak? with
    | none => ([], c)
    | some (b, c) =>
      let (more, c) := blockBreaks indent c fuel
      (b :: more, c)

/-- What a block scalar holds up to its last line, the break after that line, and the breaks of the
empty lines at its end. -/
structure BlockLines where
  content : List Char
  lineBreak : List Char
  breaks : List Char
  after : Cursor

/-- Does a line start here, at the column `indent`? -/
def startsLine (indent : Nat) (c : Cursor) : Bool := c.column = indent && c.rest ≠ []

/-- Does a line start here with something else than a gap? -/
def startsSolid (c : Cursor) : Bool := !(c.rest.head?.map isGap).getD false

/-- Reads on in a block scalar after what was `seen` of it, in reverse. The next line, after the
empty lines that `breaks` stand for, is at the cursor; it follows the break `lineBreak`. -/
def blockLines (folded : Bool) (indent : Nat) (seen lineBreak breaks : List Char) (c : Cursor) :
    (fuel : Nat) → BlockLines
  | 0 => ⟨seen.reverse, lineBreak, breaks, c⟩
  | fuel + 1 =>
    if startsLine indent c then
      let solid := startsSolid c
      let (line, c) := c.run fun ch => !isBreak ch
      let seen := after (after seen breaks) line
      let (lineBreak, c) :=
        match c.takeBreak? with
        | some (b, c) => ([b], c)
        | none => ([], c)
      let (breaks, c) := blockBreaks indent c c.bound
      if startsLine indent c then
        -- Only a break between two lines that both start with content is folded.
        let joint :=
          if folded && lineBreak = ['\n'] && solid && startsSolid c then
            if breaks = [] then [' '] else []
          else lineBreak
        blockLines folded indent (after seen joint) lineBreak breaks c fuel
      else ⟨seen.reverse, lineBreak, breaks, c⟩
    else ⟨seen.reverse, lineBreak, breaks, c⟩

/-- Reads a block scalar from its indicator on, within a collection indented by `indent`. -/
def blockScalar (indent : Int) (c : Cursor) : Except Fault (List Char × Cursor) := do
  let folded := c.rest.head? = some '>'
  let (chomping, width, c) := blockHeader c.next
  if atGap c.rest && c.rest.head? ≠ some '\t' then
    let c ← lineEnd c
    let least := max 1 (indent + 1).toNat
    let (breaks, column, c) :=
      match width with
      | some n =>
        -- The width counts from the indentation of the collection around.
        let column := least + n - 1
        let (breaks, c) := blockBreaks column c c.bound
        (breaks, column, c)
      | none =>
        let (breaks, deepest, c) := leadingBreaks c 0 c.bound
        (breaks, max least deepest, c)
    let b := blockLines folded column [] [] breaks c c.bound
    match chomping with
    | .strip => .ok (b.content, b.after)
    | .clip => .ok (b.content ++ b.lineBreak, b.after)
    | .keep => .ok (b.content ++ b.lineBreak ++ b.breaks, b.after)
  else .error .malformed

end MemberEncoding.Yaml
