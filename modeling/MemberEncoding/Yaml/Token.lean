import MemberEncoding.Yaml.Tag

/-!
# MemberEncoding.Yaml.Token

**The tokens of a document**: scalars, their properties, indicators, and the starts and ends of
block collections, which come from the indentation.

A key is only recognized at the colon that follows it. So the lexer remembers where a key might have
started (`Candidate`), one place per level of nesting, and puts the key token there afterwards. A
key fits on one line and is not overly long; where the layout leaves no other reading, a candidate
that turns out not to be a key is an error.

Where the text cannot be read on, the tokens end with one that says why (`Token.broken`). What comes
before it can still be used, but for what might turn out to be a key by what cannot be read.
-/

namespace MemberEncoding.Yaml

/-- A token of a document. -/
inductive Token
  | documentStart
  | documentEnd
  | blockSequenceStart
  | blockMappingStart
  | blockEnd
  | flowSequenceStart
  | flowSequenceEnd
  | flowMappingStart
  | flowMappingEnd
  | blockEntry
  | flowEntry
  | key
  | value
  | scalar (content : String) (plain : Bool)
  /-- A name for the node that follows. -/
  | anchor (name : String)
  /-- The node with a name. -/
  | alias (name : String)
  | tag (tag : Tag)
  | directive (directive : Directive)
  /-- There is something wrong here. -/
  | broken (fault : Fault)
  deriving DecidableEq

/-- A place where a key might have started. -/
structure Candidate where
  /-- How many tokens come before it. -/
  position : Nat
  /-- Does the layout allow nothing but a key? -/
  required : Bool
  index : Nat
  line : Nat
  column : Nat

/-- The state between two tokens. -/
structure Lexer where
  cursor : Cursor
  /-- The indentation of the innermost block collection, and of those around it. -/
  indent : Int
  indents : List Int
  /-- May a key start here? -/
  keyAllowed : Bool
  /-- The candidate in the innermost flow collection or, outside of them, in the block. -/
  candidate : Option Candidate
  /-- The candidates around it; there is one level per open flow collection. -/
  outer : List (Option Candidate)
  /-- The tokens so far, the last first, and how many there are. -/
  tokens : List Token
  count : Nat

namespace Lexer

/-- The state at the start of a text. -/
def start (source : Source) : Lexer := ⟨Cursor.start source, -1, [], true, none, [], [], 0⟩

/-- Is a flow collection open? -/
def inFlow (l : Lexer) : Bool := !l.outer.isEmpty

/-- Emits a token. -/
def emit (l : Lexer) (t : Token) : Lexer :=
  { l with tokens := t :: l.tokens, count := l.count + 1 }

/-- Puts a token in between, where `position` tokens come before it. -/
def insert (l : Lexer) (position : Nat) (t : Token) : Lexer :=
  { l with tokens := l.tokens.insertIdx (l.count - position) t, count := l.count + 1 }

/-- Emits a token of `n` characters. -/
def emitOver (l : Lexer) (n : Nat) (t : Token) : Lexer :=
  { l with cursor := l.cursor.forward n }.emit t

/-- Skips gaps, comments and line breaks; outside of flow collections a new line may start a key.
`comment` tells whether a comment is being skipped. -/
def skipFrom (flow : Bool) (l : Lexer) (comment : Bool) : List Char → Lexer
  | [] => l
  | ch :: rest =>
    if isBreak ch then
      skipFrom flow
        { l with cursor := l.cursor.pass ch rest, keyAllowed := l.keyAllowed || !flow } false rest
    else if comment || ch = ' ' then
      skipFrom flow { l with cursor := l.cursor.pass ch rest } comment rest
    else if ch = '#' then
      skipFrom flow { l with cursor := l.cursor.pass ch rest } true rest
    else l

/-- Skips what stands before a token. -/
def skipGaps (l : Lexer) : Lexer := skipFrom l.inFlow l false l.cursor.rest

/-- Can a candidate not be a key any more? -/
def isStale (l : Lexer) (c : Candidate) : Bool :=
  c.line != l.cursor.line || 1024 < l.cursor.index - c.index

/-- Drops candidates that can not be keys any more; fails if one of them has to be a key. -/
def dropStale (l : Lexer) : Except Fault Lexer :=
  let fresh (c : Option Candidate) : Option Candidate := c.filter fun c => !l.isStale c
  let overdue (c : Option Candidate) : Bool :=
    (c.map fun c => l.isStale c && c.required).getD false
  if (l.candidate :: l.outer).any overdue then .error .malformed
  else .ok { l with candidate := fresh l.candidate, outer := l.outer.map fresh }

/-- Drops the innermost candidate; fails if it has to be a key. -/
def dropCandidate (l : Lexer) : Except Fault Lexer :=
  match l.candidate with
  | some c => if c.required then .error .malformed else .ok { l with candidate := none }
  | none => .ok l

/-- Takes the place here as a candidate, if a key may start here. -/
def saveCandidate (l : Lexer) : Except Fault Lexer :=
  if l.keyAllowed then do
    let required := !l.inFlow && l.indent = l.cursor.column
    let l ← l.dropCandidate
    .ok { l with
      candidate :=
        some ⟨l.count, required, l.cursor.index, l.cursor.line, l.cursor.column⟩ }
  else .ok l

/-- Closes the block collections that are indented further than `column`. -/
def unwindTo (l : Lexer) (column : Int) : Lexer :=
  if l.inFlow then l
  else
    let (indent, indents, closed) := close l.indent l.indents
    { l with
      indent, indents
      tokens := List.replicate closed Token.blockEnd ++ l.tokens
      count := l.count + closed }
where
  /-- The indentation that is left, and how many collections are closed. -/
  close (indent : Int) : List Int → Int × List Int × Nat
    | [] => (indent, [], 0)
    | outer :: indents =>
      if column < indent then
        let (indent, indents, n) := close outer indents
        (indent, indents, n + 1)
      else (indent, outer :: indents, 0)

/-- Opens a block collection at `column`, if that is further than those open; the token that tells
so goes before the token at `position`. -/
def openBlock (l : Lexer) (column position : Nat) (t : Token) : Lexer :=
  if !l.inFlow && l.indent < column then
    { l with indent := column, indents := l.indent :: l.indents }.insert position t
  else l

/-- Opens a block collection here. -/
def openBlockHere (l : Lexer) (t : Token) : Lexer :=
  l.openBlock l.cursor.column l.count t

/-- Reads the marker of a document's start or end. -/
def marker (l : Lexer) (t : Token) : Except Fault Lexer := do
  let l ← (l.unwindTo (-1)).dropCandidate
  .ok ({ l with keyAllowed := false }.emitOver 3 t)

/-- Reads the opening bracket of a flow collection. -/
def openFlow (l : Lexer) (t : Token) : Except Fault Lexer := do
  let l ← l.saveCandidate
  let inner := { l with keyAllowed := true, candidate := none, outer := l.candidate :: l.outer }
  .ok (inner.emitOver 1 t)

/-- Reads the closing bracket of a flow collection. -/
def closeFlow (l : Lexer) (t : Token) : Except Fault Lexer := do
  let l ← l.dropCandidate
  match l.outer with
  | [] => .error .malformed
  | candidate :: outer => .ok ({ l with keyAllowed := false, candidate, outer }.emitOver 1 t)

/-- Reads the comma between the entries of a flow collection. -/
def comma (l : Lexer) : Except Fault Lexer := do
  let l ← { l with keyAllowed := true }.dropCandidate
  .ok (l.emitOver 1 .flowEntry)

/-- Reads the dash before an entry of a block sequence. -/
def dash (l : Lexer) : Except Fault Lexer := do
  if !l.inFlow && !l.keyAllowed then .error .malformed
  else
    let l ← { l.openBlockHere .blockSequenceStart with keyAllowed := true }.dropCandidate
    .ok (l.emitOver 1 .blockEntry)

/-- Reads the question mark before a key. -/
def questionMark (l : Lexer) : Except Fault Lexer := do
  if !l.inFlow && !l.keyAllowed then .error .malformed
  else
    let l ← { l.openBlockHere .blockMappingStart with keyAllowed := !l.inFlow }.dropCandidate
    .ok (l.emitOver 1 .key)

/-- Reads the colon before a value, and puts the key token before the candidate if there is one. -/
def colon (l : Lexer) : Except Fault Lexer := do
  match l.candidate with
  | some c =>
    -- The key token first: the start of a mapping, if there is one, goes before it.
    let l := { l with candidate := none, keyAllowed := false }.insert c.position .key
    .ok ((l.openBlock c.column c.position .blockMappingStart).emitOver 1 .value)
  | none =>
    if !l.inFlow && !l.keyAllowed then .error .malformed
    else
      let l := { l.openBlockHere .blockMappingStart with keyAllowed := !l.inFlow }
      .ok (l.emitOver 1 .value)

/-- Reads a block scalar. -/
def block (l : Lexer) : Except Fault Lexer := do
  let l ← { l with keyAllowed := true }.dropCandidate
  let (content, cursor) ← blockScalar l.indent l.cursor
  .ok ({ l with cursor }.emit (.scalar (String.ofList content) false))

/-- Reads a quoted scalar. -/
def quoted (l : Lexer) : Except Fault Lexer := do
  let l ← l.saveCandidate
  let (content, cursor) ← quotedScalar l.cursor
  .ok ({ l with cursor, keyAllowed := false }.emit (.scalar (String.ofList content) false))

/-- Reads a plain scalar; if a line ended on the way a key may follow. -/
def plain (l : Lexer) : Except Fault Lexer := do
  let l ← l.saveCandidate
  let p := plainScalar l.inFlow (l.indent + 1) l.cursor
  .ok ({ l with cursor := p.after, keyAllowed := p.crossesLine }.emit
    (.scalar (String.ofList p.content) true))

/-- Reads an anchor, an alias or a tag; a key may start with it. -/
def property {α : Type} (l : Lexer) (read : Cursor → Except Fault (α × Cursor)) (t : α → Token) :
    Except Fault Lexer := do
  let l ← l.saveCandidate
  let (a, cursor) ← read l.cursor
  .ok ({ l with cursor, keyAllowed := false }.emit (t a))

/-- Reads a directive. -/
def directive (l : Lexer) : Except Fault Lexer := do
  let l ← (l.unwindTo (-1)).dropCandidate
  let (d, cursor) ← Yaml.directive l.cursor
  .ok ({ l with cursor, keyAllowed := false }.emit (.directive d))

/-- The characters that no plain scalar starts with, or only if more follows at once. -/
def isIndicator (c : Char) : Bool :=
  ['-', '?', ':', ',', '[', ']', '\x7b', '\x7d', '#', '&', '*', '!', '|', '>', '\'', '"', '%', '@',
   '\x60'].contains c

/-- Does a plain scalar start with these characters? -/
def startsPlain (flow : Bool) (c : Char) (rest : List Char) : Bool :=
  !(isGap c || isBreak c || isIndicator c)
    || (!atGap rest && (c == '-' || (!flow && (c == '?' || c == ':'))))

/-- Reads the token that starts with the character `c`, before `rest`. -/
def token (l : Lexer) (c : Char) (rest : List Char) : Except Fault Lexer :=
  let flow := l.inFlow
  -- Markers come before dashes, and inside flow collections every colon ends a key.
  if c = '%' && l.cursor.column = 0 then l.directive
  else if l.cursor.atMarker '-' then l.marker .documentStart
  else if l.cursor.atMarker '.' then l.marker .documentEnd
  else if c = '[' then l.openFlow .flowSequenceStart
  else if c = '\x7b' then l.openFlow .flowMappingStart
  else if c = ']' then l.closeFlow .flowSequenceEnd
  else if c = '\x7d' then l.closeFlow .flowMappingEnd
  else if c = ',' then l.comma
  else if c = '-' && atGap rest then l.dash
  else if c = '?' && (flow || atGap rest) then l.questionMark
  else if c = ':' && (flow || atGap rest) then l.colon
  else if c = '*' then l.property nodeName .alias
  else if c = '&' then l.property nodeName .anchor
  else if c = '!' then l.property Yaml.tag .tag
  else if (c = '|' || c = '>') && !flow then l.block
  else if c = '\'' || c = '"' then l.quoted
  else if startsPlain flow c rest then l.plain
  else .error .malformed

/-- Reads one token, or the end of the text, which ends all block collections; tells whether it was
the end. -/
def step (l : Lexer) : Except Fault (Lexer × Bool) :=
  let l := l.skipGaps
  match l.cursor.rest, l.cursor.ending with
  | [], some f => .error f
  | [], none => do
    let l ← l.dropStale
    let l ← (l.unwindTo (-1)).dropCandidate
    .ok (l, true)
  | c :: rest, _ => do
    let l ← l.dropStale
    let l ← (l.unwindTo l.cursor.column).token c rest
    .ok (l, false)

/-- The tokens that are certain: those before the first candidate. -/
def certain (l : Lexer) : List Token :=
  let positions := (l.candidate :: l.outer).filterMap fun c => c.map Candidate.position
  l.tokens.reverse.take (positions.foldl min l.count)

/-- The tokens up to a fault after the state. -/
def breakOff (l : Lexer) (fault : Fault) : List Token :=
  match l.dropStale with
  | .ok l => l.certain ++ [.broken fault]
  | .error f => l.certain ++ [.broken f]

/-- Reads tokens to the end of the text; every step takes a character, so more than the text has is
fuel enough. -/
def finish (l : Lexer) : (fuel : Nat) → List Token
  | 0 => l.breakOff .malformed
  | fuel + 1 =>
    match l.step with
    | .error f => l.breakOff f
    | .ok (l, ended) => if ended then l.tokens.reverse else finish l fuel

end Lexer

/-- The tokens of a source. -/
def tokens (source : Source) : List Token :=
  let l := Lexer.start source
  l.finish l.cursor.bound

end MemberEncoding.Yaml
