import MemberEncoding.Yaml.Scalar

/-!
# MemberEncoding.Yaml.Tag

**Tags**, which say what kind of datum a node is, and what else starts with a mark of its own: the
names of nodes, and directives.

A tag is a handle with a suffix, or spelled out. What handles stand for is up to the document
(`Directive.handle`); a tag that starts like the standard ones names one of the kinds that are known
here (`Kind.ofTag`).
-/

namespace MemberEncoding.Yaml

/-- What kind of datum a node is. -/
inductive Kind
  | null
  | bool
  | int
  | float
  /-- A day or a moment. -/
  | timestamp
  | binary
  | text
  | sequence
  | mapping
  /-- A sequence of mappings with one entry each. -/
  | pairs
  /-- The keys of a mapping. -/
  | set
  /-- The key of entries that are taken over from other mappings. -/
  | merge
  /-- The key of the entry that stands for its mapping. -/
  | default
  /-- Any other kind. -/
  | unknown
  deriving DecidableEq

/-- What the standard tags start with. -/
def standardTags : String := "tag:yaml.org,2002:"

/-- The kind that a tag names. -/
def Kind.ofTag (tag : String) : Kind :=
  let name := tag.toList.drop standardTags.length
  if tag.toList.take standardTags.length = standardTags.toList then
    ([("null", null), ("bool", bool), ("int", int), ("float", float), ("timestamp", timestamp),
      ("binary", binary), ("str", text), ("seq", sequence), ("map", mapping), ("omap", pairs),
      ("pairs", pairs), ("set", set), ("merge", merge), ("value", default)].lookup
        (String.ofList name)).getD unknown
  else unknown

/-- A tag as it is written. Without a handle it is spelled out, or a lone exclamation mark. -/
structure Tag where
  handle : Option String
  suffix : String
  deriving DecidableEq

/-- What a directive says. -/
inductive Directive
  /-- Which version of the format the document follows, by its first number. -/
  | version (major : Nat)
  /-- What a handle stands for. -/
  | handle (name stands : String)
  /-- Something that has no effect. -/
  | other
  deriving DecidableEq

/-! ### Names -/

/-- The characters of names. -/
def isNameChar (c : Char) : Bool := c.isAlphanum || c == '-' || c == '_'

/-- Is there a blank, a line break or the end of the text? -/
def atBlank : List Char → Bool
  | [] => true
  | c :: _ => c == ' ' || isBreak c

/-- Goes on where a blank, a line break or the end of the text comes. -/
def beforeBlank (c : Cursor) : Except Fault Cursor :=
  if atBlank c.rest then .ok c else .error .malformed

/-- Reads a name, which is not empty. -/
def name (c : Cursor) : Except Fault (String × Cursor) :=
  match c.run isNameChar with
  | ([], _) => .error .malformed
  | (cs, c) => .ok (String.ofList cs, c)

/-- The characters that may follow the name of a node. -/
def endsNodeName (cs : List Char) : Bool :=
  atGap cs || (cs.head?.map ['?', ':', ',', ']', '\x7d', '%', '@', '\x60'].contains).getD false

/-- Reads the name of a node after its mark. -/
def nodeName (c : Cursor) : Except Fault (String × Cursor) := do
  let (name, c) ← name c.next
  if endsNodeName c.rest then .ok (name, c) else .error .malformed

/-! ### Tags -/

/-- Reads a handle: an exclamation mark, or a name between two, which may be empty. -/
def tagHandle (c : Cursor) : Except Fault (String × Cursor) :=
  match c.rest with
  | '!' :: ' ' :: _ => .ok ("!", c.next)
  | '!' :: _ =>
    let (name, c) := c.next.run isNameChar
    if c.rest.head? = some '!' then .ok (String.ofList ('!' :: name ++ ['!']), c.next)
    else .error .malformed
  | _ => .error .malformed

/-- The characters of the suffixes of tags. -/
def isTagChar (c : Char) : Bool := c.isAlphanum || "-;/?:@&=+$,_.!~*'()[]%".toList.contains c

/-- Puts the bytes that are escaped by their numbers in their places. -/
def tagBytes : List Char → Option (List UInt8)
  | [] => some []
  | '%' :: a :: b :: cs => do
    let high ← hexValue? a
    let low ← hexValue? b
    (tagBytes cs).map ((high * 16 + low).toUInt8 :: ·)
  | c :: cs => if c = '%' then none else (tagBytes cs).map (c.toNat.toUInt8 :: ·)

/-- Reads the suffix of a tag, which is not empty. -/
def tagSuffix (c : Cursor) : Except Fault (String × Cursor) :=
  match c.run isTagChar with
  | ([], _) => .error .malformed
  | (cs, c) =>
    match (tagBytes cs).bind Text.Utf8.decode? with
    | some suffix => .ok (String.ofList suffix, c)
    | none => .error .malformed

/-- Is there an exclamation mark before the next blank? -/
def hasMark (cs : List Char) : Bool :=
  (cs.takeWhile fun ch => !(ch == ' ' || isBreak ch)).contains '!'

/-- Reads a tag. -/
def tag (c : Cursor) : Except Fault (Tag × Cursor) := do
  let (tag, c) ←
    match c.rest.tail with
    | '<' :: _ => do
      let (suffix, c) ← tagSuffix (c.forward 2)
      if c.rest.head? = some '>' then .ok (⟨none, suffix⟩, c.next) else .error .malformed
    | rest =>
      if atGap rest then .ok (⟨none, "!"⟩, c.next)
      else do
        let (handle, c) ← if hasMark rest then tagHandle c else .ok ("!", c.next)
        let (suffix, c) ← tagSuffix c
        .ok (⟨some handle, suffix⟩, c)
  let c ← beforeBlank c
  .ok (tag, c)

/-! ### Directives -/

/-- Reads the number of a version. -/
def versionNumber (c : Cursor) : Except Fault (Nat × Cursor) :=
  match c.run Char.isDigit with
  | ([], _) => .error .malformed
  | (cs, c) =>
    if digitLimit < cs.length then .error (.tooManyDigits cs.length)
    else .ok (cs.foldl (fun n d => n * 10 + (d.toNat - '0'.toNat)) 0, c)

/-- Reads what a directive with the given name says. -/
def directiveBody (name : String) (c : Cursor) : Except Fault (Directive × Cursor) :=
  if name = "YAML" then do
    let (major, c) ← versionNumber (c.skip (· == ' '))
    if c.rest.head? ≠ some '.' then .error .malformed
    else do
      let (_, c) ← versionNumber c.next
      let c ← beforeBlank c
      .ok (.version major, c)
  else if name = "TAG" then do
    let (handle, c) ← tagHandle (c.skip (· == ' '))
    if c.rest.head? ≠ some ' ' then .error .malformed
    else do
      let (stands, c) ← tagSuffix (c.skip (· == ' '))
      let c ← beforeBlank c
      .ok (.handle handle stands, c)
  else .ok (.other, c.skip fun ch => !isBreak ch)

/-- Reads a directive. -/
def directive (c : Cursor) : Except Fault (Directive × Cursor) := do
  let (name, c) ← name c.next
  let c ← beforeBlank c
  let (directive, c) ← directiveBody name c
  let c ← lineEnd c
  .ok (directive, c)

end MemberEncoding.Yaml
