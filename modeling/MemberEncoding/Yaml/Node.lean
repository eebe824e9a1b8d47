import MemberEncoding.Yaml.Plain
import MemberEncoding.Yaml.Token

/-!
# MemberEncoding.Yaml.Node

**Nodes**, the structure of a document: scalars, sequences and mappings whose keys and values are
nodes again. What is left out where a node may stand, such as the value in `key:`, is an empty plain
scalar. A node may have a name, under which it can stand again later on, a collection also inside of
itself. So the nodes of a document are a graph (`Graph`): each has a number, and collections give
their parts by numbers.

`document` makes the graph of a token list, which has to hold one document. The readers for the
parts take fuel; as at least every third call takes a token, thrice the number of tokens is enough.
-/

namespace MemberEncoding.Yaml

/-- What a node is made of. Parts are given by their numbers. -/
inductive Shape
  | scalar (content : String)
  | sequence (items : List Nat)
  | mapping (entries : List (Nat × Nat))

/-- A node of a document. -/
structure Node where
  kind : Kind
  shape : Shape

/-- What stands for a node that is left out. -/
def Node.omitted : Node := ⟨.null, .scalar ""⟩

/-- The nodes of a document by their numbers, and the numbers of its collections in the order in
which they end, the last first. A collection ends after its parts, unless it is inside of them. -/
structure Graph where
  nodes : Array Node
  ended : List Nat

namespace Graph

/-- No nodes. -/
def empty : Graph := ⟨#[], []⟩

/-- The node with a number. -/
def node (g : Graph) (n : Nat) : Node := g.nodes.getD n .omitted

/-- The entries of a mapping. -/
def entries (g : Graph) (n : Nat) : List (Nat × Nat) :=
  match (g.node n).shape with
  | .mapping entries => entries
  | _ => []

/-- Adds a node, whose number is the next one. -/
def add (g : Graph) (node : Node) : Graph := { g with nodes := g.nodes.push node }

/-- Gives a node another kind. -/
def setKind (g : Graph) (n : Nat) (kind : Kind) : Graph :=
  { g with nodes := g.nodes.modify n fun node => { node with kind := kind } }

/-- Gives a node other parts. -/
def setShape (g : Graph) (n : Nat) (shape : Shape) : Graph :=
  { g with nodes := g.nodes.modify n fun node => { node with shape := shape } }

/-- Notes that a collection ends. -/
def finish (g : Graph) (n : Nat) : Graph := { g with ended := n :: g.ended }

end Graph

/-! ### Reading tokens -/

/-- What is left of the tokens of a document, what the handles of tags stand for, the numbers of the
nodes that have a name so far, and the nodes. -/
structure Rest where
  tokens : List Token
  handles : List (String × String)
  named : List (String × Nat)
  graph : Graph

/-- Reads something from the tokens. -/
abbrev Composing (α : Type) : Type := StateT Rest (Except Fault) α

namespace Composing

/-- Fails, since the tokens are not those of a document. -/
def fail {α : Type} : Composing α := fun _ => .error .malformed

/-- The next token; where the text cannot be read on, looking for it fails. -/
def peek : Composing (Option Token) := fun r =>
  match r.tokens.head? with
  | some (.broken f) => .error f
  | t => .ok (t, r)

/-- Takes the next token. -/
def advance : Composing Unit := fun r => .ok ((), { r with tokens := r.tokens.tail })

/-- Is the next token one of these? -/
def nextIs (among : List Token) : Composing Bool := do
  let t ← peek
  pure ((t.map among.contains).getD false)

/-- Takes the next token if it is this one, and tells whether it was. -/
def taken (t : Token) : Composing Bool := do
  if ← nextIs [t] then
    advance
    pure true
  else pure false

/-- Checks that no node has the name yet. -/
def checkNew (name : Option String) : Composing Unit := do
  let r ← get
  if name.any fun a => (r.named.lookup a).isSome then fail else pure ()

/-- Gives a name to a node, if there is one. -/
def setName (name : Option String) (n : Nat) : Composing Unit :=
  match name with
  | some a => modify fun r => { r with named := (a, n) :: r.named }
  | none => pure ()

/-- Adds a node and gives its number. -/
def add (node : Node) : Composing Nat :=
  fun r => .ok (r.graph.nodes.size, { r with graph := r.graph.add node })

/-- Gives a collection its parts, with which it ends. -/
def finish (n : Nat) (shape : Shape) : Composing Unit :=
  modify fun r => { r with graph := (r.graph.setShape n shape).finish n }

end Composing

open Composing

/-! ### Properties -/

/-- What may stand before a node: its name and its tag, spelled out. -/
structure Properties where
  name : Option String
  tag : Option String

namespace Properties

/-- No properties. -/
def absent : Properties := ⟨none, none⟩

/-- Is there no tag, or one that says nothing? -/
def isPlainTag (p : Properties) : Bool := p.tag.isNone || p.tag = some "!"

/-- Is there anything? -/
def isPresent (p : Properties) : Bool := p.name.isSome || p.tag.isSome

/-- The kind of a collection. -/
def kind (p : Properties) (usual : Kind) : Kind :=
  if p.isPlainTag then usual else Kind.ofTag (p.tag.getD "")

/-- The kind of a scalar. A tag that says nothing makes it a plain one. -/
def scalarKind (p : Properties) (content : String) (plain : Bool) : Kind :=
  if p.tag = some "!" || (p.tag.isNone && plain) then Kind.ofPlain content
  else p.kind .text

end Properties

/-- A tag spelled out, with what its handle stands for. -/
def spelledOut (t : Tag) : Composing String := do
  match t.handle with
  | none => pure t.suffix
  | some handle =>
    let r ← get
    match r.handles.lookup handle with
    | some stands => pure (stands ++ t.suffix)
    | none => fail

/-- Reads the name before a node, if there is one. -/
def anchor? : Composing (Option String) := do
  match ← peek with
  | some (.anchor name) =>
    advance
    pure (some name)
  | _ => pure none

/-- Reads the tag before a node, if there is one. -/
def tag? : Composing (Option Tag) := do
  match ← peek with
  | some (.tag t) =>
    advance
    pure (some t)
  | _ => pure none

/-- Reads the properties of a node, in either order. What the handle of the tag stands for is asked
when all of them are read. -/
def properties : Composing Properties := do
  let first ← anchor?
  let t ← tag?
  let name ← if first.isNone && t.isSome then anchor? else pure first
  let tag ←
    match t with
    | some t => some <$> spelledOut t
    | none => pure none
  pure ⟨name, tag⟩

/-! ### Nodes -/

/-- Where a node stands, which decides what it may be. -/
inductive Place
  /-- In a flow collection: no block collections. -/
  | flow
  /-- In a block. -/
  | block
  /-- In an entry of a block mapping, where a sequence need not be indented. -/
  | blockEntry
  deriving DecidableEq

/-- The node with a name. -/
def aliased (name : String) : Composing Nat := do
  let r ← get
  match r.named.lookup name with
  | some n => pure n
  | none => fail

/-- A scalar, which gets its name. -/
def scalarNode (p : Properties) (content : String) (plain : Bool) : Composing Nat := do
  checkNew p.name
  let n ← add ⟨p.scalarKind content plain, .scalar content⟩
  setName p.name n
  pure n

/-- A node that is left out. -/
def omittedNode : Composing Nat := add .omitted

/-- A collection, which gets its name before its parts are read. -/
def collection (p : Properties) (usual : Kind) (parts : Composing Shape) : Composing Nat := do
  checkNew p.name
  let n ← add ⟨p.kind usual, .sequence []⟩
  setName p.name n
  finish n (← parts)
  pure n

/-- A sequence made of its items. -/
def sequenceNode (p : Properties) (items : Composing (List Nat)) : Composing Nat :=
  collection p .sequence (.sequence <$> items)

/-- A mapping made of its entries. -/
def mappingNode (p : Properties) (entries : Composing (List (Nat × Nat))) : Composing Nat :=
  collection p .mapping (.mapping <$> entries)

mutual

/-- Reads a node. -/
def node (place : Place) : (fuel : Nat) → Composing Nat
  | 0 => fail
  | fuel + 1 => do
    match ← peek with
    | some (.alias name) =>
      advance
      aliased name
    | _ =>
      let p ← properties
      match ← peek with
      | some (.scalar content plain) =>
        advance
        scalarNode p content plain
      | some .flowSequenceStart =>
        advance
        sequenceNode p (flowItems true fuel)
      | some .flowMappingStart =>
        advance
        mappingNode p (flowEntries true fuel)
      | t =>
        if place != .flow && t = some .blockSequenceStart then
          advance
          sequenceNode p (blockItems fuel)
        else if place != .flow && t = some .blockMappingStart then
          advance
          mappingNode p (blockEntries fuel)
        else if place = .blockEntry && t = some .blockEntry then
          sequenceNode p (unindentedItems fuel)
        else if p.isPresent then scalarNode p "" true
        else fail
  termination_by structural fuel => fuel

/-- Reads a node that is left out if one of the tokens `ends` comes next. -/
def nodeUnless (ends : List Token) (place : Place) : (fuel : Nat) → Composing Nat
  | 0 => fail
  | fuel + 1 => do if ← nextIs ends then omittedNode else node place fuel
  termination_by structural fuel => fuel

/-- Reads the items of a block sequence, up to its end. -/
def blockItems : (fuel : Nat) → Composing (List Nat)
  | 0 => fail
  | fuel + 1 => do
    if ← taken .blockEntry then
      let item ← nodeUnless [.blockEntry, .blockEnd] .block fuel
      let items ← blockItems fuel
      pure (item :: items)
    else if ← taken .blockEnd then pure []
    else fail
  termination_by structural fuel => fuel

/-- Reads the items of a block sequence that is not indented; it ends where no dash comes. -/
def unindentedItems : (fuel : Nat) → Composing (List Nat)
  | 0 => fail
  | fuel + 1 => do
    if ← taken .blockEntry then
      let item ← nodeUnless [.blockEntry, .key, .value, .blockEnd] .block fuel
      let items ← unindentedItems fuel
      pure (item :: items)
    else pure []
  termination_by structural fuel => fuel

/-- Reads the entries of a block mapping, up to its end. -/
def blockEntries : (fuel : Nat) → Composing (List (Nat × Nat))
  | 0 => fail
  | fuel + 1 => do
    if ← taken .key then
      let key ← nodeUnless [.key, .value, .blockEnd] .blockEntry fuel
      let value ← valueAfter [.key, .value, .blockEnd] .blockEntry fuel
      let entries ← blockEntries fuel
      pure ((key, value) :: entries)
    else if ← taken .blockEnd then pure []
    else fail
  termination_by structural fuel => fuel

/-- Reads the value of an entry, which is left out if there is no colon. -/
def valueAfter (ends : List Token) (place : Place) : (fuel : Nat) → Composing Nat
  | 0 => fail
  | fuel + 1 => do
    if ← taken .value then nodeUnless ends place fuel else omittedNode
  termination_by structural fuel => fuel

/-- Reads the items of a flow sequence, up to its end. An item may be one entry of a mapping. -/
def flowItems (first : Bool) : (fuel : Nat) → Composing (List Nat)
  | 0 => fail
  | fuel + 1 => do
    if ← taken .flowSequenceEnd then pure []
    else
      let continued ← if first then pure true else taken .flowEntry
      if !continued then fail
      else if ← taken .flowSequenceEnd then pure []
      else
        let item ←
          if ← taken .key then
            mappingNode .absent do
              let key ← nodeUnless [.value, .flowEntry, .flowSequenceEnd] .flow fuel
              let value ← valueAfter [.flowEntry, .flowSequenceEnd] .flow fuel
              pure [(key, value)]
          else node .flow fuel
        let items ← flowItems false fuel
        pure (item :: items)
  termination_by structural fuel => fuel

/-- Reads the entries of a flow mapping, up to its end. -/
def flowEntries (first : Bool) : (fuel : Nat) → Composing (List (Nat × Nat))
  | 0 => fail
  | fuel + 1 => do
    if ← taken .flowMappingEnd then pure []
    else
      let continued ← if first then pure true else taken .flowEntry
      if !continued then fail
      else if ← taken .flowMappingEnd then pure []
      else
        let entry ←
          if ← taken .key then
            let key ← nodeUnless [.value, .flowEntry, .flowMappingEnd] .flow fuel
            let value ← valueAfter [.flowEntry, .flowMappingEnd] .flow fuel
            pure (key, value)
          else
            let key ← node .flow fuel
            let value ← omittedNode
            pure (key, value)
        let entries ← flowEntries false fuel
        pure (entry :: entries)
  termination_by structural fuel => fuel

end

/-! ### Documents -/

/-- What handles stand for unless a document says otherwise. -/
def standardHandles : List (String × String) := [("!", "!"), ("!!", standardTags)]

/-- Reads directives after those `seen`. There is one for the version, and one for each handle. -/
def directives (versioned : Bool) (handles : List (String × String)) :
    (fuel : Nat) → Composing (List (String × String))
  | 0 => pure handles
  | fuel + 1 => do
    match ← peek with
    | some (.directive d) =>
      advance
      match d with
      | .version major =>
        if versioned || major ≠ 1 then fail else directives true handles fuel
      | .handle name stands =>
        if (handles.lookup name).isSome then fail
        else directives versioned ((name, stands) :: handles) fuel
      | .other => directives versioned handles fuel
    | _ => pure handles

/-- Reads the directives of a document and the marker of its start. -/
def documentStart (fuel : Nat) : Composing Unit := do
  let handles ← directives false [] fuel
  if ← taken .documentStart then modify fun r => { r with handles := handles ++ standardHandles }
  else fail

/-- Reads the markers of the document's end, after which nothing may come. -/
def documentEnd : (fuel : Nat) → Composing Unit
  | 0 => fail
  | fuel + 1 => do
    if ← taken .documentEnd then documentEnd fuel
    else if (← peek).isNone then pure ()
    else
      let _ ← directives false [] fuel
      fail

/-- Reads the root of a document. -/
def root (fuel : Nat) : Composing Nat := do
  match ← peek with
  | some .documentStart | some (.directive _) =>
    documentStart fuel
    -- A document with nothing in it is an empty one.
    match ← peek with
    | none | some .documentStart | some .documentEnd | some (.directive _) => omittedNode
    | _ => node .block fuel
  | _ => node .block fuel

/-- The root of a document's tokens and all nodes, if there is a document. -/
def document (ts : List Token) : Except Fault (Option (Nat × Graph)) :=
  if ts = [] then .ok none
  else
    let fuel := 3 * (ts.length + 1)
    let read : Composing Nat := do
      let n ← root fuel
      documentEnd fuel
      pure n
    (read.run ⟨ts, standardHandles, [], .empty⟩).map fun (n, r) => some (n, r.graph)

end MemberEncoding.Yaml
