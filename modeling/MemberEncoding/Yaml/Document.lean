import MemberEncoding.Yaml.Key
import MemberEncoding.Yaml.Overlay

/-!
# MemberEncoding.Yaml.Document

**The data of a document.** A scalar stands for what its kind says, a sequence for a list, and a
mapping for its entries, whose keys are scalars (`Key`). A text without a document stands for
nothing.

Data are made level by level, from the root on (`Making.makeLevels`), so of several faults in a
document the one that is nested least counts, and of these the first. Each collection is made once,
however often it stands in the document, so what is made is a graph again (`Collection`).

The value of the document is the tree that unfolds from it (`unfolded`). A collection inside of
itself is put in its place as deep as a document is looked into, which is up to `writtenLevel`;
further down data are only written out, and what is being written is not written again.
-/

namespace MemberEncoding.Yaml

/-! ### Making data -/

/-- A part of a collection: a scalar, or a collection by its number. -/
inductive Part
  | scalar (s : Scalar)
  | collection (n : Nat)

/-- A collection of parts. -/
inductive Collection
  | list (items : List Part)
  | map (entries : List (Scalar × Part))
  | pairs (items : List (Part × Part))
  | set (members : List Scalar)

/-- How far the data of a document are made. -/
structure Progress where
  graph : Graph
  /-- The scalars that were made, by the numbers of their nodes. -/
  scalars : Array (Option Key)
  /-- The collections that were found, by their numbers. They are empty until they are made. -/
  made : Array (Option Collection)
  /-- The collections found on the next level, the last first. -/
  next : List Nat
  /-- Merge keys are no more than this. -/
  bound : Nat

/-- Makes a part of the data. -/
abbrev Making (α : Type) : Type := StateT Progress (Except Fault) α

/-- Does a kind ask for parts? -/
def Kind.hasParts (kind : Kind) : Bool := [sequence, mapping, pairs, set].contains kind

/-- The content of a node as a scalar: a mapping stands for the value of its first default. A way
that is longer than the number of nodes has no end. -/
def Graph.contentFrom (g : Graph) (n : Nat) : (fuel : Nat) → Except Fault String
  | 0 => .error .endless
  | fuel + 1 =>
    match (g.node n).shape with
    | .scalar content => .ok content
    | .sequence _ => .error .malformed
    | .mapping entries =>
      match entries.find? fun e => (g.node e.1).kind = .default with
      | some (_, value) => g.contentFrom value fuel
      | none => .error .malformed

/-- The content of a node as a scalar. -/
def Graph.content (g : Graph) (n : Nat) : Except Fault String := g.contentFrom n (g.nodes.size + 1)

/-- The datum of a node that has to be a scalar. A moment cannot be the default of a mapping. -/
def Graph.scalar (g : Graph) (n : Nat) : Except Fault Key :=
  let node := g.node n
  if !node.kind.isScalar then .error .malformed
  else do
    let content ← g.content n
    match node.shape, node.kind with
    | .mapping _, .timestamp => .error .momentInParts
    | _, kind => .ofNode n content <$> scalarDatum kind content

namespace Making

/-- What is no document. -/
def fail {α : Type} : Making α := fun _ => .error .malformed

/-- A node of the document. -/
def node (n : Nat) : Making Node := fun p => .ok (p.graph.node n, p)

/-- The datum of a node that has to be a scalar. What was made stays as it is, also if the entries
of the node have changed since then. -/
def scalar (n : Nat) : Making Key := fun p =>
  match p.scalars.getD n none with
  | some key => .ok (key, p)
  | none =>
    (p.graph.scalar n).map fun key =>
      (key, { p with scalars := p.scalars.setIfInBounds n (some key) })

/-- The datum of a node with parts, which are made on the next level. -/
def found (n : Nat) : Making Part := fun p =>
  if (p.made.getD n none).isSome then .ok (.collection n, p)
  else
    .ok (.collection n,
      { p with made := p.made.setIfInBounds n (some (.list [])), next := n :: p.next })

/-- The datum of a node. -/
def part (n : Nat) : Making Part := do
  if (← node n).kind.hasParts then found n
  else
    let key ← scalar n
    pure (.scalar key.datum)

/-- The key that a node is, which has to be a scalar. -/
def key (n : Nat) : Making Key := do if (← node n).kind.hasParts then fail else scalar n

/-- Lets a mapping take over entries. -/
def overlay (n : Nat) : Making Unit := fun p =>
  match p.graph.overlay n (p.bound + 1) with
  | some g => .ok ((), { p with graph := g })
  | none => .error .malformed

/-- The entries of a mapping with those it takes over, each key once. -/
def entries (n : Nat) : Making (List (Scalar × Part)) := do
  overlay n
  let es ← (← get).graph.entries n |>.mapM fun e => do
    let k ← key e.1
    let v ← part e.2
    pure (k, v)
  let distinct := es.foldl (fun seen e => setEntry seen e.1 e.2) []
  pure (distinct.map fun e => (e.1.datum, e.2))

/-- The pair that a mapping with one entry stands for. -/
def pair (n : Nat) : Making (Part × Part) := do
  match (← node n).shape with
  | .mapping [(k, v)] =>
    let first ← part k
    let second ← part v
    pure (first, second)
  | _ => fail

/-- What a node with parts holds. -/
def collection (n : Nat) : Making Collection := do
  let node ← node n
  match node.kind, node.shape with
  | .sequence, .sequence items => .list <$> items.mapM part
  | .pairs, .sequence items => .pairs <$> items.mapM pair
  | .mapping, .mapping _ => .map <$> entries n
  | .set, .mapping _ => (fun es => .set (es.map (·.1))) <$> entries n
  | _, _ => fail

/-- Makes a collection that was found. -/
def make (n : Nat) : Making Unit := do
  let c ← collection n
  modify fun p => { p with made := p.made.setIfInBounds n (some c) }

/-- Makes the collections that were found, and those on the levels below. -/
def makeLevels : (fuel : Nat) → Making Unit
  | 0 => pure ()
  | fuel + 1 => do
    let level ← modifyGet fun p => (p.next.reverse, { p with next := [] })
    if level = [] then pure ()
    else
      level.forM make
      makeLevels fuel

end Making

/-! ### Trees of data -/

/-- The value of a part, where collections have values as given. -/
def Part.value? (of : Nat → Option Value) : Part → Option Value
  | scalar s => some (.scalar s)
  | collection n => of n

/-- The value of a collection, where collections inside have values as given. -/
def Collection.value? (of : Nat → Option Value) : Collection → Option Value
  | list items => .list <$> items.mapM (Part.value? of)
  | map entries => .map <$> entries.mapM fun (k, p) => (k, ·) <$> p.value? of
  | pairs items =>
    .list <$> items.mapM fun (a, b) => do
      let first ← a.value? of
      let second ← b.value? of
      some (.pair first second)
  | set members => some (.set members)

/-- Is the collection a mapping? -/
def Collection.isMap : Collection → Bool
  | map _ => true
  | _ => false

/-- The values of the collections that have nothing in them that is inside of itself. Among the
collections that `ended`, in their order, each of these comes after its parts. -/
def plainValues (made : Array (Option Collection)) (ended : List Nat) : Array (Option Value) :=
  ended.foldl
    (fun values n =>
      let value := (made.getD n none).bind (Collection.value? fun m => values.getD m none)
      values.setIfInBounds n value)
    (Array.replicate made.size none)

/-- The level from which on data is only written out: that of the values in the elements' entries,
where the root of a document has level zero. -/
def writtenLevel : Nat := 3

/-- The value of a collection on a level, inside of those `around` it that are written out. No way
down is longer than the levels above these and the number of collections. -/
def unfolded (made : Array (Option Collection)) (plain : Array (Option Value)) (level : Nat)
    (around : List Nat) (n : Nat) : (fuel : Nat) → Option Value
  | 0 => none
  | fuel + 1 =>
    match plain.getD n none, made.getD n none with
    | some v, _ => some v
    | none, some c =>
      if around.contains n then some (.again c.isMap)
      else
        let around := if level < writtenLevel then around else n :: around
        c.value? fun m => unfolded made plain (level + 1) around m fuel
    | none, none => none

/-- The data of a document, or what is wrong with it. -/
def read (source : Source) : Except Fault Value := do
  match ← document (tokens source) with
  | some (root, g) =>
    let size := g.nodes.size
    let making : Making Part := do
      let part ← Making.part root
      Making.makeLevels (size + 1)
      pure part
    let nothing {α : Type} : Array (Option α) := Array.replicate size none
    let (part, p) ← making.run ⟨g, nothing, nothing, [], g.entryCount⟩
    let plain := plainValues p.made g.ended.reverse
    let value := part.value? fun n => unfolded p.made plain 0 [] n (size + writtenLevel + 1)
    .ok (value.getD .null)
  | none => .ok .null

end MemberEncoding.Yaml
