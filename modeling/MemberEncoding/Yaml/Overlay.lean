import MemberEncoding.Yaml.Node

/-!
# MemberEncoding.Yaml.Overlay

**Entries taken over.** A mapping can have merge keys, whose values are other mappings or lists of
them. Before it is looked into, the entries of these come in place of the merge keys (`overlay`):
they stand before the mapping's own, so that its own count where keys are the same, and of a list
the first mapping stands last. Mappings that are taken over from are overlaid themselves before,
and stay so.

A mapping can be taken over by a part of itself. A merge key is gone once its turn comes, so of a
mapping that is being overlaid such a part takes over what it has then.
-/

namespace MemberEncoding.Yaml.Graph

/-- The value of the first merge key of a mapping, and the other entries. -/
def merge? (g : Graph) (n : Nat) : Option (Nat × List (Nat × Nat)) :=
  let isMerge (e : Nat × Nat) : Bool := (g.node e.1).kind = .merge
  ((g.entries n).find? isMerge).map fun e => (e.2, (g.entries n).eraseP isMerge)

/-- Makes the keys of defaults in a mapping ordinary ones. -/
def ordinaryKeys (g : Graph) (n : Nat) : Graph :=
  (g.entries n).foldl
    (fun g e => if (g.node e.1).kind = .default then g.setKind e.1 .text else g) g

/-- Puts entries before those of a mapping. -/
def putBefore (g : Graph) (n : Nat) (others : List (Nat × Nat)) : Graph :=
  if others = [] then g else g.setShape n (.mapping (others ++ g.entries n))

/-- Lets a mapping take over the entries that its merge keys ask for, unless they ask for something
else than mappings. The number of merge keys in the graph is enough fuel. -/
def overlay (n : Nat) : (fuel : Nat) → Graph → Option Graph
  | 0, _ => none
  | fuel + 1, g =>
    match g.merge? n with
    | none => some (g.ordinaryKeys n)
    | some (source, own) => do
      let entriesOf (g : Graph) (m : Nat) : Option (List (Nat × Nat) × Graph) :=
        match (g.node m).shape with
        | .mapping _ => (overlay m fuel g).map fun g => (g.entries m, g)
        | _ => none
      let g := g.setShape n (.mapping own)
      let (others, g) ←
        match (g.node source).shape with
        | .sequence items =>
          items.foldlM (fun (others, g) m => do
            let (more, g) ← entriesOf g m
            some (more ++ others, g)) ([], g)
        | _ => entriesOf g source
      let g ← overlay n fuel g
      some (g.putBefore n others)

/-- How many entries there are in all mappings. -/
def entryCount (g : Graph) : Nat :=
  g.nodes.foldl (fun count node =>
    match node.shape with
    | .mapping entries => count + entries.length
    | _ => count) 0

end MemberEncoding.Yaml.Graph
