import MemberEncoding.Yaml.Datum

/-!
# MemberEncoding.Yaml.Key

**The keys of mappings.** A mapping has each key once: of several entries with one key the last one
counts, in the place of the first (`setEntry`, `map_fst_setEntry`).

Keys are the same if their data are. Not-a-number is not equal to itself, so as a key it goes by
where it comes from. The word for it always means the one not-a-number that there is from the
start; wherever else a node gives one, that is another key, and the same key again only where the
node stands again.
-/

namespace MemberEncoding.Yaml

/-- A key of a mapping. -/
structure Key where
  datum : Scalar
  /-- The node that gave a not-a-number of its own. -/
  source : Option Nat

namespace Key

/-- The key that a node with this content and datum is. -/
def ofNode (n : Nat) (content : String) (datum : Scalar) : Key :=
  ⟨datum, if datum.isNaN && !isNanWord content then some n else none⟩

/-- Are two keys the same? -/
def same (a b : Key) : Bool := a.source == b.source && a.datum.sameKey b.datum

end Key

/-- Sets an entry: in place if the key is there already, else at the end. -/
def setEntry {α : Type} (entries : List (Key × α)) (key : Key) (value : α) : List (Key × α) :=
  if entries.any fun e => e.1.same key then
    entries.map fun e => if e.1.same key then (e.1, value) else e
  else entries ++ [(key, value)]

/-- Keys keep their places, and a new one comes last. -/
theorem map_fst_setEntry {α : Type} (entries : List (Key × α)) (key : Key) (value : α) :
    (setEntry entries key value).map (·.1) =
      entries.map (·.1) ++ if entries.any fun e => e.1.same key then [] else [key] := by
  unfold setEntry
  split
  · simp only [List.map_map, List.append_nil]
    refine List.map_congr_left fun e _ => ?_
    simp only [Function.comp_apply]
    split <;> rfl
  · simp

end MemberEncoding.Yaml
