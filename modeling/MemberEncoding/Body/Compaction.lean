import MemberEncoding.Body.OneLine

/-!
# MemberEncoding.Body.Compaction

**Compactions** of a body, described by what they keep: the terms that are not blank, and between
which of them blanks stand. A compaction has no blank term at its ends, no two of them in a row, and
none but the single space.
-/

namespace MemberEncoding.Body

/-- The terms that are not blank, each with whether a blank stands right before it; `gap` tells it
for the first term. -/
def spaced (gap : Bool) : List Term → List (Bool × Term)
  | [] => []
  | t :: ts => if t.isBlank then spaced true ts else (gap, t) :: spaced false ts

/-- For each term that is not blank, but for the first: do blanks stand between it and the one
before it? -/
def gaps (ts : List Term) : List Bool :=
  ((spaced false ts).map (·.1)).tail

/-- `short` is a compaction of `ts`. -/
structure IsCompaction (ts short : List Term) : Prop where
  /-- The terms that are not blank are the same. -/
  solid_eq : solid short = solid ts
  /-- Blanks stand between the same of them. -/
  gaps_eq : gaps short = gaps ts
  /-- Every blank is a single space. -/
  blank_eq_space : ∀ t ∈ short, t.isBlank = true → t = .space
  /-- It does not start with a blank. -/
  head_solid : ∀ t ∈ short.head?, t.isBlank = false
  /-- It does not end with a blank. -/
  last_solid : ∀ t ∈ short.getLast?, t.isBlank = false
  /-- No blank follows another. -/
  no_two_blank : ∀ before t u after, short = before ++ t :: u :: after →
    t.isBlank = false ∨ u.isBlank = false

theorem spaced_map_snd (gap : Bool) (ts : List Term) : (spaced gap ts).map (·.2) = solid ts := by
  induction ts generalizing gap with
  | nil => rfl
  | cons t ts ih => cases h : t.isBlank <;> simp_all [spaced, solid]

end MemberEncoding.Body
