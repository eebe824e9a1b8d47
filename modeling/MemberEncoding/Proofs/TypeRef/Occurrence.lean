import MemberEncoding.TypeRef.Canonical

/-!
# MemberEncoding.Proofs.TypeRef.Occurrence

**The types inside a type**, at any depth, each with the place where it stands. What a canonical
type is made of keeps to the scope node by node (`Occurs.keepsTo`): names stand for what they are in
the scope, and wildcards stand nowhere but directly as type arguments.

The rules for one node look at the node, its place and its parts (`KeepsTo`). That they hold all the
way down is an induction on the way to the node, along which the type at hand stays canonical.
-/

namespace MemberEncoding.TypeRef

/-- Where a type stands. -/
inductive Place
  /-- By itself. -/
  | whole
  /-- Directly as a type argument. -/
  | argument
  /-- As the element of an array. -/
  | element
  /-- As the bound of a wildcard. -/
  | bound
  deriving DecidableEq

/-- The types that occur in a type, and where they stand. -/
inductive Occurs (t : TypeRef) : Place → TypeRef → Prop
  | whole : Occurs t .whole t
  | argument {place head args u} :
      Occurs t place (.parameterized head args) → u ∈ args.toList → Occurs t .argument u
  | element {place u} : Occurs t place (.array u) → Occurs t .element u
  | bound {place side u} : Occurs t place (.bounded side u) → Occurs t .bound u

/-- A node keeps to the scope at its place. Variables are in scope, declared types are not, and
neither has the name of a primitive type. A parameterized type has arguments. Wildcards are type
arguments, and neither elements of arrays nor bounds. -/
def KeepsTo (s : Scope) (place : Place) : TypeRef → Prop
  | .primitive _ => True
  | .reference r => r.name ∉ s ∧ Primitive.ofName? r.name = none
  | .parameterized head args =>
    head.name ∉ s ∧ Primitive.ofName? head.name = none ∧ args.toList ≠ []
  | .array element => element.isWildcard = false
  | .var n => n ∈ s ∧ Primitive.ofName? n = none
  | .wildcard => place = .argument
  | .bounded _ bound => place = .argument ∧ bound.isWildcard = false

variable {s : Scope}

/-- Does a place take wildcards? -/
def Place.takesWildcards (place : Place) : Bool := place = .argument

theorem isCanonical_of_mem {args : TypeArgs} {u : TypeRef} (h : areCanonical s args = true)
    (hu : u ∈ args.toList) : isCanonical s true u = true := by
  induction args using TypeArgs.rec (motive_1 := fun _ => True) with
  | one a =>
    rw [TypeArgs.toList, List.mem_singleton] at hu
    rw [areCanonical] at h
    rw [hu]
    exact h
  | cons a more _ ih =>
    rw [areCanonical, Bool.and_eq_true] at h
    rw [TypeArgs.toList, List.mem_cons] at hu
    rcases hu with rfl | hu
    · exact h.1
    · exact ih h.2 hu
  | _ => trivial

/-- What occurs in a canonical type is canonical where it stands. -/
theorem Occurs.isCanonical {t u : TypeRef} {place : Place} (h : Occurs t place u)
    (ht : Canonical s t) : TypeRef.isCanonical s place.takesWildcards u = true := by
  induction h with
  | whole => exact ht
  | argument _ hu ih =>
    simp only [TypeRef.isCanonical, Bool.and_eq_true] at ih
    exact isCanonical_of_mem ih.2 hu
  | element _ ih =>
    simp only [TypeRef.isCanonical] at ih
    exact ih
  | bound _ ih =>
    simp only [TypeRef.isCanonical, Bool.and_eq_true] at ih
    exact ih.2

theorem isWildcard_of_isCanonical {t : TypeRef} (h : isCanonical s false t = true) :
    t.isWildcard = false := by
  cases t with
  | wildcard => simp [isCanonical] at h
  | bounded side bound => simp [isCanonical] at h
  | _ => rfl

theorem ofName?_eq_none_of_isFreeName {n : String} (h : isFreeName n = true) :
    Primitive.ofName? n = none := by
  simp only [isFreeName, Bool.and_eq_true, Option.isNone_iff_eq_none] at h
  exact h.1.2

theorem keepsTo_of_isCanonical {place : Place} {t : TypeRef}
    (h : isCanonical s place.takesWildcards t = true) : KeepsTo s place t := by
  cases t with
  | primitive p => trivial
  | reference r =>
    simp only [isCanonical, Bool.and_eq_true, decide_eq_true_eq] at h
    exact ⟨h.2, ofName?_eq_none_of_isFreeName h.1⟩
  | parameterized head args =>
    simp only [isCanonical, Bool.and_eq_true, decide_eq_true_eq] at h
    exact ⟨h.1.2, ofName?_eq_none_of_isFreeName h.1.1, args.toList_ne_nil⟩
  | array element =>
    simp only [isCanonical] at h
    exact isWildcard_of_isCanonical h
  | var n =>
    simp only [isCanonical, Bool.and_eq_true, decide_eq_true_eq] at h
    exact ⟨h.2, ofName?_eq_none_of_isFreeName h.1⟩
  | wildcard =>
    simp only [isCanonical, Place.takesWildcards, decide_eq_true_eq] at h
    exact h
  | bounded side bound =>
    simp only [isCanonical, Bool.and_eq_true, Place.takesWildcards, decide_eq_true_eq] at h
    exact ⟨h.1, isWildcard_of_isCanonical h.2⟩

/-- What occurs in a canonical type keeps to the scope. -/
theorem Occurs.keepsTo {t u : TypeRef} {place : Place} (h : Occurs t place u)
    (ht : Canonical s t) : KeepsTo s place u :=
  keepsTo_of_isCanonical (h.isCanonical ht)

end MemberEncoding.TypeRef
