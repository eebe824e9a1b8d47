import MemberEncoding.Proofs.Descriptor.Record
import MemberEncoding.Proofs.Descriptor.Sheet
import MemberEncoding.Proofs.TypeRef.Occurrence

/-!
# MemberEncoding.Proofs.Descriptor.Scoping

**The types of a read element keep to its scope** (`read_keeps_to_scope`), which is the ambient
scope with the names of the element's own type parameters. The names come from the lines before any
of these is read, so a bound may refer to a type parameter that is declared after it.

All texts of types are read in the one scope, be it in a line of their own or as a part of a short
form, and reading gives canonical types. So nothing is left to show of the four kinds of text.
-/

namespace MemberEncoding

open TypeRef (Canonical Occurs KeepsTo)

/-- All types of an element that can be written down are canonical. -/
theorem Element.IsWritable.canonical_of_mem_types {e : Element} (h : e.IsWritable) :
    ∀ t ∈ e.types, Canonical e.scope t := by
  intro t ht
  simp only [Element.types, List.mem_append, List.mem_cons, List.mem_flatMap, List.mem_map] at ht
  rcases ht with ⟨p, hp, hb⟩ | rfl | ⟨p, hp, rfl⟩ | ht
  · exact h.bounds p hp t hb
  · exact h.type
  · exact h.params p hp
  · exact h.thrown t ht

namespace Descriptor

variable {ambient : Scope} {d : Descriptor} {e : Element}

/-- **Everything in the types of a read element keeps to its scope,** and the bounds of its type
parameters are declared by name. -/
theorem read_keeps_to_scope (h : (read ambient d).outcome = .ok e) :
    let s := ambient.widenAll (e.typeParams.map TypeParameter.name)
    (∀ t ∈ e.types, ∀ place u, Occurs t place u → KeepsTo s place u) ∧
    ∀ p ∈ e.typeParams, ∀ b ∈ p.bounds,
      (∃ r, b = .reference r) ∨ ∃ head args, b = .parameterized head args := by
  intro s
  have hdescribes := outcome_read_eq_ok_iff.mp h
  have hscope : e.scope = s := by rw [Element.scope, hdescribes.ambient]
  constructor
  · intro t ht place u hoccurs
    have hcanonical := hdescribes.isWritable.canonical_of_mem_types t ht
    rw [hscope] at hcanonical
    exact hoccurs.keepsTo hcanonical
  · intro p _ b hb
    exact TypeRef.isNominal_iff.mp (p.nominal b hb)

/-- A type parameter that hides an ambient variable and is bounded by one declared after it, and a
wildcard that is bounded by the ambient variable that is left. -/
theorem read_keeps_to_scope_put :
    let ambient : Scope := ⟨["T", "K"], by decide⟩
    let d : Descriptor :=
      [(.text "name", .text "put"), (.text "type", .text "Map<T, ? super K[]>"),
       (.text "type_params", .texts ["T: Box<U>", "U"])]
    let s : Scope := ⟨["T", "K", "U"], by decide⟩
    let bound : TypeRef := .parameterized ⟨"Box"⟩ (.one (.var "U"))
    let type : TypeRef := .parameterized ⟨"Map"⟩
      (.cons (.var "T") (.one (.bounded .lower (.array (.var "K")))))
    ∃ e, (read ambient d).outcome = .ok e ∧ e.types = [bound, type] ∧
      ∀ t ∈ [bound, type], ∀ place u, Occurs t place u → KeepsTo s place u := by
  intro ambient d s bound type
  let first : TypeParameter := ⟨"T", [bound], by decide, by simp [bound, TypeRef.isNominal]⟩
  let second : TypeParameter := ⟨"U", [], by decide, by simp⟩
  let e : Element := ⟨⟨"put", type, .identity, [], [], [], .empty, ambient, [first, second]⟩,
    by decide, by decide, by decide⟩
  have hbounds : Text.cutAll '&' "Box<U>" = ["Box<U>"] := by decide +kernel
  have hdescribes : Describes ambient d e := {
    keys := by decide +kernel
    name := rfl
    ambient := rfl
    distinct := by decide
    typeParams := by
      refine ⟨["T: Box<U>", "U"], .list _, .cons ?_ (.cons ?_ .nil)⟩
      · refine TypeParameter.outcome_read_eq_ok_iff.mpr (.inr ⟨"Box<U>", by decide +kernel, ?_⟩)
        rw [hbounds]
        exact .cons (TypeRef.read_of_lex (by decide +kernel) (by decide +kernel)) .nil
      · exact TypeParameter.outcome_read_eq_ok_iff.mpr (.inl (by decide +kernel))
    type := ⟨_, "Map<T, ? super K[]>", rfl, rfl,
      TypeRef.read_of_lex (by decide +kernel) (by decide +kernel)⟩
    naming := ⟨"*", .absent, by decide +kernel⟩
    params := ⟨[], .absent, .nil⟩
    code := ⟨"", .absent, Body.termsOf_nil⟩
    thrown := ⟨[], .absent, .nil⟩
    tags := ⟨[], .absent, rfl⟩ }
  have hread := outcome_read_eq_ok_iff.mpr hdescribes
  exact ⟨e, hread, rfl, (read_keeps_to_scope hread).1⟩

end Descriptor

end MemberEncoding
