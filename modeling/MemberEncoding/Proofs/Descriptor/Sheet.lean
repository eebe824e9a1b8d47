import MemberEncoding.Proofs.Descriptor.Description

/-!
# MemberEncoding.Proofs.Descriptor.Sheet

**The sheet of an element is a canonical form** (`read_entries_normalizes`). Reading a descriptor
gives an element whose every part is read again from its own text (`Element.IsWritable`), and the
sheet of such an element describes it (`Element.IsWritable.describes`).

The scope does not get in the way: an element's types are canonical over the scope that the element
gives itself, and this is the scope in which its sheet is read.
-/

namespace MemberEncoding

open TypeRef (Canonical)

/-- Every part of the element is read from its text, in the scope that the element gives. -/
structure Element.IsWritable (e : Element) : Prop where
  /-- No type parameter is declared twice. -/
  distinct : (e.typeParams.map TypeParameter.name).Nodup
  /-- The bounds of type parameters can be written down. -/
  bounds : ∀ p ∈ e.typeParams, ∀ b ∈ p.bounds, Canonical e.scope b
  /-- The type can be written down. -/
  type : Canonical e.scope e.type
  /-- The naming can be written down. -/
  naming : e.naming.IsWritable
  /-- The types of the parameters can be written down. -/
  params : ∀ p ∈ e.params, Canonical e.scope p.type
  /-- The code is cut into terms as its text is. -/
  code : Body.terms (Body.join e.code) = e.code
  /-- The types that are thrown can be written down. -/
  thrown : ∀ t ∈ e.thrown, Canonical e.scope t

/-! ### The entries of a sheet -/

/-- What a sheet holds under a key. -/
def Sheet.datum (s : Sheet) : Descriptor.Key → Value
  | .code => .text s.code
  | .name => .text s.name
  | .naming => .text s.naming
  | .params => .texts s.params
  | .tags => .texts s.tags
  | .thrown => .texts s.thrown
  | .type => .text s.type
  | .typeParams => .texts s.typeParams

theorem Sheet.field?_entries (s : Sheet) (k : Descriptor.Key) :
    Descriptor.field? s.entries k = some (s.datum k) := by
  cases k <;> rfl

theorem Sheet.isKnown_of_mem_entries (s : Sheet) :
    ∀ entry ∈ s.entries, Descriptor.isKnown entry.1 = true := by
  intro entry hentry
  simp only [Sheet.entries, List.mem_cons, List.not_mem_nil, or_false] at hentry
  rcases hentry with rfl | rfl | rfl | rfl | rfl | rfl | rfl | rfl <;> rfl

namespace Descriptor

variable {ambient : Scope} {d : Descriptor} {e : Element}

/-- An element that is described can be written down. -/
theorem Describes.isWritable (h : Describes ambient d e) : e.IsWritable where
  distinct := h.distinct
  bounds := by
    obtain ⟨lines, -, hlines⟩ := h.typeParams
    exact forall_of_forall₂ hlines fun _ _ hread => TypeParameter.canonical_of_read hread
  type := by
    obtain ⟨_, _, -, -, hread⟩ := h.type
    exact (TypeRef.canonical_of_read hread).1
  naming := by
    obtain ⟨_, -, hread⟩ := h.naming
    exact Naming.isWritable_of_ofText hread
  params := by
    obtain ⟨lines, -, hlines⟩ := h.params
    exact forall_of_forall₂ hlines fun _ _ hread => Parameter.canonical_of_read hread
  code := by
    obtain ⟨_, -, hterms⟩ := h.code
    rw [← hterms, Body.join_terms]
  thrown := by
    obtain ⟨texts, -, htexts⟩ := h.thrown
    exact forall_of_forall₂ htexts fun _ _ hread => (TypeRef.canonical_of_read hread).1

end Descriptor

/-- The sheet of an element that can be written down describes the element. -/
theorem Element.IsWritable.describes {e : Element} (h : e.IsWritable) :
    Descriptor.Describes e.ambient e.sheet.entries e where
  keys := e.sheet.isKnown_of_mem_entries
  name := e.sheet.field?_entries .name
  ambient := rfl
  distinct := h.distinct
  typeParams := by
    refine ⟨e.typeParams.map TypeParameter.text, ?_, ?_⟩
    · rw [e.sheet.field?_entries]
      exact .list _
    · exact forall₂_map_self_iff.mpr fun p hp => TypeParameter.read_text (h.bounds p hp)
  type := ⟨_, e.type.text, e.sheet.field?_entries .type, rfl, TypeRef.read_text h.type⟩
  naming := by
    refine ⟨e.naming.text, ?_, Naming.ofText_text h.naming⟩
    rw [e.sheet.field?_entries]
    exact Descriptor.gives_text fun hempty => absurd hempty e.naming.text_ne_empty
  params := by
    refine ⟨e.params.map Parameter.text, ?_, ?_⟩
    · rw [e.sheet.field?_entries]
      exact .list _
    · rw [Parameter.solidLines_map_text h.params]
      exact forall₂_map_self_iff.mpr fun p hp => Parameter.read_text (h.params p hp)
  code := by
    refine ⟨Body.join e.code, ?_, h.code⟩
    rw [e.sheet.field?_entries]
    exact Descriptor.gives_text fun _ => rfl
  thrown := by
    refine ⟨e.thrown.map TypeRef.text, ?_, ?_⟩
    · rw [e.sheet.field?_entries]
      exact .list _
    · exact forall₂_map_self_iff.mpr fun t ht => TypeRef.read_text (h.thrown t ht)
  tags := by
    refine ⟨e.tags.names, ?_, TagSet.ofTexts_names e.tags⟩
    rw [e.sheet.field?_entries]
    exact .list _

namespace Descriptor

/-- **Writing down what was read is a normal form.** An element that is read is read again from its
sheet, and elements read in one scope are equal just when their sheets are. -/
theorem read_entries_normalizes (ambient : Scope) :
    (∀ d e, (read ambient d).outcome = .ok e →
      (read ambient e.sheet.entries).outcome = .ok e) ∧
    ∀ d₁ d₂ e₁ e₂, (read ambient d₁).outcome = .ok e₁ → (read ambient d₂).outcome = .ok e₂ →
      (e₁ = e₂ ↔ e₁.sheet.entries = e₂.sheet.entries) := by
  have hagain : ∀ d e, (read ambient d).outcome = .ok e →
      (read ambient e.sheet.entries).outcome = .ok e := by
    intro d e h
    -- The sheet describes the element in its own ambient scope, which is the one given.
    have hdescribes := outcome_read_eq_ok_iff.mp h
    have hsheet := hdescribes.isWritable.describes
    rw [hdescribes.ambient] at hsheet
    exact outcome_read_eq_ok_iff.mpr hsheet
  refine ⟨hagain, fun d₁ d₂ e₁ e₂ h₁ h₂ => ⟨fun h => by rw [h], fun h => ?_⟩⟩
  -- Both are read from the same sheet.
  have h₁' := hagain d₁ e₁ h₁
  have h₂' := hagain d₂ e₂ h₂
  rw [h, h₂'] at h₁'
  exact (Except.ok.inj h₁').symm

/-- A descriptor in loose form, whose type parameter has the name of an ambient variable, and the
sheet of what it describes. -/
theorem read_pick_two_ways :
    let ambient : Scope := ⟨["T"], by decide⟩
    let loose : Descriptor :=
      [(.text "name", .text "pick"), (.text "type", .text " T [ ]"), (.text "thrown", .null),
       (.text "type_params", .text " T : A . B"), (.text "tags", .text " copy"),
       (.text "params", .texts ["a:T", " "])]
    let tidy : Sheet := ⟨"pick", "T[]", "*", ["a: T"], "", [], ["COPY"], ["T: A.B"]⟩
    ∃ e : Element, e.sheet = tidy ∧ (read ambient loose).outcome = .ok e ∧
      (read ambient tidy.entries).outcome = .ok e := by
  intro ambient loose tidy
  let own : TypeParameter := ⟨"T", [.reference ⟨"A.B"⟩], by decide, by simp [TypeRef.isNominal]⟩
  let e : Element := ⟨⟨"pick", .array (.var "T"), .identity, [⟨"a", .var "T", by decide⟩], [], [],
    .ofList [.copy], ambient, [own]⟩, by decide, by decide, by decide⟩
  have hbounds : Text.cutAll '&' "A . B" = ["A . B"] := by decide +kernel
  have hsolid : Parameter.solidLines ["a:T", " "] = ["a:T"] := by decide +kernel
  have hdescribes : Describes ambient loose e := {
    keys := by decide +kernel
    name := rfl
    ambient := rfl
    distinct := by decide
    typeParams := by
      refine ⟨[" T : A . B"], .one _, .cons ?_ .nil⟩
      refine TypeParameter.outcome_read_eq_ok_iff.mpr (.inr ⟨"A . B", by decide +kernel, ?_⟩)
      rw [hbounds]
      exact .cons (TypeRef.read_of_lex (by decide +kernel) (by decide +kernel)) .nil
    type :=
      ⟨_, " T [ ]", rfl, rfl, TypeRef.read_of_lex (by decide +kernel) (by decide +kernel)⟩
    naming := ⟨"*", .absent, by decide +kernel⟩
    params := by
      refine ⟨["a:T", " "], .list _, ?_⟩
      rw [hsolid]
      refine .cons (Parameter.outcome_read_eq_ok_iff.mpr ⟨"T", by decide +kernel, ?_⟩) .nil
      exact TypeRef.read_of_lex (by decide +kernel) (by decide +kernel)
    code := ⟨"", .absent, Body.termsOf_nil⟩
    thrown := ⟨[], .null, .nil⟩
    tags := ⟨[" copy"], .one _, by decide +kernel⟩ }
  have hsheet : e.sheet = tidy := by decide +kernel
  have hloose := outcome_read_eq_ok_iff.mpr hdescribes
  have htidy := (read_entries_normalizes ambient).1 loose e hloose
  rw [hsheet] at htidy
  exact ⟨e, hsheet, hloose, htidy⟩

end Descriptor

end MemberEncoding
