import MemberEncoding.Proofs.Descriptor.Acceptance
import MemberEncoding.Proofs.TypeRef.Standing

/-!
# MemberEncoding.Proofs.Descriptor.Declared

**What a declared type parameter can be used for** (`read_declared_usable`). With its name for the
type a descriptor is read again, and the type is the type variable, exactly if the name is no
keyword. Such a name stands for the type variable wherever it stands by itself in a text of a type.

Identifiers are all that is asked of the names of type parameters, so they may be keywords. Then the
reader of types knows them as such: a primitive type hides the type parameter with its name, and a
keyword of wildcards is no type at all.

The texts of types are the same in number and order as the types of the element, each of them in one
of four places (`TypeSlot`), and they are all read in the scope of the element. The type may be
exchanged for another, because no other part of a descriptor depends on it.
-/

namespace MemberEncoding

open TypeRef (StandsIn isTypeName named outcome_read_name_iff standsIn_iff_of_read)

/-! ### Places of types -/

/-- A place for a type in a descriptor, and in the element that it describes. -/
inductive TypeSlot
  /-- The type of the element. -/
  | type
  /-- The type of a parameter. -/
  | param (i : Nat)
  /-- A type that is thrown. -/
  | thrown (i : Nat)
  /-- A bound of a type parameter. -/
  | bound (i j : Nat)

/-- The type at a place in an element. -/
def Element.typeAt? (e : Element) : TypeSlot → Option TypeRef
  | .type => some e.type
  | .param i => (e.params[i]?).map Parameter.type
  | .thrown i => e.thrown[i]?
  | .bound i j => (e.typeParams[i]?).bind fun p => p.bounds[j]?

namespace Descriptor

/-- The text of a type at a place in a descriptor. Blank lines of parameters do not count. -/
def textAt? (d : Descriptor) : TypeSlot → Option String
  | .type => (d.field? .type).bind Value.toText?
  | .param i =>
    ((Parameter.solidLines (d.textsAt .params))[i]?).bind fun line => (Text.cutFirst ':' line).2
  | .thrown i => (d.textsAt .thrown)[i]?
  | .bound i j =>
    ((d.textsAt .typeParams)[i]?).bind fun line =>
      (Text.cutFirst ':' line).2.bind fun bounds => (Text.cutAll '&' bounds)[j]?

variable {ambient : Scope} {d d' : Descriptor} {e e' : Element} {t : TypeRef} {n text : String}

/-- Each text of a type in a descriptor is read as the type at its place. -/
theorem Describes.typeAt (h : Describes ambient d e) {slot : TypeSlot}
    (htext : d.textAt? slot = some text) :
    ∃ t, e.typeAt? slot = some t ∧ (TypeRef.read e.scope text).outcome = .ok t := by
  cases slot with
  | type =>
    obtain ⟨v, text', hv, hv', hread⟩ := h.type
    rw [textAt?, hv, Option.bind_some, hv'] at htext
    cases htext
    exact ⟨e.type, rfl, hread⟩
  | param i =>
    obtain ⟨lines, hlines, hread⟩ := h.params
    rw [textAt?, hlines.textsAt_eq] at htext
    obtain ⟨line, hline, hcut⟩ := Option.bind_eq_some_iff.mp htext
    obtain ⟨p, hp, hpread⟩ := exists_getElem?_of_forall₂ hread hline
    obtain ⟨text', hcut', htype⟩ := Parameter.outcome_read_eq_ok_iff.mp hpread
    rw [hcut'] at hcut
    cases hcut
    exact ⟨p.type, by rw [Element.typeAt?, hp, Option.map_some], htype⟩
  | thrown i =>
    obtain ⟨texts, htexts, hread⟩ := h.thrown
    rw [textAt?, htexts.textsAt_eq] at htext
    exact exists_getElem?_of_forall₂ hread htext
  | bound i j =>
    obtain ⟨lines, hlines, hread⟩ := h.typeParams
    rw [textAt?, hlines.textsAt_eq] at htext
    obtain ⟨line, hline, hbounds⟩ := Option.bind_eq_some_iff.mp htext
    obtain ⟨p, hp, hpread⟩ := exists_getElem?_of_forall₂ hread hline
    rcases TypeParameter.outcome_read_eq_ok_iff.mp hpread with ⟨hcut, -⟩ | ⟨bounds, hcut, hread⟩
    · rw [hcut] at hbounds
      cases hbounds
    · rw [hcut] at hbounds
      obtain ⟨b, hb, hbread⟩ := exists_getElem?_of_forall₂ hread hbounds
      exact ⟨b, by rw [Element.typeAt?, hp, Option.bind_some, hb], hbread⟩

/-! ### Another type -/

/-- The descriptor with another text for its type. -/
def withType (text : String) (d : Descriptor) : Descriptor := d.mapField .type fun _ => .text text

theorem field?_withType_of_ne {k : Key} (hk : k ≠ .type) :
    (d.withType text).field? k = d.field? k := by
  rw [withType, field?_mapField, if_neg hk]

theorem scope_withType (ambient : Scope) : scope ambient (d.withType text) = scope ambient d := by
  rw [scope, declared, textsAt, field?_withType_of_ne (by decide)]
  rfl

/-- What differs in the type alone describes what differs in the type alone. -/
theorem Describes.of_type (h : Describes ambient d e) (hkeys : d'.map (·.1) = d.map (·.1))
    (hsame : ∀ k, k ≠ .type → d'.field? k = d.field? k)
    (htype : ∃ v text, d'.field? .type = some v ∧ v.toText? = some text ∧
      (TypeRef.read e.scope text).outcome = .ok t) :
    Describes ambient d' { e with type := t } where
  keys := forall_isKnown_of_map_fst_eq hkeys h.keys
  name := by
    rw [hsame _ (by decide)]
    exact h.name
  ambient := h.ambient
  distinct := h.distinct
  typeParams := by
    rw [hsame _ (by decide)]
    exact h.typeParams
  type := htype
  naming := by
    rw [hsame _ (by decide)]
    exact h.naming
  params := by
    rw [hsame _ (by decide)]
    exact h.params
  code := by
    rw [hsame _ (by decide)]
    exact h.code
  thrown := by
    rw [hsame _ (by decide)]
    exact h.thrown
  tags := by
    rw [hsame _ (by decide)]
    exact h.tags

/-- With another text for its type a descriptor is read if the text is, and the element has the
other type. -/
theorem outcome_read_withType_iff (h : (read ambient d).outcome = .ok e) :
    (read ambient (d.withType text)).outcome = .ok e' ↔
      ∃ t, (TypeRef.read e.scope text).outcome = .ok t ∧ e' = { e with type := t } := by
  have hdescribes := outcome_read_eq_ok_iff.mp h
  obtain ⟨v, -, hv, -⟩ := hdescribes.type
  have htype : (d.withType text).field? .type = some (.text text) := by
    rw [withType, field?_mapField, if_pos rfl, hv, Option.map_some]
  have hkeys : (d.withType text).map (·.1) = d.map (·.1) := map_fst_mapField _ _ d
  constructor
  · intro hread
    have hdescribes' := outcome_read_eq_ok_iff.mp hread
    have hscope : e'.scope = e.scope := by
      rw [← hdescribes'.scope_eq, scope_withType, hdescribes.scope_eq]
    obtain ⟨w, text', hw, hw', ht⟩ := hdescribes'.type
    rw [htype] at hw
    cases hw
    cases hw'
    -- With the type that it had, the element is the one of the descriptor as it was.
    have hback : Describes ambient d { e' with type := e.type } := by
      refine hdescribes'.of_type hkeys.symm (fun k hk => (field?_withType_of_ne hk).symm) ?_
      rw [hscope]
      exact hdescribes.type
    have he : e = { e' with type := e.type } :=
      Except.ok.inj (h.symm.trans (outcome_read_eq_ok_iff.mpr hback))
    exact ⟨e'.type, hscope ▸ ht, by rw [he]⟩
  · rintro ⟨t, ht, rfl⟩
    exact outcome_read_eq_ok_iff.mpr (hdescribes.of_type hkeys
      (fun k hk => field?_withType_of_ne hk) ⟨_, text, htype, rfl, ht⟩)

/-! ### Declared names -/

/-- Type parameters have identifiers for their names. -/
theorem Describes.isDottedName_of_mem (h : Describes ambient d e) (hn : n ∈ d.declared) :
    Text.isDottedName n = true := by
  rw [h.declared_eq] at hn
  obtain ⟨p, -, rfl⟩ := List.mem_map.mp hn
  exact TypeRef.isDottedName_of_isIdentifier p.identifier

/-- What a declared name denotes in the types of the element. -/
theorem Describes.named_of_mem (h : Describes ambient d e) (hn : n ∈ d.declared) :
    named e.scope n = match Primitive.ofName? n with
      | some p => .primitive p
      | none => .var n := by
  have hscope : n ∈ e.scope := by
    rw [← h.scope_eq, scope, Scope.mem_widenAll]
    exact .inr hn
  cases hp : Primitive.ofName? n with
  | some p => rw [named, hp]
  | none => exact TypeRef.named_var hp hscope

/-- With a declared name for its type a descriptor is read unless the name is a keyword of
wildcards, and the type is what the name denotes. -/
theorem outcome_read_withType_declared_iff (h : (read ambient d).outcome = .ok e)
    (hn : n ∈ d.declared) :
    (read ambient (d.withType n)).outcome = .ok e' ↔
      Side.ofKeyword? n = none ∧ e' = { e with type := named e.scope n } := by
  have hdotted := (outcome_read_eq_ok_iff.mp h).isDottedName_of_mem hn
  have htypeName : isTypeName n = true ↔ Side.ofKeyword? n = none := Option.isNone_iff_eq_none
  rw [outcome_read_withType_iff h]
  simp only [outcome_read_name_iff hdotted, htypeName]
  constructor
  · rintro ⟨t, ⟨hk, rfl⟩, rfl⟩
    exact ⟨hk, rfl⟩
  · rintro ⟨hk, rfl⟩
    exact ⟨_, ⟨hk, rfl⟩, rfl⟩

/-- Where a name stands by itself in a text of a type, what it denotes and nothing else stands in
the type. -/
theorem Describes.standsIn_typeAt_iff (h : Describes ambient d e) {slot : TypeSlot}
    (htext : d.textAt? slot = some text) :
    ∃ t ts, e.typeAt? slot = some t ∧ TypeRef.lex text.toList = .ok ts ∧
      ∀ n before after, isTypeName n = true → ts = before ++ .name n :: after →
        after.head? ≠ some .less → ∀ u, StandsIn t before u after ↔ u = named e.scope n := by
  obtain ⟨t, ht, hread⟩ := h.typeAt htext
  have hlex := (TypeRef.canonical_of_read hread).2.1
  refine ⟨t, t.tokens, ht, hlex, fun n before after hn hts hafter u => ?_⟩
  exact standsIn_iff_of_read hread (hts ▸ hlex) hn hafter

/-- **A declared type parameter can be used exactly if its name is no keyword.** With the name for
its type the descriptor is read as the element with the type variable, and wherever the name stands
by itself in a text of a type, the type variable and nothing else stands in the type. A name of a
primitive type is read as the primitive type, and a keyword of wildcards is not read. -/
theorem read_declared_usable (h : (read ambient d).outcome = .ok e) (hn : n ∈ d.declared) :
    ((∃ e', (read ambient (d.withType n)).outcome = .ok e' ∧ e'.type = .var n) ↔
      Primitive.ofName? n = none ∧ Side.ofKeyword? n = none) ∧
    (Primitive.ofName? n = none ∧ Side.ofKeyword? n = none →
      (read ambient (d.withType n)).outcome = .ok { e with type := .var n } ∧
      ∀ slot text, d.textAt? slot = some text →
        ∃ t ts, e.typeAt? slot = some t ∧ TypeRef.lex text.toList = .ok ts ∧
          ∀ before after, ts = before ++ .name n :: after → after.head? ≠ some .less →
            ∀ u, StandsIn t before u after ↔ u = .var n) ∧
    (∀ p, Primitive.ofName? n = some p →
      (read ambient (d.withType n)).outcome = .ok { e with type := .primitive p }) ∧
    (∀ side, Side.ofKeyword? n = some side →
      ¬ ∃ e', (read ambient (d.withType n)).outcome = .ok e') := by
  have hdescribes := outcome_read_eq_ok_iff.mp h
  have hnamed := hdescribes.named_of_mem hn
  have hread e' : (read ambient (d.withType n)).outcome = .ok e' ↔
      Side.ofKeyword? n = none ∧ e' = { e with type := named e.scope n } :=
    outcome_read_withType_declared_iff h hn
  have hvar (hp : Primitive.ofName? n = none) : named e.scope n = .var n := by rw [hnamed, hp]
  have hprimitive {p : Primitive} (hp : Primitive.ofName? n = some p) :
      named e.scope n = .primitive p := by rw [hnamed, hp]
  have hfree (hp : Primitive.ofName? n = none) (hk : Side.ofKeyword? n = none) :
      (read ambient (d.withType n)).outcome = .ok { e with type := .var n } :=
    (hread _).mpr ⟨hk, by rw [hvar hp]⟩
  refine ⟨⟨?_, ?_⟩, ?_, ?_, ?_⟩
  · rintro ⟨e', he', htype⟩
    obtain ⟨hk, rfl⟩ := (hread e').mp he'
    refine ⟨?_, hk⟩
    cases hp : Primitive.ofName? n with
    | none => rfl
    | some p =>
      dsimp only at htype
      rw [hprimitive hp] at htype
      cases htype
  · rintro ⟨hp, hk⟩
    exact ⟨_, hfree hp hk, rfl⟩
  · rintro ⟨hp, hk⟩
    refine ⟨hfree hp hk, fun slot text htext => ?_⟩
    obtain ⟨t, ts, ht, hts, hstands⟩ := hdescribes.standsIn_typeAt_iff htext
    refine ⟨t, ts, ht, hts, fun before after hsplit hafter u => ?_⟩
    rw [hstands n before after (Option.isNone_iff_eq_none.mpr hk) hsplit hafter, hvar hp]
  · intro p hp
    -- No word is a primitive type and a keyword of wildcards at once.
    have hname : isTypeName n = true := by
      rw [← Primitive.name_of_ofName? hp]
      exact TypeRef.isTypeName_primitive p
    exact (hread _).mpr ⟨Option.isNone_iff_eq_none.mp hname, by rw [hprimitive hp]⟩
  · rintro side hk ⟨e', he'⟩
    have hnone := ((hread e').mp he').1
    rw [hk] at hnone
    cases hnone

/-- A name, a type and type parameters describe an element that has nothing else. -/
theorem describes_short {typeText : String} {v : Value} {lines : List String}
    (hrest : e.naming = .identity ∧ e.params = [] ∧ e.code = [] ∧ e.thrown = [] ∧ e.tags = .empty)
    (hdistinct : (e.typeParams.map TypeParameter.name).Nodup) (hv : StandsFor (some v) lines)
    (hlines : List.Forall₂ (fun line p => (TypeParameter.read e.scope line).outcome = .ok p)
      lines e.typeParams)
    (htype : (TypeRef.read e.scope typeText).outcome = .ok e.type) :
    Describes e.ambient [(.text "name", .text e.name), (.text "type", .text typeText),
      (.text "type_params", v)] e := by
  obtain ⟨hnaming, hparams, hcode, hthrown, htags⟩ := hrest
  exact {
    keys := by
      simp only [List.mem_cons, List.not_mem_nil, or_false]
      rintro entry (rfl | rfl | rfl) <;> rfl
    name := rfl
    ambient := rfl
    distinct := hdistinct
    typeParams := ⟨lines, hv, hlines⟩
    type := ⟨_, typeText, rfl, rfl, htype⟩
    naming := ⟨"*", .absent, by rw [hnaming]; decide +kernel⟩
    params := ⟨[], .absent, by rw [hparams]; exact .nil⟩
    code := ⟨"", .absent, by rw [hcode]; exact Body.termsOf_nil⟩
    thrown := ⟨[], .absent, by rw [hthrown]; exact .nil⟩
    tags := ⟨[], .absent, by rw [htags]; rfl⟩ }

/-- A type parameter that is bounded by a type of itself. -/
theorem read_declared_usable_max :
    let d : Descriptor :=
      [(.text "name", .text "max"), (.text "type", .text "int"),
       (.text "type_params", .text "T: Comparable<T>")]
    ∃ e, (read .empty d).outcome = .ok e ∧ "T" ∈ d.declared ∧
      (read .empty (d.withType "T")).outcome = .ok { e with type := .var "T" } ∧
      ∃ t, e.typeAt? (.bound 0 0) = some t ∧
        StandsIn t [.name "Comparable", .less] (.var "T") [.greater] := by
  intro d
  let bound : TypeRef := .parameterized ⟨"Comparable"⟩ (.one (.var "T"))
  let p : TypeParameter := ⟨"T", [bound], by decide, by simp [bound, TypeRef.isNominal]⟩
  let e : Element := ⟨⟨"max", .primitive .int, .identity, [], [], [], .empty, .empty, [p]⟩,
    by decide, by decide, by decide⟩
  have hbounds : Text.cutAll '&' "Comparable<T>" = ["Comparable<T>"] := by decide +kernel
  have hlex : TypeRef.lex "Comparable<T>".toList =
      .ok [.name "Comparable", .less, .name "T", .greater] := by decide +kernel
  have hline : (TypeParameter.read e.scope "T: Comparable<T>").outcome = .ok p := by
    refine TypeParameter.outcome_read_eq_ok_iff.mpr (.inr ⟨"Comparable<T>", by decide +kernel, ?_⟩)
    rw [hbounds]
    exact .cons (TypeRef.read_of_lex (by decide +kernel) hlex) .nil
  have hdescribes : Describes .empty d e :=
    describes_short (e := e) ⟨rfl, rfl, rfl, rfl, rfl⟩ (by decide) (.one _) (.cons hline .nil)
      (TypeRef.read_of_lex (by decide +kernel) (by decide +kernel))
  have hread := outcome_read_eq_ok_iff.mpr hdescribes
  have hdeclared : "T" ∈ d.declared := by
    rw [hdescribes.declared_eq]
    exact List.mem_singleton_self _
  obtain ⟨-, husable, -⟩ := read_declared_usable hread hdeclared
  obtain ⟨htype, hslots⟩ := husable (by decide)
  obtain ⟨t, ts, ht, hts, hstands⟩ := hslots (.bound 0 0) "Comparable<T>" (by decide +kernel)
  obtain rfl := Except.ok.inj (hts.symm.trans hlex)
  exact ⟨e, hread, hdeclared, htype, t, ht, (hstands _ _ rfl (by decide) _).mpr rfl⟩

/-- A type parameter with the name of a primitive type is declared, and its name is read as the
primitive type. -/
theorem declared_int_not_usable :
    let d : Descriptor :=
      [(.text "name", .text "a"), (.text "type", .text "A"), (.text "type_params", .text "int")]
    ∃ e, (read .empty d).outcome = .ok e ∧ "int" ∈ d.declared ∧
      ¬ ∃ e', (read .empty (d.withType "int")).outcome = .ok e' ∧ e'.type = .var "int" := by
  intro d
  let e : Element := ⟨⟨"a", .reference ⟨"A"⟩, .identity, [], [], [], .empty, .empty,
    [⟨"int", [], by decide, by simp⟩]⟩, by decide, by decide, by decide⟩
  have hdescribes : Describes .empty d e :=
    describes_short (e := e) ⟨rfl, rfl, rfl, rfl, rfl⟩ (by decide) (.one _)
      (.cons (TypeParameter.outcome_read_eq_ok_iff.mpr (.inl (by decide +kernel))) .nil)
      (TypeRef.read_of_lex (by decide +kernel) (by decide +kernel))
  have hread := outcome_read_eq_ok_iff.mpr hdescribes
  refine ⟨e, hread, ?_, ?_⟩
  · rw [hdescribes.declared_eq]
    exact List.mem_singleton_self _
  · rintro ⟨e', he', htype⟩
    obtain ⟨t, ht, rfl⟩ := (outcome_read_withType_iff hread).mp he'
    obtain ⟨-, rfl⟩ := (outcome_read_name_iff (by decide)).mp ht
    cases htype

end Descriptor

end MemberEncoding
