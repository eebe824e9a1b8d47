import MemberEncoding.Proofs.Descriptor.Description
import MemberEncoding.Proofs.Descriptor.Refusal

/-!
# MemberEncoding.Proofs.Descriptor.Acceptance

**Which descriptors are read** (`read_decides_acceptable`): those whose parts are acceptable one by
one, where the types are read in the ambient scope widened by the names that the descriptor itself
declares. No part is refused for a reason that is not in `Acceptable`, with one exception: a code
that is no text has to have one (`HasCode`), and a whole number of too many digits has none
(`long_code_not_read`).
-/

namespace MemberEncoding.Descriptor

variable {ambient : Scope} {d : Descriptor}

/-! ### Acceptable descriptors -/

/-- The texts under a key, as far as there are any. -/
def textsAt (d : Descriptor) (k : Key) : List String := ((d.field? k).bind texts?).getD []

/-- The names that the lines of type parameters declare. -/
def declared (d : Descriptor) : List String :=
  (d.textsAt .typeParams).map TypeParameter.declaredName

/-- The scope of all types of the descriptor. -/
def scope (ambient : Scope) (d : Descriptor) : Scope := ambient.widenAll d.declared

/-- Every part of the descriptor is acceptable. -/
structure Acceptable (ambient : Scope) (d : Descriptor) : Prop where
  /-- All keys are known. -/
  keys : ∀ entry ∈ d, isKnown entry.1 = true
  /-- The name is an identifier. -/
  name : ∃ n, d.field? .name = some (.text n) ∧ n ≠ "" ∧ Text.isIdentifier n = true
  /-- There is a type, and its text is one. -/
  type : ∃ v text t, d.field? .type = some v ∧ v.toText? = some text ∧
    (TypeRef.read (scope ambient d) text).outcome = .ok t
  /-- Where texts are due there is nothing, null, one text or a list of texts. -/
  texts : ∀ k ∈ [Key.params, .thrown, .tags, .typeParams], ∃ ss, StandsFor (d.field? k) ss
  /-- No type parameter is declared twice. -/
  distinct : d.declared.Nodup
  /-- Each line declares a type parameter. -/
  typeParams : ∀ line ∈ d.textsAt .typeParams,
    ∃ p, (TypeParameter.read (scope ambient d) line).outcome = .ok p
  /-- The naming is a template, a star unless another is given. -/
  naming : ∃ text n, Gives "*" (d.field? .naming) text ∧ Naming.ofText text = .ok n
  /-- Each line that is not blank is a parameter, and their names are distinct. -/
  params : ∃ ps, List.Forall₂ (fun line p =>
      (Parameter.read (scope ambient d) line).outcome = .ok p)
    (Parameter.solidLines (d.textsAt .params)) ps ∧ (ps.map Parameter.name).Nodup
  /-- Each text is a type that is thrown. -/
  thrown : ∀ text ∈ d.textsAt .thrown, ∃ t, (TypeRef.read (scope ambient d) text).outcome = .ok t
  /-- Each name is that of a tag, and there are no fields that are helpers. -/
  tags : ∃ ts, List.Forall₂ (fun name t => Tag.ofText name = .ok t) (d.textsAt .tags) ts ∧
    ¬ (Tag.field ∈ ts ∧ Tag.helper ∈ ts)

/-- The code is absent or falsy, or it has a text. -/
def HasCode (d : Descriptor) : Prop := ∃ text, Gives "" (d.field? .code) text

theorem StandsFor.textsAt_eq {k : Key} {ss : List String} (h : StandsFor (d.field? k) ss) :
    d.textsAt k = ss := by
  unfold textsAt
  cases hv : d.field? k with
  | none =>
    rw [hv] at h
    cases h
    rfl
  | some v =>
    rw [hv] at h
    rw [Option.bind_some, texts?_eq_some_iff.mpr h]
    rfl

theorem standsFor_textsAt {k : Key} (h : ∃ ss, StandsFor (d.field? k) ss) :
    StandsFor (d.field? k) (d.textsAt k) := by
  obtain ⟨ss, hss⟩ := h
  rwa [hss.textsAt_eq]

/-! ### Acceptable descriptors are those that describe an element -/

theorem Describes.declared_eq {e : Element} (h : Describes ambient d e) :
    d.declared = e.typeParams.map TypeParameter.name := by
  obtain ⟨lines, hlines, hread⟩ := h.typeParams
  rw [declared, hlines.textsAt_eq, map_declaredName_eq hread]

/-- A descriptor and the element that it describes have the same scope. -/
theorem Describes.scope_eq {e : Element} (h : Describes ambient d e) :
    scope ambient d = e.scope := by
  rw [scope, h.declared_eq, Element.scope, h.ambient]

/-- A descriptor that describes an element is acceptable. -/
theorem Describes.acceptable {e : Element} (h : Describes ambient d e) : Acceptable ambient d where
  keys := h.keys
  name := ⟨e.name, h.name, e.name_ne_empty, e.identifier⟩
  type := by
    obtain ⟨v, text, hv, htext, hread⟩ := h.type
    rw [h.scope_eq]
    exact ⟨v, text, e.type, hv, htext, hread⟩
  texts := by
    obtain ⟨typeParams, htypeParams, -⟩ := h.typeParams
    obtain ⟨params, hparams, -⟩ := h.params
    obtain ⟨thrown, hthrown, -⟩ := h.thrown
    obtain ⟨tags, htags, -⟩ := h.tags
    intro k hk
    simp only [List.mem_cons, List.not_mem_nil, or_false] at hk
    rcases hk with rfl | rfl | rfl | rfl
    · exact ⟨params, hparams⟩
    · exact ⟨thrown, hthrown⟩
    · exact ⟨tags, htags⟩
    · exact ⟨typeParams, htypeParams⟩
  distinct := by
    rw [h.declared_eq]
    exact h.distinct
  typeParams := by
    obtain ⟨lines, hlines, hread⟩ := h.typeParams
    rw [hlines.textsAt_eq, h.scope_eq]
    exact exists_forall₂_iff.mp ⟨e.typeParams, hread⟩
  naming := by
    obtain ⟨text, htext, hread⟩ := h.naming
    exact ⟨text, e.naming, htext, hread⟩
  params := by
    obtain ⟨lines, hlines, hread⟩ := h.params
    rw [hlines.textsAt_eq, h.scope_eq]
    exact ⟨e.params, hread, e.distinct_params⟩
  thrown := by
    obtain ⟨texts, htexts, hread⟩ := h.thrown
    rw [htexts.textsAt_eq, h.scope_eq]
    exact exists_forall₂_iff.mp ⟨e.thrown, hread⟩
  tags := by
    obtain ⟨names, hnames, htags⟩ := h.tags
    obtain ⟨ts, hts, hset⟩ := TagSet.ofTexts_eq_ok_iff.mp htags
    rw [hnames.textsAt_eq]
    refine ⟨ts, hts, fun hboth => e.not_field_and_helper ?_⟩
    rw [← hset, TagSet.mem_ofList, TagSet.mem_ofList]
    exact hboth

/-- An acceptable descriptor with a code describes an element. -/
theorem Acceptable.exists_describes (h : Acceptable ambient d) (hcode : d.HasCode) :
    ∃ e, Describes ambient d e := by
  obtain ⟨name, hname, -, hidentifier⟩ := h.name
  obtain ⟨v, text, type, hv, htext, htype⟩ := h.type
  obtain ⟨typeParams, htypeParams⟩ := exists_forall₂_iff.mpr h.typeParams
  obtain ⟨template, naming, htemplate, hnaming⟩ := h.naming
  obtain ⟨params, hparams, hnames⟩ := h.params
  obtain ⟨code, hcode⟩ := hcode
  obtain ⟨thrown, hthrown⟩ := exists_forall₂_iff.mpr h.thrown
  obtain ⟨ts, hts, hboth⟩ := h.tags
  -- The scope is fixed by the descriptor, and the element has to give the same one.
  have hdeclared : d.declared = typeParams.map TypeParameter.name := map_declaredName_eq htypeParams
  have hdistinct := h.distinct
  rw [hdeclared] at hdistinct
  rw [scope, hdeclared] at htype htypeParams hparams hthrown
  refine ⟨⟨⟨name, type, naming, params, Body.terms code, thrown, TagSet.ofList ts, ambient,
    typeParams⟩, hidentifier, hnames, by simpa using hboth⟩, ?_⟩
  exact {
    keys := h.keys
    name := hname
    ambient := rfl
    distinct := hdistinct
    typeParams := ⟨_, standsFor_textsAt (h.texts .typeParams (by simp)), htypeParams⟩
    type := ⟨v, text, hv, htext, htype⟩
    naming := ⟨template, htemplate, hnaming⟩
    params := ⟨_, standsFor_textsAt (h.texts .params (by simp)), hparams⟩
    code := ⟨code, hcode, rfl⟩
    thrown := ⟨_, standsFor_textsAt (h.texts .thrown (by simp)), hthrown⟩
    tags := ⟨_, standsFor_textsAt (h.texts .tags (by simp)),
      TagSet.ofTexts_eq_ok_iff.mpr ⟨ts, hts, rfl⟩⟩ }

/-- A power of ten as a datum. -/
def wholePower (k : Nat) : Value := .scalar (.int (Int.ofNat (Nat.pow 10 k)))

theorem isFalsy_wholePower (k : Nat) : (wholePower k).isFalsy = false := by
  have hpos : 0 < Nat.pow 10 k := Nat.pow_pos (by decide)
  have hne : Int.ofNat (Nat.pow 10 k) ≠ 0 := by
    intro hzero
    rw [Int.ofNat_eq_zero.mp hzero] at hpos
    exact absurd hpos (Nat.lt_irrefl 0)
  show (Int.ofNat (Nat.pow 10 k) == 0) = false
  exact beq_eq_false_iff_ne.mpr hne

/-- A whole number of too many digits has no text. -/
theorem wholeText?_eq_none {n : Int} (h : Nat.pow 10 digitLimit ≤ n.natAbs) :
    wholeText? n = none := by
  rw [wholeText?, if_neg (Nat.not_lt.mpr h)]

theorem toText?_wholePower : (wholePower digitLimit).toText? = none := by
  -- The bound holds of every power, so that none is computed.
  have hlong : ∀ k, Nat.pow 10 k ≤ (Int.ofNat (Nat.pow 10 k)).natAbs := fun _ => Nat.le_refl _
  rw [wholePower, Value.toText?, Scalar.toText?]
  exact wholeText?_eq_none (hlong digitLimit)

/-- A code that is no text may be too long for one. -/
theorem not_hasCode_of_wholePower (hcode : d.field? .code = some (wholePower digitLimit)) :
    ¬ d.HasCode := by
  intro h
  obtain ⟨text, hgives⟩ := h
  rw [hcode] at hgives
  cases hgives with
  | falsy hfalsy =>
    rw [isFalsy_wholePower] at hfalsy
    cases hfalsy
  | text _ htext =>
    rw [toText?_wholePower] at htext
    cases htext

theorem exists_read_iff :
    (∃ e, (read ambient d).outcome = .ok e) ↔ Acceptable ambient d ∧ d.HasCode := by
  simp only [outcome_read_eq_ok_iff]
  constructor
  · intro h
    obtain ⟨e, h⟩ := h
    obtain ⟨code, hcode, -⟩ := h.code
    exact ⟨h.acceptable, code, hcode⟩
  · intro h
    obtain ⟨h, hcode⟩ := h
    exact h.exists_describes hcode

/-- Whatever the code of an integer field is, the descriptor is acceptable. -/
theorem acceptable_integer_field (code : Value) :
    HasTextKeys [(.text "name", .text "a"), (.text "type", .text "int"), (.text "code", code)] ∧
    Acceptable .empty
      [(.text "name", .text "a"), (.text "type", .text "int"), (.text "code", code)] := by
  have hint : TypeRef.Canonical .empty (.primitive .int) := rfl
  have htype := TypeRef.read_text hint
  rw [TypeRef.text] at htype
  refine ⟨?_, ?_⟩
  · intro entry hentry
    simp only [List.mem_cons, List.not_mem_nil, or_false] at hentry
    rcases hentry with rfl | rfl | rfl <;> exact ⟨_, rfl⟩
  · exact {
      keys := by
        intro entry hentry
        simp only [List.mem_cons, List.not_mem_nil, or_false] at hentry
        rcases hentry with rfl | rfl | rfl <;> rfl
      name := ⟨"a", rfl, by decide, by decide⟩
      type := ⟨.text "int", "int", .primitive .int, rfl, rfl, htype⟩
      texts := by
        intro k hk
        simp only [List.mem_cons, List.not_mem_nil, or_false] at hk
        rcases hk with rfl | rfl | rfl | rfl <;> exact ⟨[], .absent⟩
      distinct := List.nodup_nil
      typeParams := fun line hline => absurd hline List.not_mem_nil
      naming := ⟨"*", .identity, .absent, by decide +kernel⟩
      params := ⟨[], .nil, List.nodup_nil⟩
      thrown := fun text htext => absurd htext List.not_mem_nil
      tags := ⟨[], .nil, by simp⟩ }

/-! ### Acceptance is decided -/

/-- **Reading decides whether a descriptor is acceptable.** It gives an element just when every part
is acceptable and the code has a text, and a refusal in every other case. -/
theorem read_decides_acceptable (ambient : Scope) (d : Descriptor) (h : d.HasTextKeys) :
    ((∃ e, (read ambient d).outcome = .ok e) ↔ Acceptable ambient d ∧ d.HasCode) ∧
    (¬ (Acceptable ambient d ∧ d.HasCode) →
      ∃ err, (read ambient d).outcome = .error err ∧ err.IsRefusal) := by
  refine ⟨exists_read_iff, fun hnot => ?_⟩
  cases houtcome : (read ambient d).outcome with
  | ok e => exact absurd (exists_read_iff.mp ⟨e, houtcome⟩) hnot
  | error err => exact ⟨err, rfl, onlyRefuses_read ambient h err houtcome⟩

/-- A field without code is read; with a code that has no text it is refused. -/
theorem integer_field_read_unless_long :
    let field (code : Value) : Descriptor :=
      [(.text "name", .text "a"), (.text "type", .text "int"), (.text "code", code)]
    (∃ e, (read .empty (field .null)).outcome = .ok e) ∧
      ∃ err, (read .empty (field (wholePower digitLimit))).outcome = .error err ∧
        err.IsRefusal := by
  intro field
  obtain ⟨hkeys, hacceptable⟩ := acceptable_integer_field .null
  obtain ⟨hkeys', -⟩ := acceptable_integer_field (wholePower digitLimit)
  have hcode : HasCode (field .null) := ⟨"", .falsy rfl⟩
  exact ⟨(read_decides_acceptable .empty _ hkeys).1.mpr ⟨hacceptable, hcode⟩,
    (read_decides_acceptable .empty _ hkeys').2 fun h => not_hasCode_of_wholePower rfl h.2⟩

/-- A descriptor is not read, though all of its parts are acceptable, if the code is a whole number
of too many digits. -/
theorem long_code_not_read :
    let d : Descriptor := [(.text "name", .text "a"), (.text "type", .text "int"),
      (.text "code", wholePower digitLimit)]
    d.HasTextKeys ∧ Acceptable .empty d ∧ ¬ ∃ e, (read .empty d).outcome = .ok e := by
  intro d
  obtain ⟨hkeys, hacceptable⟩ := acceptable_integer_field (wholePower digitLimit)
  refine ⟨hkeys, hacceptable, fun hread => ?_⟩
  exact not_hasCode_of_wholePower rfl (exists_read_iff.mp hread).2

end MemberEncoding.Descriptor
