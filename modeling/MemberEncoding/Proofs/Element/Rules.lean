import MemberEncoding.Element.Draft
import MemberEncoding.Proofs.Parameter
import MemberEncoding.Proofs.Tag.Names

/-!
# MemberEncoding.Proofs.Element.Rules

**The rules for elements decide what is finished, and nothing is lost on the way**
(`build_inverts_ofElement`). A draft that is complete is the draft of the element that it is
finished as, attribute by attribute, and an element is finished again from its draft because it
obeys the rules already.

A draft that is not complete is refused for the first thing that is wrong with it. In this order, an
attribute is missing, the name is no identifier, parameters have the same name, or the element would
be a field and a helper.
-/

namespace MemberEncoding

namespace Element

variable {p : ElementParts} {e : Element}

/-! ### Elements -/

/-- The element made of the parts has these parts; the rules hold since it is one. -/
theorem make_eq_ok_iff {p : ElementParts} {e : Element} :
    make p = .ok e ↔ e.toElementParts = p := by
  constructor
  · intro h
    obtain ⟨named, -, h⟩ := bind_eq_ok_iff.mp h
    by_cases hd : (p.params.map Parameter.name).Nodup
    · rw [dif_pos hd] at h
      by_cases ht : Tag.field ∈ p.tags ∧ Tag.helper ∈ p.tags
      · rw [dif_pos ht] at h
        cases h
      · rw [dif_neg ht] at h
        cases h
        rfl
    · rw [dif_neg hd] at h
      cases h
  · rintro rfl
    refine bind_eq_ok_iff.mpr ⟨⟨e.identifier⟩, Bearer.check_eq_ok _ e.identifier, ?_⟩
    rw [dif_pos e.distinct_params, dif_neg e.not_field_and_helper]

/-- Parts are refused for the first of the rules that they break. -/
theorem make_eq_error_iff {p : ElementParts} {err : Error} :
    make p = .error err ↔
      Bearer.element.check p.name = .error err ∨
      Text.isIdentifier p.name = true ∧
        (¬ (p.params.map Parameter.name).Nodup ∧
            err = .duplicateParameters p.name (Text.repeated (p.params.map Parameter.name)) ∨
          (p.params.map Parameter.name).Nodup ∧ (Tag.field ∈ p.tags ∧ Tag.helper ∈ p.tags) ∧
            err = .fieldAndHelper p.name) := by
  rw [make, bind_eq_error_iff]
  refine or_congr_right ⟨fun h => ?_, fun h => ?_⟩
  · obtain ⟨named, -, h⟩ := h
    refine ⟨named.down, ?_⟩
    by_cases hd : (p.params.map Parameter.name).Nodup
    · rw [dif_pos hd] at h
      by_cases ht : Tag.field ∈ p.tags ∧ Tag.helper ∈ p.tags
      · rw [dif_pos ht] at h
        cases h
        exact .inr ⟨hd, ht, rfl⟩
      · rw [dif_neg ht] at h
        cases h
    · rw [dif_neg hd] at h
      cases h
      exact .inl ⟨hd, rfl⟩
  · obtain ⟨hidentifier, h⟩ := h
    refine ⟨⟨hidentifier⟩, Bearer.check_eq_ok _ hidentifier, ?_⟩
    rcases h with ⟨hd, rfl⟩ | ⟨hd, ht, rfl⟩
    · rw [dif_neg hd]
    · rw [dif_pos hd, dif_pos ht]

theorem name_ne_empty (e : Element) : e.name ≠ "" := by
  intro hempty
  have hidentifier := e.identifier
  rw [hempty] at hidentifier
  cases hidentifier

/-- Parts that obey the rules are the parts of an element. -/
theorem exists_make_iff :
    (∃ e, make p = .ok e) ↔ Text.isIdentifier p.name = true ∧
      (p.params.map Parameter.name).Nodup ∧ ¬ (Tag.field ∈ p.tags ∧ Tag.helper ∈ p.tags) := by
  constructor
  · rintro ⟨e, h⟩
    obtain rfl := make_eq_ok_iff.mp h
    exact ⟨e.identifier, e.distinct_params, e.not_field_and_helper⟩
  · rintro ⟨hidentifier, hdistinct, htags⟩
    exact ⟨⟨p, hidentifier, hdistinct, htags⟩, make_eq_ok_iff.mpr rfl⟩

theorem category_of_make_eq_error {err : Error} (h : make p = .error err) :
    err.category = .invalid := by
  rcases make_eq_error_iff.mp h with h | ⟨-, ⟨-, rfl⟩ | ⟨-, -, rfl⟩⟩
  · exact Bearer.category_of_check_eq_error h
  · rfl
  · rfl

/-- With tags offered one by one, the element has the parts and the set of these tags. -/
theorem makeTagged_eq_ok_iff {cs : List TagCandidate} :
    makeTagged p cs = .ok e ↔
      ∃ ts, cs = ts.map .tag ∧ e.toElementParts = { p with tags := .ofList ts } := by
  simp only [makeTagged, bind_eq_ok_iff, make_eq_ok_iff, TagSet.ofCandidates_eq_ok_iff]
  constructor
  · rintro ⟨-, -, _, ⟨ts, rfl, rfl⟩, h⟩
    exact ⟨ts, rfl, h⟩
  · rintro ⟨ts, rfl, h⟩
    have hidentifier : Text.isIdentifier p.name = true := by
      have hname : e.toElementParts.name = p.name := by rw [h]
      exact hname ▸ e.identifier
    exact ⟨⟨hidentifier⟩, Bearer.check_eq_ok _ hidentifier, _, ⟨ts, rfl, rfl⟩, h⟩

end Element

/-! ### Drafts -/

namespace Draft

variable {d : Draft}

/-- The parts that a draft is finished as, once its name and its type are set. -/
def parts (d : Draft) (name : String) (type : TypeRef) : ElementParts :=
  ⟨name, type, d.naming, d.params, d.code, d.thrown, d.tags, d.ambient, d.typeParams⟩

/-- Nothing is missing in the draft, and the rules for elements hold. -/
structure IsComplete (d : Draft) : Prop where
  /-- The name is set, to an identifier. -/
  name : ∃ name, d.name = some name ∧ Text.isIdentifier name = true
  /-- The type is set. -/
  type : ∃ type, d.type = some type
  /-- No two parameters have the same name. -/
  distinct_params : (d.params.map Parameter.name).Nodup
  /-- The tags are not those of a field and a helper. -/
  not_field_and_helper : ¬ (Tag.field ∈ d.tags ∧ Tag.helper ∈ d.tags)

theorem build_of_set {name : String} {type : TypeRef} (hname : d.name = some name)
    (htype : d.type = some type) : d.build = Element.make (d.parts name type) := by
  rw [build, hname, htype]
  rfl

/-- A draft is refused if an attribute is missing; else the element is made. -/
theorem build_cases (d : Draft) :
    ((d.name = none ∨ d.type = none) ∧ d.build = .error (.missingAttributes d.missing)) ∨
    ∃ name type, d.name = some name ∧ d.type = some type ∧
      d.build = Element.make (d.parts name type) := by
  cases hname : d.name with
  | none => exact .inl ⟨.inl rfl, by rw [build, hname]⟩
  | some name =>
    cases htype : d.type with
    | none => exact .inl ⟨.inr rfl, by rw [build, hname, htype]⟩
    | some type => exact .inr ⟨name, type, rfl, rfl, build_of_set hname htype⟩

/-- A draft is finished as an element just when it holds all that the element does. -/
theorem build_eq_ok_iff {d : Draft} {e : Element} : d.build = .ok e ↔ d = ofElement e := by
  constructor
  · intro h
    obtain ⟨name, type, naming, params, code, thrown, tags, ambient, typeParams⟩ := d
    unfold build at h
    split at h
    · rename_i name type hname htype
      have hparts := Element.make_eq_ok_iff.mp h
      cases hname
      cases htype
      rw [ofElement, hparts]
    · cases h
  · rintro rfl
    exact Element.make_eq_ok_iff.mpr rfl

/-- The drafts that are finished are the complete ones. -/
theorem exists_build_iff : (∃ e, d.build = .ok e) ↔ d.IsComplete := by
  constructor
  · rintro ⟨e, h⟩
    obtain rfl := build_eq_ok_iff.mp h
    exact ⟨⟨e.name, rfl, e.identifier⟩, ⟨e.type, rfl⟩, e.distinct_params, e.not_field_and_helper⟩
  · intro h
    obtain ⟨name, hname, hidentifier⟩ := h.name
    obtain ⟨type, htype⟩ := h.type
    rw [build_of_set hname htype, Element.exists_make_iff]
    exact ⟨hidentifier, h.distinct_params, h.not_field_and_helper⟩

theorem category_of_build_eq_error {err : Error} (h : d.build = .error err) :
    err.category = .invalid := by
  rcases build_cases d with ⟨-, hmissing⟩ | ⟨name, type, -, -, hmake⟩
  · rw [hmissing] at h
    cases h
    rfl
  · rw [hmake] at h
    exact Element.category_of_make_eq_error h

/-- A draft is refused for its parameters if it has a name and a type, the name is an identifier,
and parameters have the same name. -/
theorem build_eq_duplicateParameters_iff {name : String} {names : List String} :
    d.build = .error (.duplicateParameters name names) ↔
      d.name = some name ∧ Text.isIdentifier name = true ∧ (∃ type, d.type = some type) ∧
        ¬ (d.params.map Parameter.name).Nodup ∧
        names = Text.repeated (d.params.map Parameter.name) := by
  rcases build_cases d with ⟨hunset, hmissing⟩ | ⟨name', type, hname, htype, hmake⟩
  · rw [hmissing]
    refine iff_of_false (fun h => by cases h) ?_
    rintro ⟨hname, -, ⟨type, htype⟩, -⟩
    rw [hname, htype] at hunset
    rcases hunset with h | h <;> cases h
  · rw [hmake, Element.make_eq_error_iff, Bearer.check_eq_error_iff, hname, htype]
    constructor
    · rintro ((⟨-, h⟩ | ⟨-, -, h⟩) | ⟨hidentifier, ⟨hrepeated, h⟩ | ⟨-, -, h⟩⟩)
      · cases h
      · cases h
      · cases h
        exact ⟨rfl, hidentifier, ⟨type, rfl⟩, hrepeated, rfl⟩
      · cases h
    · rintro ⟨⟨⟩, hidentifier, -, hrepeated, rfl⟩
      exact .inr ⟨hidentifier, .inl ⟨hrepeated, rfl⟩⟩

/-- **Finishing a draft and going back to one undo each other.** A draft is finished just when it is
complete, and it is the draft of the element then; else it is refused as not acceptable. It is
refused for its parameters if nothing comes before that, and the names that are listed are those
that occur more than once, each once and in order. An element is finished again from its draft, also
one that was made from a list of tags, which are its members then, with all else as it was given. -/
theorem build_inverts_ofElement :
    (∀ d : Draft,
      ((∃ e, d.build = .ok e) ↔ d.IsComplete) ∧
      (∀ e, d.build = .ok e → ofElement e = d) ∧
      (∀ err, d.build = .error err → err.category = .invalid) ∧
      ∀ name names, d.build = .error (.duplicateParameters name names) ↔
        d.name = some name ∧ Text.isIdentifier name = true ∧ (∃ type, d.type = some type) ∧
          ¬ (d.params.map Parameter.name).Nodup ∧ names.Pairwise (· < ·) ∧
          ∀ n, n ∈ names ↔ 1 < (d.params.map Parameter.name).count n) ∧
    (∀ e : Element, ∃ e', (ofElement e).build = .ok e' ∧ e' = e ∧ e'.oneLiner = e.oneLiner) ∧
    ∀ p cs e, Element.makeTagged p cs = .ok e →
      e.toElementParts = { p with tags := e.tags } ∧ ∀ t, t ∈ e.tags ↔ .tag t ∈ cs := by
  refine ⟨fun d => ⟨exists_build_iff, fun e h => (build_eq_ok_iff.mp h).symm,
    fun err h => category_of_build_eq_error h, fun name names => ?_⟩, fun e => ?_, ?_⟩
  · rw [build_eq_duplicateParameters_iff, Text.eq_repeated_iff]
  · exact ⟨e, build_eq_ok_iff.mpr rfl, rfl, rfl⟩
  · intro p cs e h
    obtain ⟨ts, rfl, hparts⟩ := Element.makeTagged_eq_ok_iff.mp h
    have htags : e.tags = .ofList ts := by rw [hparts]
    refine ⟨by rw [htags, hparts], fun t => ?_⟩
    rw [htags, TagSet.mem_ofList]
    simp

/-- Two parameters that are added twice are both listed; once they are set, the draft is finished
and comes back. The element that is made with a tag offered twice has it as a member. -/
theorem build_inverts_ofElement_put :
    let a : Parameter := ⟨"a", .primitive .int, by decide⟩
    let b : Parameter := ⟨"b", .var "T", by decide⟩
    let twice := empty.run
      [.name "put", .type (.primitive .void), .addParams [b, a], .addParams [b, a]]
    let once := twice.run [.params [b, a], .addTags [.tag .copy]]
    let p := once.parts "put" (.primitive .void)
    let cs : List TagCandidate := [.tag .equals, .tag .copy, .tag .equals]
    (twice.build = .error (.duplicateParameters "put" ["a", "b"]) ∧
      (Error.duplicateParameters "put" ["a", "b"]).category = .invalid) ∧
    (∃ e, once.build = .ok e ∧ ofElement e = once) ∧
    ∃ e, Element.makeTagged p cs = .ok e ∧ e.toElementParts = { p with tags := e.tags } ∧
      Tag.equals ∈ e.tags ∧ ∃ e', (ofElement e).build = .ok e' ∧ e' = e := by
  intro a b twice once p cs
  obtain ⟨hdrafts, helements, htagged⟩ := build_inverts_ofElement
  have hlisted : ∀ n, n ∈ ["a", "b"] ↔ 1 < (twice.params.map Parameter.name).count n := by
    intro n
    show n ∈ ["a", "b"] ↔ 1 < ["b", "a", "b", "a"].count n
    by_cases ha : n = "a"
    · subst ha
      decide
    · by_cases hb : n = "b"
      · subst hb
        decide
      · simp [ha, hb, Ne.symm ha, Ne.symm hb]
  have htwice : twice.build = .error (.duplicateParameters "put" ["a", "b"]) :=
    ((hdrafts twice).2.2.2 _ _).mpr
      ⟨rfl, by decide, ⟨_, rfl⟩, by decide, by decide, hlisted⟩
  obtain ⟨e, he⟩ := (hdrafts once).1.mpr
    ⟨⟨"put", rfl, by decide⟩, ⟨_, rfl⟩, by decide, by decide⟩
  obtain ⟨e', hmade⟩ := (Element.exists_make_iff
    (p := { p with tags := .ofList [.equals, .copy, .equals] })).mpr
      ⟨by decide, by decide, by decide⟩
  have he' : Element.makeTagged p cs = .ok e' :=
    Element.makeTagged_eq_ok_iff.mpr
      ⟨[.equals, .copy, .equals], rfl, Element.make_eq_ok_iff.mp hmade⟩
  obtain ⟨e'', hbuild, heq, -⟩ := helements e'
  exact ⟨⟨htwice, (hdrafts twice).2.2.1 _ htwice⟩, ⟨e, he, (hdrafts once).2.1 e he⟩, e', he',
    (htagged p cs e' he').1, ((htagged p cs e' he').2 .equals).mpr (by simp [cs]), e'', hbuild, heq⟩

end Draft

end MemberEncoding
