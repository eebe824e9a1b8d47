import MemberEncoding.Proofs.Descriptor.Description
import MemberEncoding.Proofs.TypeRef.Mentions

/-!
# MemberEncoding.Proofs.Descriptor.Record

**What reading a descriptor puts on record** is what its parses of types do (`mentions_read`), those
that it comes to before it fails. The parses are listed in the order of the reader
(`Descriptor.parses`). An element that is read has exactly the names on record that are in its types
(`mentions_read_of_ok`).
-/

namespace MemberEncoding

/-- A text that is parsed as a type, and the scope in which it is. -/
structure Parse where
  scope : Scope
  text : String

/-- What the parse puts on record. -/
def Parse.mentions (p : Parse) : List Mention := (TypeRef.read p.scope p.text).mentions

/-! ### Parameters -/

namespace Parameter

/-- The parse of a parameter's type. -/
def parses (s : Scope) (line : String) : List Parse :=
  match Text.cutFirst ':' line with
  | (_, some text) => [⟨s, text⟩]
  | (_, none) => []

theorem mentions_read (s : Scope) (line : String) :
    (read s line).mentions = (parses s line).flatMap Parse.mentions := by
  unfold read parses
  rcases Text.cutFirst ':' line with ⟨name, _ | text⟩
  · rfl
  · simp [Reading.mentions_bind, Parse.mentions]

theorem mentions_read_of_ok {s : Scope} {line : String} {p : Parameter}
    (h : (read s line).outcome = .ok p) : (read s line).mentions = p.type.mentions := by
  obtain ⟨text, hcut, htype⟩ := outcome_read_eq_ok_iff.mp h
  simp [mentions_read, parses, hcut, Parse.mentions, TypeRef.mentions_read_of_ok htype]

end Parameter

namespace TypeParameter

/-- The parses of the bounds. -/
def parses (s : Scope) (line : String) : List Parse :=
  match Text.cutFirst ':' line with
  | (_, none) => []
  | (name, some bounds) =>
    (reached (fun piece => (readBound s name piece).outcome) (Text.cutAll '&' bounds)).map
      fun piece => ⟨s, piece⟩

theorem mentions_readBound (s : Scope) (name text : String) :
    (readBound s name text).mentions = Parse.mentions ⟨s, text⟩ := by
  have hcheck : ∀ b : TypeRef, (if b.isNominal then pure b else
      Reading.fail (.structuralBoundText text name) : Reading Error TypeRef).mentions = [] := by
    intro b
    split <;> rfl
  simp [readBound, Reading.mentions_bind, hcheck, Parse.mentions]

theorem mentions_read (s : Scope) (line : String) :
    (read s line).mentions = (parses s line).flatMap Parse.mentions := by
  unfold read parses
  rcases Text.cutFirst ':' line with ⟨name, _ | bounds⟩
  · rfl
  · simp [Reading.mentions_bind, Reading.mentions_mapM, mentions_readBound, List.flatMap_map]

theorem mentions_read_of_ok {s : Scope} {line : String} {p : TypeParameter}
    (h : (read s line).outcome = .ok p) :
    (read s line).mentions = p.bounds.flatMap TypeRef.mentions := by
  rcases outcome_read_eq_ok_iff.mp h with ⟨hcut, hnone⟩ | ⟨text, hcut, hbounds⟩
  · simp [mentions_read, parses, hcut, hnone]
  · have hread : List.Forall₂ (fun piece b => (readBound s p.name piece).outcome = .ok b)
        (Text.cutAll '&' text) p.bounds := by
      simp only [outcome_readBound_eq_ok_iff]
      exact forall₂_and_right.mpr ⟨hbounds, p.nominal⟩
    have hview : ∀ piece b, (readBound s p.name piece).outcome = .ok b →
        (readBound s p.name piece).mentions = b.mentions := by
      intro piece b hb
      rw [mentions_readBound]
      exact TypeRef.mentions_read_of_ok (outcome_readBound_eq_ok_iff.mp hb).1
    rw [read, hcut]
    simp [Reading.mentions_bind, Reading.mentions_mapM_of_forall₂ hview hread]

end TypeParameter

/-- The types of an element: the bounds of its type parameters, its own type, and those of its
parameters and of what it throws. -/
def Element.types (e : Element) : List TypeRef :=
  e.typeParams.flatMap TypeParameter.bounds ++ e.type :: (e.params.map Parameter.type ++ e.thrown)

namespace Descriptor

variable {ambient : Scope} {d : Descriptor}

/-- The parses that the reader comes to, in its order. -/
def parses (ambient : Scope) (d : Descriptor) : List Parse :=
  onOk d.checkKeys fun _ =>
  onOk d.readName fun name =>
  onOk (d.readType name) fun typeDatum =>
  onOk (d.readTexts name .typeParams) fun lines =>
  onOk (declaredNames name lines) fun declared =>
  let scope := ambient.widenAll declared
  let readLine line := (TypeParameter.read scope line).outcome
  (reached readLine lines).flatMap (TypeParameter.parses scope) ++
  onOk (lines.mapM readLine) fun _ =>
  onOk (textOf typeDatum) fun typeText =>
  ⟨scope, typeText⟩ ::
  onOk (TypeRef.read scope typeText).outcome fun _ =>
  onOk (d.textOr .naming "*") fun template =>
  onOk (Naming.ofText template) fun _ =>
  onOk (d.readTexts name .params) fun paramLines =>
  let readParam line := (Parameter.read scope line).outcome
  (reached readParam (Parameter.solidLines paramLines)).flatMap (Parameter.parses scope) ++
  onOk ((Parameter.solidLines paramLines).mapM readParam) fun _ =>
  onOk (d.textOr .code "") fun _ =>
  onOk (d.readTexts name .thrown) fun texts =>
  (reached (fun text => (TypeRef.read scope text).outcome) texts).map fun text => ⟨scope, text⟩

/-- What is on record of a descriptor is what its parses put there. -/
theorem mentions_read (ambient : Scope) (d : Descriptor) :
    (read ambient d).mentions = (parses ambient d).flatMap Parse.mentions := by
  have hflat {α : Type} (f : α → List Parse) (as : List α) :
      (as.flatMap f).flatMap Parse.mentions = as.flatMap fun a => (f a).flatMap Parse.mentions :=
    List.flatMap_assoc
  simp only [read, parses, Reading.mentions_bind, Reading.mentions_of, Reading.outcome_of,
    Reading.mentions_mapM, Reading.outcome_mapM, Parameter.readLines, Parameter.solidLines,
    List.nil_append, List.append_nil, onOk_nil, flatMap_onOk, List.flatMap_append,
    List.flatMap_cons, List.flatMap_map, hflat, TypeParameter.mentions_read,
    Parameter.mentions_read, Parse.mentions]

/-- What is on record of an element that was read are the names in its types. -/
theorem mentions_read_of_ok {e : Element} (h : (read ambient d).outcome = .ok e) :
    (read ambient d).mentions = e.types.flatMap TypeRef.mentions := by
  simp only [read, Reading.outcome_bind, Reading.outcome_of, Parameter.readLines, bind_eq_ok_iff,
    Element.make_eq_ok_iff] at h
  obtain ⟨_, hkeys, name, hname, v, hv, lines, hlines, declared, hdeclared, typeParams,
    htypeParams, text, htext, type, htype, template, htemplate, naming, hnaming, paramLines,
    hparamLines, params, hparams, code, hcode, texts, htexts, thrown, hthrown, names, hnames, tags,
    htags, he⟩ := h
  simp only [Reading.outcome_mapM, mapM_eq_ok_iff] at htypeParams hparams hthrown
  have hbounds := Reading.mentions_mapM_of_forall₂
    (fun _ _ hread => TypeParameter.mentions_read_of_ok hread) htypeParams
  have htypes := Reading.mentions_mapM_of_forall₂
    (fun _ _ hread => Parameter.mentions_read_of_ok hread) hparams
  have hthrows := Reading.mentions_mapM_of_forall₂
    (fun _ _ hread => TypeRef.mentions_read_of_ok hread) hthrown
  simp only [read, Reading.mentions_bind, Reading.mentions_of, Reading.outcome_of,
    Reading.outcome_mapM, Parameter.readLines, hkeys, hname, hv, hlines, hdeclared, htext, htype,
    htemplate, hnaming, hparamLines, hcode, htexts, mapM_eq_ok_iff.mpr htypeParams,
    mapM_eq_ok_iff.mpr hparams, onOk_ok, onOk_nil, List.nil_append, List.append_nil, hbounds,
    htypes, hthrows, TypeRef.mentions_read_of_ok htype]
  obtain ⟨parts, _, _, _⟩ := e
  subst he
  simp only [Element.types, List.flatMap_append, List.flatMap_cons, List.flatMap_map,
    List.flatMap_assoc]

end Descriptor

end MemberEncoding
