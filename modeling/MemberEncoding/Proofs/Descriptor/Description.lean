import MemberEncoding.Proofs.Descriptor.Data
import MemberEncoding.Proofs.Element.Rules
import MemberEncoding.Proofs.Naming

/-!
# MemberEncoding.Proofs.Descriptor.Description

**What it means that a descriptor describes an element** (`Describes`), part by part and without an
order among the parts. The reader of descriptors finds the element that is described
(`outcome_read_eq_ok_iff`), and nothing else about descriptors unfolds it.

The types of an element are read in the scope that the element itself gives, its ambient variables
with the names of its type parameters (`Element.scope`). That the reader has this scope before it
has the type parameters is due to their lines, each of which declares the name of what it is read
as.
-/

namespace MemberEncoding

/-- The type variables that the types of an element refer to. -/
def Element.scope (e : Element) : Scope := e.ambient.widenAll (e.typeParams.map TypeParameter.name)

namespace Descriptor

variable {ambient : Scope} {d : Descriptor} {e : Element}

/-- The descriptor describes the element in an ambient scope. -/
structure Describes (ambient : Scope) (d : Descriptor) (e : Element) : Prop where
  /-- All keys are known. -/
  keys : ∀ entry ∈ d, isKnown entry.1 = true
  /-- The name is a text. -/
  name : d.field? .name = some (.text e.name)
  /-- The element is one of the ambient scope. -/
  ambient : e.ambient = ambient
  /-- No type parameter is declared twice. -/
  distinct : (e.typeParams.map TypeParameter.name).Nodup
  /-- Each line declares a type parameter. -/
  typeParams : ∃ lines, StandsFor (d.field? .typeParams) lines ∧
    List.Forall₂ (fun line p => (TypeParameter.read e.scope line).outcome = .ok p)
      lines e.typeParams
  /-- There is a type, and its text is one. -/
  type : ∃ v text, d.field? .type = some v ∧ v.toText? = some text ∧
    (TypeRef.read e.scope text).outcome = .ok e.type
  /-- The naming is a star unless another is given. -/
  naming : ∃ text, Gives "*" (d.field? .naming) text ∧ Naming.ofText text = .ok e.naming
  /-- Each line that is not blank is a parameter. -/
  params : ∃ lines, StandsFor (d.field? .params) lines ∧
    List.Forall₂ (fun line p => (Parameter.read e.scope line).outcome = .ok p)
      (Parameter.solidLines lines) e.params
  /-- The code is empty unless some is given. -/
  code : ∃ text, Gives "" (d.field? .code) text ∧ Body.terms text = e.code
  /-- Each text is a type that is thrown. -/
  thrown : ∃ texts, StandsFor (d.field? .thrown) texts ∧
    List.Forall₂ (fun text t => (TypeRef.read e.scope text).outcome = .ok t) texts e.thrown
  /-- The names are those of the tags. -/
  tags : ∃ names, StandsFor (d.field? .tags) names ∧ TagSet.ofTexts names = .ok e.tags

/-- The lines of type parameters declare the names of what they are read as. -/
theorem map_declaredName_eq {s : Scope} {lines : List String} {ps : List TypeParameter}
    (h : List.Forall₂ (fun line p => (TypeParameter.read s line).outcome = .ok p) lines ps) :
    lines.map TypeParameter.declaredName = ps.map TypeParameter.name :=
  map_eq_of_forall₂ (fun _ _ hread => TypeParameter.declaredName_of_read hread) h

/-- **The reader finds the element that a descriptor describes.** -/
theorem outcome_read_eq_ok_iff :
    (read ambient d).outcome = .ok e ↔ Describes ambient d e := by
  simp only [read, Reading.outcome_bind, Reading.outcome_of, Reading.outcome_mapM, bind_eq_ok_iff,
    mapM_eq_ok_iff, readName_eq_ok_iff, readType_eq_ok_iff,
    readTexts_eq_ok_iff, declaredNames_eq_ok_iff, textOf_eq_ok_iff, textOr_eq_ok_iff,
    Parameter.outcome_readLines_eq_ok_iff, Element.make_eq_ok_iff]
  constructor
  · intro h
    obtain ⟨⟨⟩, hkeys, name, ⟨hname, -⟩, v, hv, lines, hlines, _, ⟨rfl, hdistinct⟩, typeParams,
      htypeParams, text, htext, type, htype, template, htemplate, naming, hnaming, paramLines,
      hparamLines, params, hparams, code, hcode, texts, htexts, thrown, hthrown, names, hnames,
      tags, htags, he⟩ := h
    -- What was read gives the names that the lines declare, and with them the element's scope.
    rw [map_declaredName_eq htypeParams] at hdistinct htypeParams htype hparams hthrown
    obtain ⟨parts, hidentifier, hparamNames, htagRule⟩ := e
    subst he
    exact {
      keys := checkKeys_eq_ok_iff.mp hkeys
      name := hname
      ambient := rfl
      distinct := hdistinct
      typeParams := ⟨lines, hlines, htypeParams⟩
      type := ⟨v, text, hv, htext, htype⟩
      naming := ⟨template, htemplate, hnaming⟩
      params := ⟨paramLines, hparamLines, hparams⟩
      code := ⟨code, hcode, rfl⟩
      thrown := ⟨texts, htexts, hthrown⟩
      tags := ⟨names, hnames, htags⟩ }
  · intro h
    obtain ⟨lines, hlines, htypeParams⟩ := h.typeParams
    obtain ⟨v, text, hv, htext, htype⟩ := h.type
    obtain ⟨template, htemplate, hnaming⟩ := h.naming
    obtain ⟨paramLines, hparamLines, hparams⟩ := h.params
    obtain ⟨code, hcode, hterms⟩ := h.code
    obtain ⟨texts, htexts, hthrown⟩ := h.thrown
    obtain ⟨names, hnames, htags⟩ := h.tags
    have hdeclared := map_declaredName_eq htypeParams
    have hscope : ambient.widenAll (lines.map TypeParameter.declaredName) = e.scope := by
      rw [hdeclared, Element.scope, h.ambient]
    refine ⟨(), checkKeys_eq_ok_iff.mpr h.keys, e.name, ⟨h.name, e.name_ne_empty⟩, v, hv, lines,
      hlines, _, ⟨rfl, hdeclared ▸ h.distinct⟩, e.typeParams, hscope ▸ htypeParams, text, htext,
      e.type, hscope ▸ htype, template, htemplate, e.naming, hnaming, paramLines, hparamLines,
      e.params, hscope ▸ hparams, code, hcode, texts, htexts, e.thrown, hscope ▸ hthrown, names,
      hnames, e.tags, htags, ?_⟩
    rw [hterms, ← h.ambient]

end Descriptor

end MemberEncoding
