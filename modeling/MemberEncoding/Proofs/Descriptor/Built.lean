import MemberEncoding.Proofs.Descriptor.Sheet

/-!
# MemberEncoding.Proofs.Descriptor.Built

**Elements that were built step by step** are read again from their sheets unless a type parameter
is declared twice (`read_built_iff`). The rules for elements ask for parameters with distinct names
and let type parameters repeat theirs; the reader of descriptors asks for both.

The texts of a draft's parts may have been read in any scope that holds the variables of the
element: to be canonical over a scope depends on its members only, not on their order
(`Canonical.congr`).
-/

namespace MemberEncoding

open TypeRef (Canonical)

/-! ### Scopes with the same variables -/

namespace TypeRef

variable {s s' : Scope}

mutual

theorem isCanonical_congr (h : ∀ n, n ∈ s ↔ n ∈ s') :
    (wildcards : Bool) → (t : TypeRef) → isCanonical s wildcards t = isCanonical s' wildcards t
  | _, primitive _ => rfl
  | _, reference r => by simp only [isCanonical, h r.name]
  | _, parameterized head args => by
    simp only [isCanonical, h head.name, areCanonical_congr h args]
  | _, array element => isCanonical_congr h false element
  | _, var n => by simp only [isCanonical, h n]
  | _, wildcard => rfl
  | _, bounded _ bound => by simp only [isCanonical, isCanonical_congr h false bound]

theorem areCanonical_congr (h : ∀ n, n ∈ s ↔ n ∈ s') :
    (args : TypeArgs) → areCanonical s args = areCanonical s' args
  | .one a => isCanonical_congr h true a
  | .cons a more => by
    simp only [areCanonical, isCanonical_congr h true a, areCanonical_congr h more]

end

theorem Canonical.congr {t : TypeRef} (h : Canonical s t) (hs : ∀ n, n ∈ s ↔ n ∈ s') :
    Canonical s' t :=
  (isCanonical_congr hs false t).symm.trans h

end TypeRef

/-! ### Drafts -/

namespace Draft

/-- All types, the naming and the code of the draft come from texts, and the texts of the types are
read in a scope that holds the variables of the draft. -/
structure IsReadIn (s : Scope) (d : Draft) : Prop where
  /-- In scope are the ambient variables and the names of the type parameters. -/
  scope : ∀ n, n ∈ s ↔ n ∈ d.ambient ∨ n ∈ d.typeParams.map TypeParameter.name
  /-- Each type parameter is read from a line. -/
  typeParams : ∀ p ∈ d.typeParams, ∃ line, (TypeParameter.read s line).outcome = .ok p
  /-- The type is read from a text. -/
  type : ∀ t, d.type = some t → ∃ text, (TypeRef.read s text).outcome = .ok t
  /-- The naming is read from a template. -/
  naming : ∃ template, Naming.ofText template = .ok d.naming
  /-- The types of the parameters are read from texts. -/
  params : ∀ p ∈ d.params, ∃ text, (TypeRef.read s text).outcome = .ok p.type
  /-- The code is cut from a text. -/
  code : ∃ text, d.code = Body.terms text
  /-- The types that are thrown are read from texts. -/
  thrown : ∀ t ∈ d.thrown, ∃ text, (TypeRef.read s text).outcome = .ok t

/-- With distinct type parameters, what is built from texts can be written down. -/
theorem IsReadIn.isWritable {s : Scope} {e : Element} (h : (ofElement e).IsReadIn s)
    (hdistinct : (e.typeParams.map TypeParameter.name).Nodup) : e.IsWritable := by
  have hscope : ∀ n, n ∈ s ↔ n ∈ e.scope := fun n => (h.scope n).trans Scope.mem_widenAll.symm
  have hcanonical : ∀ t, (∃ text, (TypeRef.read s text).outcome = .ok t) → Canonical e.scope t := by
    intro t ht
    obtain ⟨text, hread⟩ := ht
    exact (TypeRef.canonical_of_read hread).1.congr hscope
  exact {
    distinct := hdistinct
    bounds := by
      intro p hp b hb
      obtain ⟨line, hread⟩ := h.typeParams p hp
      exact (TypeParameter.canonical_of_read hread b hb).congr hscope
    type := hcanonical e.type (h.type e.type rfl)
    naming := by
      obtain ⟨template, hread⟩ := h.naming
      exact Naming.isWritable_of_ofText hread
    params := fun p hp => hcanonical p.type (h.params p hp)
    code := by
      obtain ⟨text, hterms⟩ := h.code
      have hcode : e.code = Body.terms text := hterms
      rw [hcode, Body.join_terms]
    thrown := fun t ht => hcanonical t (h.thrown t ht) }

/-- The lines of type parameters that come from texts declare their names. -/
theorem IsReadIn.map_declaredName {s : Scope} {d : Draft} (h : d.IsReadIn s) :
    (d.typeParams.map TypeParameter.text).map TypeParameter.declaredName =
      d.typeParams.map TypeParameter.name := by
  rw [List.map_map]
  refine List.map_congr_left fun p hp => ?_
  obtain ⟨line, hread⟩ := h.typeParams p hp
  exact TypeParameter.declaredName_of_read
    (TypeParameter.read_text (TypeParameter.canonical_of_read hread))

end Draft

namespace Descriptor

/-- Type parameters that are declared twice are refused as soon as their lines are known. -/
theorem outcome_read_of_repeated (ambient : Scope) {d : Descriptor} {name : String}
    {lines : List String} {v : Value} (hkeys : ∀ entry ∈ d, isKnown entry.1 = true)
    (hname : d.field? .name = some (.text name)) (hne : name ≠ "")
    (htype : d.field? .type = some v) (hlines : StandsFor (d.field? .typeParams) lines)
    (hrepeated : ¬ (lines.map TypeParameter.declaredName).Nodup) :
    (read ambient d).outcome = .error
      (.duplicateTypeParameters name (Text.repeated (lines.map TypeParameter.declaredName))) := by
  have hdeclared : declaredNames name lines = .error
      (.duplicateTypeParameters name (Text.repeated (lines.map TypeParameter.declaredName))) :=
    if_neg hrepeated
  simp only [read, Reading.outcome_bind, Reading.outcome_of]
  refine bind_eq_error_iff.mpr (.inr ⟨(), checkKeys_eq_ok_iff.mpr hkeys, ?_⟩)
  refine bind_eq_error_iff.mpr (.inr ⟨name, readName_eq_ok_iff.mpr ⟨hname, hne⟩, ?_⟩)
  refine bind_eq_error_iff.mpr (.inr ⟨v, readType_eq_ok_iff.mpr htype, ?_⟩)
  refine bind_eq_error_iff.mpr (.inr ⟨lines, readTexts_eq_ok_iff.mpr hlines, ?_⟩)
  exact bind_eq_error_iff.mpr (.inl hdeclared)

/-- **An element that was built from texts is read from its sheet, in its ambient scope, if and only
if its type parameters have distinct names;** if they have not, this is the error. -/
theorem read_built_iff {d : Draft} {s : Scope} {e : Element} (hread : d.IsReadIn s)
    (hbuild : d.build = .ok e) :
    let again := (read e.ambient e.sheet.entries).outcome
    let names := e.typeParams.map TypeParameter.name
    (again = .ok e ↔ names.Nodup) ∧
    (¬ names.Nodup → ∃ err, again = .error err ∧ err.category = .invalid ∧
      err.message = "Element " ++ e.name ++ ": duplicate type parameters "
        ++ Text.quoteList (Text.repeated names)) := by
  intro again names
  have hdraft := Draft.build_eq_ok_iff.mp hbuild
  subst hdraft
  refine ⟨⟨fun h => (outcome_read_eq_ok_iff.mp h).distinct, fun hdistinct => ?_⟩, fun h => ?_⟩
  · exact outcome_read_eq_ok_iff.mpr (hread.isWritable hdistinct).describes
  · have hdeclared : (e.typeParams.map TypeParameter.text).map TypeParameter.declaredName = names :=
      hread.map_declaredName
    have hlines : StandsFor (field? e.sheet.entries .typeParams)
        (e.typeParams.map TypeParameter.text) := by
      rw [e.sheet.field?_entries]
      exact .list _
    have herror := outcome_read_of_repeated e.ambient e.sheet.isKnown_of_mem_entries
      (e.sheet.field?_entries .name) e.name_ne_empty (e.sheet.field?_entries .type) hlines
      (hdeclared ▸ h)
    rw [hdeclared] at herror
    exact ⟨_, herror, rfl, rfl⟩

/-- A method with one type parameter is read again; with the parameter added once more it is still
built, and not read. -/
theorem read_built_max :
    let t : TypeParameter :=
      ⟨"T", [.reference ⟨"Comparable"⟩], by decide, by simp [TypeRef.isNominal]⟩
    let draft (ps : List TypeParameter) : Draft := Draft.empty.run
      [.name "max", .type (.var "T"), .naming (.around "get" ""),
        .addParams [⟨"a", .var "T", by decide⟩], .code (Body.terms "return a;"), .addTypeParams ps]
    (∃ e, (draft [t]).build = .ok e ∧ (read e.ambient e.sheet.entries).outcome = .ok e) ∧
    ∃ e, (draft [t, t]).build = .ok e ∧ ∃ err,
      (read e.ambient e.sheet.entries).outcome = .error err ∧
      err.message = "Element max: duplicate type parameters ['T']" := by
  intro t draft
  let s : Scope := ⟨["T"], by decide⟩
  let parts (ps : List TypeParameter) : ElementParts :=
    ⟨"max", .var "T", .around "get" "", [⟨"a", .var "T", by decide⟩], Body.terms "return a;", [],
      .empty, .empty, ps⟩
  let e (ps : List TypeParameter) : Element := {
    parts ps with
    identifier := (by decide : Text.isIdentifier "max" = true)
    distinct_params := by simp [parts]
    not_field_and_helper :=
      (by decide : ¬ (Tag.field ∈ TagSet.empty ∧ Tag.helper ∈ TagSet.empty)) }
  have hdraft : ∀ ps, draft ps = Draft.ofElement (e ps) := by
    intro ps
    simp [draft, Draft.step, Draft.ofElement, Draft.empty, e, parts, Except.toOption]
  have hvar : (TypeRef.read s "T").outcome = .ok (.var "T") :=
    TypeRef.read_of_lex (by decide +kernel) (by decide +kernel)
  have hbounds : ∀ b ∈ t.bounds, Canonical s b := by
    intro b hb
    rw [List.mem_singleton.mp hb]
    decide +kernel
  have ht : (TypeParameter.read s t.text).outcome = .ok t := TypeParameter.read_text hbounds
  have hnaming : Naming.ofText "get*" = .ok (.around "get" "") := by decide +kernel
  have hread : ∀ ps, (∀ p ∈ ps, p = t) → t ∈ ps → (draft ps).IsReadIn s := by
    intro ps hall hmem
    rw [hdraft]
    exact {
      scope := by
        intro n
        have hnames : n ∈ ps.map TypeParameter.name ↔ n = "T" := by
          rw [List.mem_map]
          constructor
          · rintro ⟨p, hp, rfl⟩
            rw [hall p hp]
          · rintro rfl
            exact ⟨t, hmem, rfl⟩
        have hempty : n ∉ Scope.empty := Scope.not_mem_empty n
        exact List.mem_singleton.trans (hnames.symm.trans (or_iff_right hempty).symm)
      typeParams := by
        intro p hp
        rw [hall p hp]
        exact ⟨t.text, ht⟩
      type := by
        rintro _ ⟨⟩
        exact ⟨"T", hvar⟩
      naming := ⟨"get*", hnaming⟩
      params := by
        intro p hp
        rw [List.mem_singleton.mp hp]
        exact ⟨"T", hvar⟩
      code := ⟨"return a;", rfl⟩
      thrown := fun t ht => absurd ht List.not_mem_nil }
  have hbuild : ∀ ps, (draft ps).build = .ok (e ps) := fun ps =>
    Draft.build_eq_ok_iff.mpr (hdraft ps)
  have honce := read_built_iff (hread [t] (by simp) (by simp)) (hbuild [t])
  have htwice := read_built_iff (hread [t, t] (by simp) (by simp)) (hbuild [t, t])
  obtain ⟨err, herr, -, hmessage⟩ := htwice.2 (by decide)
  have hquoted : Text.quoteList (Text.repeated ["T", "T"]) = "['T']" := by decide +kernel
  refine ⟨⟨e [t], hbuild [t], honce.1.mpr (by decide)⟩, e [t, t], hbuild [t, t], err, herr, ?_⟩
  rw [hmessage]
  show "Element " ++ "max" ++ ": duplicate type parameters "
    ++ Text.quoteList (Text.repeated ["T", "T"]) = _
  rw [hquoted]
  decide +kernel

end Descriptor

end MemberEncoding
