import MemberEncoding.Proofs.Body.Lines
import MemberEncoding.Proofs.Descriptor.Description

/-!
# MemberEncoding.Proofs.Descriptor.LineEndings

**How the lines of a code end shows in the code alone** (`read_ignores_line_endings`). The element
is the same otherwise, and on one line its code is the same too.

No step of the reader but the last looks at the code, and the rules for elements do not ask for it.
So with another code a descriptor is read alike, refusals and mentions included, and only the terms
of the element are others (`DifferInCode.read_eq_map`). What is left are two lists of terms that
differ in their breaks.
-/

namespace MemberEncoding

/-- The rules for elements do not ask for the code. -/
theorem Element.make_code (p : ElementParts) (code : List Body.Term) :
    make { p with code } = (make p).map fun e => { e with code } := by
  cases h : make p with
  | error err => exact make_eq_error_iff.mpr (make_eq_error_iff (p := p).mp h)
  | ok e =>
    obtain rfl := make_eq_ok_iff.mp h
    exact make_eq_ok_iff.mpr rfl

namespace Descriptor

variable {d d' : Descriptor} {code code' : String}

/-- The descriptors are the same but for the code, which is `code` in the one and `code'` in the
other. -/
structure DifferInCode (d d' : Descriptor) (code code' : String) : Prop where
  /-- They have the same keys. -/
  keys : d'.map (·.1) = d.map (·.1)
  /-- They have the same data under all other keys. -/
  same : ∀ k, k ≠ .code → d'.field? k = d.field? k
  /-- The code of the one. -/
  code : Gives "" (d.field? .code) code
  /-- The code of the other. -/
  code' : Gives "" (d'.field? .code) code'

/-- With another code a descriptor is read alike, but for the code of the element. -/
theorem DifferInCode.read_eq_map (h : DifferInCode d d' code code') (ambient : Scope) :
    read ambient d' =
      (fun e : Element => { e with code := Body.terms code' }) <$> read ambient d := by
  have hkeys : d'.checkKeys = d.checkKeys := by simp only [checkKeys, h.keys]
  have hname : d'.readName = d.readName := by simp only [readName, h.same .name (by decide)]
  have htype : d'.readType = d.readType := by
    funext name
    simp only [readType, h.same .type (by decide)]
  have htexts : ∀ k, k ≠ .code → ∀ name, d'.readTexts name k = d.readTexts name k := by
    intro k hk name
    simp only [readTexts, h.same k hk]
  have hnaming : d'.textOr .naming "*" = d.textOr .naming "*" := by
    simp only [textOr, h.same .naming (by decide)]
  have hcode : (Reading.of (d.textOr .code "") : Reading Error String) = pure code := by
    rw [textOr_eq_ok_iff.mpr h.code]
    rfl
  have hcode' : (Reading.of (d'.textOr .code "") : Reading Error String) = pure code' := by
    rw [textOr_eq_ok_iff.mpr h.code']
    rfl
  -- Only the element that is made in the end has the code.
  have hmake : ∀ p : ElementParts,
      (Reading.of (Element.make { p with code := Body.terms code' }) : Reading Error Element) =
        (fun e : Element => { e with code := Body.terms code' }) <$> .of (Element.make p) := by
    intro p
    rw [Element.make_code]
    rfl
  simp only [read, hkeys, hname, htype, htexts .typeParams (by decide),
    htexts .params (by decide), htexts .thrown (by decide), htexts .tags (by decide), hnaming,
    hcode, hcode', pure_bind, map_bind, ← hmake]

theorem code_eq_of_read {ambient : Scope} {e : Element} (h : (read ambient d).outcome = .ok e)
    (hcode : Gives "" (d.field? .code) code) : e.code = Body.terms code := by
  obtain ⟨text, htext, hterms⟩ := (outcome_read_eq_ok_iff.mp h).code
  have hsame := (textOr_eq_ok_iff.mpr htext).symm.trans (textOr_eq_ok_iff.mpr hcode)
  rw [← hterms, Except.ok.inj hsame]

/-- **How the lines of a code end shows in the code alone.** With a carriage return before every
line feed, a code without carriage returns and without line feeds behind a backslash is the same on
one line; and two descriptors that differ in such codes are refused alike, or they are read as
elements that differ in their code only, which is the same on one line. -/
theorem read_ignores_line_endings (code : String) (hreturn : '\r' ∉ code.toList)
    (hback : ¬ ['\\', '\n'] <:+: code.toList) :
    Body.oneLiner (Body.terms (Body.withReturns code)) = Body.oneLiner (Body.terms code) ∧
    ∀ ambient d d', DifferInCode d d' code (Body.withReturns code) →
      (∃ err, (read ambient d).outcome = .error err ∧ (read ambient d').outcome = .error err) ∨
      ∃ e e', (read ambient d).outcome = .ok e ∧ (read ambient d').outcome = .ok e' ∧
        e' = { e with code := e'.code } ∧ e'.oneLiner = e.oneLiner ∧
        e'.roleNames = e.roleNames ∧ e'.isInlinable = e.isInlinable := by
  have hline := Body.oneLiner_terms_withReturns hreturn hback
  refine ⟨hline, fun ambient d d' h => ?_⟩
  rw [h.read_eq_map, Reading.outcome_map]
  cases hread : (read ambient d).outcome with
  | error err => exact .inl ⟨err, rfl, rfl⟩
  | ok e =>
    refine .inr ⟨e, _, rfl, rfl, rfl, ?_, rfl, rfl⟩
    rw [Element.oneLiner, Element.oneLiner, code_eq_of_read hread h.code]
    exact ite_congr rfl (fun _ => hline) (fun _ => rfl)

/-- A code with a literal that is left open in its first line, and breaks among other blanks. -/
theorem read_ignores_line_endings_accessor :
    let code := " // don't\n\n\treturn 1;\n"
    let d (code : String) : Descriptor :=
      [(.text "name", .text "show"), (.text "type", .text "int"), (.text "code", .text code),
       (.text "tags", .text "to_string")]
    '\r' ∉ code.toList ∧ ¬ ['\\', '\n'] <:+: code.toList ∧
    DifferInCode (d code) (d (Body.withReturns code)) code (Body.withReturns code) ∧
    ∃ e e', (read .empty (d code)).outcome = .ok e ∧
      (read .empty (d (Body.withReturns code))).outcome = .ok e' ∧ e.code ≠ e'.code ∧
      Body.join e.oneLiner = "// don't return 1;" ∧ e'.oneLiner = e.oneLiner := by
  intro code d
  have hreturn : '\r' ∉ code.toList := by decide
  have hback : ¬ ['\\', '\n'] <:+: code.toList := by decide +kernel
  have hdiffer : ∀ code code', DifferInCode (d code) (d code') code code' := fun code code' => {
    keys := rfl
    same := by
      intro k hk
      cases k with
      | code => exact absurd rfl hk
      | _ => rfl
    code := gives_text fun _ => rfl
    code' := gives_text fun _ => rfl }
  let e : Element := ⟨⟨"show", .primitive .int, .identity, [], Body.terms code, [],
    .ofList [.asString], .empty, []⟩, by decide, by decide, by decide⟩
  have hdescribes : Describes .empty (d code) e := {
    keys := by decide +kernel
    name := rfl
    ambient := rfl
    distinct := by decide
    typeParams := ⟨[], .absent, .nil⟩
    type := ⟨_, "int", rfl, rfl, TypeRef.read_of_lex (by decide +kernel) (by decide +kernel)⟩
    naming := ⟨"*", .absent, by decide +kernel⟩
    params := ⟨[], .absent, .nil⟩
    code := ⟨code, gives_text fun _ => rfl, rfl⟩
    thrown := ⟨[], .absent, .nil⟩
    tags := ⟨["to_string"], .one _, by decide +kernel⟩ }
  have hread := outcome_read_eq_ok_iff.mpr hdescribes
  refine ⟨hreturn, hback, hdiffer _ _, ?_⟩
  rcases (read_ignores_line_endings code hreturn hback).2 .empty _ _ (hdiffer _ _) with
    ⟨err, herr, -⟩ | ⟨e₁, e', he₁, hread', -, hline, -⟩
  · cases hread.symm.trans herr
  · cases hread.symm.trans he₁
    have hterms : Body.terms code ≠ Body.terms (Body.withReturns code) := by decide +kernel
    refine ⟨e, e', hread, hread', ?_, by decide +kernel, hline⟩
    rwa [code_eq_of_read hread' (hdiffer code _).code']

end Descriptor

end MemberEncoding
