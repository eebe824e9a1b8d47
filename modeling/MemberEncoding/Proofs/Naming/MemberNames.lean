import MemberEncoding.Proofs.Element.Rules
import MemberEncoding.Proofs.Naming
import MemberEncoding.Proofs.Naming.Detection

/-!
# MemberEncoding.Proofs.Naming.MemberNames

**Derived names are names of members unless the template starts with a digit**
(`isIdentifier_apply_iff`). A template that is read holds characters of names only, and capitals are
such characters too. So nothing but the first character of a derived name can be wrong: it is the
first of the template, if there is text before the star, and the first of the attribute's name
otherwise.

A constant is read only if it starts as names do. Text before a star may start with a digit, and no
name that such a template derives is one that a member can have.
-/

namespace MemberEncoding

open Text (isNameStart isNamePart isIdentifier isIdentifierChars isIdentifierChars_iff
  isNameStart_iff isNamePart_of_mem StartsWith startsWith_iff exists_cons_of_ne_empty)

/-- A name that every parameter and every element may have in place of its own. -/
structure IsMemberName (name : String) : Prop where
  /-- There are parameters of all types with the name. -/
  parameter : ∀ type, ∃ p, Parameter.make name type = .ok p
  /-- An element remains one under the name. -/
  element : ∀ e : Element, ∃ e', Element.make { e.toElementParts with name } = .ok e'

theorem isMemberName_iff {name : String} : IsMemberName name ↔ isIdentifier name = true := by
  constructor
  · exact fun h => Parameter.exists_make_iff.mp (h.parameter (.primitive .int))
  · intro h
    exact ⟨fun _ => Parameter.exists_make_iff.mpr h,
      fun e => Element.exists_make_iff.mpr ⟨h, e.distinct_params, e.not_field_and_helper⟩⟩

namespace Naming

/-! ### Characters of derived names -/

/-- The capitalized name has characters of names only. -/
theorem isNamePart_of_mem_capitalize {cs : List Char} (h : ∀ c ∈ cs, isNamePart c = true) :
    ∀ c ∈ capitalize cs, isNamePart c = true := by
  cases cs with
  | nil => exact h
  | cons c cs =>
    have hc := h c (List.mem_cons_self ..)
    rw [capitalize_cons (Text.toNat_lt_of_isNamePart hc), List.forall_mem_cons]
    exact ⟨Text.isNamePart_toUpper hc, fun d hd => h d (List.mem_cons_of_mem c hd)⟩

/-- Characters of names after the first one leave it to the first one. -/
theorem isIdentifierChars_cons_iff {c : Char} {cs : List Char}
    (hcs : ∀ d ∈ cs, isNamePart d = true) :
    isIdentifierChars (c :: cs) = true ↔ isNameStart c = true := by
  rw [isIdentifierChars, List.all_eq_true.mpr hcs, Bool.and_true]

/-! ### First characters -/

/-- An identifier does not start with a digit. -/
theorem not_startsWith_isDigit {s : String} (h : isIdentifier s = true) :
    ¬ StartsWith Char.isDigit s := by
  obtain ⟨c, cs, hs, hc, -⟩ := isIdentifierChars_iff.mp h
  rw [startsWith_iff hs, (isNameStart_iff.mp hc).2]
  exact Bool.false_ne_true

/-- Behind text that starts with a digit, no name becomes one of a member; behind any other text of
characters of names, and where there is none, every name does. -/
theorem isIdentifier_apply_around_iff {lead trail a : String}
    (h : (around lead trail).IsWritable) (ha : isIdentifier a = true) :
    isIdentifier ((around lead trail).apply a) = true ↔
      ¬ StartsWith Char.isDigit (around lead trail).text := by
  have hname : ∀ c ∈ a.toList, isNamePart c = true := fun c hc => isNamePart_of_mem ha hc
  by_cases hlead : lead = ""
  · obtain ⟨c, cs, hcs, hc, hrest⟩ := isIdentifierChars_iff.mp ha
    have happly : ((around lead trail).apply a).toList = c :: (cs ++ trail.toList) := by
      simp [apply, hlead, hcs]
    have htext : (around lead trail).text.toList = '*' :: trail.toList := by
      rw [toList_text_around, hlead]
      rfl
    rw [isIdentifier, happly, isIdentifierChars_cons_iff, startsWith_iff htext]
    · exact iff_of_true hc (by decide)
    · exact List.forall_mem_append.mpr ⟨hrest, h.2⟩
  · obtain ⟨c, cs, hcs⟩ := exists_cons_of_ne_empty hlead
    have hc : isNamePart c = true := h.1 c (by simp [hcs])
    have happly : ((around lead trail).apply a).toList =
        c :: (cs ++ capitalize a.toList ++ trail.toList) := by
      simp [apply, hlead, hcs]
    have htext : (around lead trail).text.toList = c :: (cs ++ '*' :: trail.toList) := by
      rw [toList_text_around, hcs]
      rfl
    rw [isIdentifier, happly, isIdentifierChars_cons_iff, startsWith_iff htext, isNameStart_iff,
      Bool.not_eq_true]
    · exact and_iff_right hc
    · refine List.forall_mem_append.mpr ⟨List.forall_mem_append.mpr ⟨?_, ?_⟩, h.2⟩
      · exact fun d hd => h.1 d (by simp [hcs, hd])
      · exact isNamePart_of_mem_capitalize hname

/-- **A derived name is a name of members just when the template does not start with a digit.** Then
it is an identifier, and parameters and elements may have it; the blanks around the template do not
matter. -/
theorem isIdentifier_apply_iff {template a : String} {n : Naming} (h : ofText template = .ok n)
    (ha : isIdentifier a = true) :
    (isIdentifier (n.apply a) = true ↔ ¬ StartsWith Char.isDigit (Text.trim template)) ∧
    (IsMemberName (n.apply a) ↔ ¬ StartsWith Char.isDigit (Text.trim template)) := by
  obtain ⟨hwritable, htext⟩ := written_of_ofText h
  have hiff : isIdentifier (n.apply a) = true ↔ ¬ StartsWith Char.isDigit (Text.trim template) := by
    rw [← htext]
    cases n with
    | constant name hne => exact iff_of_true hwritable (not_startsWith_isDigit hwritable)
    | around lead trail => exact isIdentifier_apply_around_iff hwritable ha
  exact ⟨hiff, isMemberName_iff.trans hiff⟩

/-- A name that starts with a dollar sign, which has no capital, behind text and a digit. -/
theorem isIdentifier_apply_numbered :
    ofText "get1*_" = .ok (around "get1" "_") ∧ isIdentifier "$x" = true ∧
    isIdentifier ((around "get1" "_").apply "$x") = true ∧
    IsMemberName ((around "get1" "_").apply "$x") := by
  have hchars : ofChars? (Text.trimChars "get1*_".toList) = some (around "get1" "_") := by
    decide +kernel
  have hread : ofText "get1*_" = .ok (around "get1" "_") := by rw [ofText, hchars]
  have hname : isIdentifier "$x" = true := by decide +kernel
  have htrim : (Text.trim "get1*_").toList = 'g' :: "et1*_".toList := by decide +kernel
  have hstart : ¬ StartsWith Char.isDigit (Text.trim "get1*_") := by
    rw [startsWith_iff htrim]
    decide
  have hiff := isIdentifier_apply_iff hread hname
  exact ⟨hread, hname, hiff.1.mpr hstart, hiff.2.mpr hstart⟩

/-- The template of a digit and a star is read, and the name that it derives is no identifier. -/
theorem digit_template_derives_no_identifier :
    ofText "1*" = .ok (around "1" "") ∧ isIdentifier "value" = true ∧
    (around "1" "").apply "value" = "1Value" ∧ isIdentifier "1Value" = false ∧
    ¬ IsMemberName "1Value" := by
  have hchars : ofChars? (Text.trimChars "1*".toList) = some (around "1" "") := by decide +kernel
  have hnone : isIdentifier "1Value" = false := by decide +kernel
  refine ⟨by rw [ofText, hchars], by decide +kernel, by decide +kernel, hnone, ?_⟩
  rw [isMemberName_iff, hnone]
  exact Bool.false_ne_true

end Naming

end MemberEncoding
