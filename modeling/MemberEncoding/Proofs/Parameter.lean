import MemberEncoding.Parameter
import MemberEncoding.Proofs.Reading
import MemberEncoding.Proofs.TypeRef.RoundTrip

/-!
# MemberEncoding.Proofs.Parameter

**The short forms of parameters and type parameters.** Reading a line is described by what it is cut
into and what the pieces are read as (`Parameter.outcome_read_eq_ok_iff`,
`TypeParameter.outcome_read_eq_ok_iff`), and everything else is read off that. A short form is read
again in every scope in which its types are canonical: neither the colon nor the ampersand occurs in
a type, and no piece has blanks at its ends.
-/

namespace MemberEncoding

open Text (isIdentifier isNamePart_of_mem IsTight isTight_of_isIdentifierChars)
open TypeRef (Canonical isTight_text)

variable {s : Scope}

/-! ### Names -/

/-- A bearer accepts its name if that is an identifier. -/
theorem Bearer.check_eq_ok (bearer : Bearer) {name : String} (h : isIdentifier name = true) :
    bearer.check name = .ok ⟨h⟩ := by
  have hne : name ≠ "" := by
    rintro rfl
    cases h
  rw [Bearer.check, if_neg hne, dif_pos h]

/-- A name is refused because it is empty or because it is no identifier. -/
theorem Bearer.check_eq_error_iff {bearer : Bearer} {name : String} {e : Error} :
    bearer.check name = .error e ↔ name = "" ∧ e = .emptyName bearer ∨
      name ≠ "" ∧ isIdentifier name = false ∧ e = .invalidName bearer name := by
  rw [Bearer.check]
  by_cases hempty : name = ""
  · rw [if_pos hempty, Except.error.injEq]
    simp only [hempty, true_and, ne_eq, not_true_eq_false, false_and, or_false]
    exact eq_comm
  · rw [if_neg hempty]
    by_cases hidentifier : isIdentifier name = true
    · rw [dif_pos hidentifier]
      refine iff_of_false (fun h => by cases h) ?_
      rintro (⟨h, -⟩ | ⟨-, h, -⟩)
      · exact hempty h
      · exact Bool.eq_false_iff.mp h hidentifier
    · rw [dif_neg hidentifier, Except.error.injEq]
      simp only [hempty, false_and, ne_eq, not_false_eq_true, true_and, false_or]
      exact ⟨fun h => ⟨Bool.eq_false_iff.mpr hidentifier, h.symm⟩, fun h => h.2.symm⟩

theorem Bearer.category_of_check_eq_error {bearer : Bearer} {name : String} {e : Error}
    (h : bearer.check name = .error e) : e.category = .invalid := by
  rcases Bearer.check_eq_error_iff.mp h with ⟨-, rfl⟩ | ⟨-, -, rfl⟩ <;> rfl

theorem isTight_of_isIdentifier {name : String} (h : isIdentifier name = true) :
    IsTight name.toList :=
  isTight_of_isIdentifierChars h

theorem colon_not_mem {name : String} (h : isIdentifier name = true) : ':' ∉ name.toList :=
  fun hmem => absurd (isNamePart_of_mem h hmem) (by decide)

theorem ampersand_not_mem {t : TypeRef} (h : Canonical s t) : '&' ∉ t.text.toList :=
  fun hmem => absurd ((TypeRef.spells_text h).isTypeChar '&' hmem) (by decide)

/-! ### Parameters -/

namespace Parameter

theorem make_eq_ok_iff {name : String} {type : TypeRef} {p : Parameter} :
    make name type = .ok p ↔ p.name = name ∧ p.type = type := by
  rw [make, map_eq_ok_iff]
  constructor
  · intro h
    obtain ⟨h, -, rfl⟩ := h
    exact ⟨rfl, rfl⟩
  · intro h
    obtain ⟨rfl, rfl⟩ := h
    exact ⟨⟨p.identifier⟩, Bearer.check_eq_ok _ p.identifier, rfl⟩

/-- Every identifier names parameters, and nothing else does. -/
theorem exists_make_iff {name : String} {type : TypeRef} :
    (∃ p, make name type = .ok p) ↔ isIdentifier name = true := by
  constructor
  · rintro ⟨p, h⟩
    obtain ⟨rfl, -⟩ := make_eq_ok_iff.mp h
    exact p.identifier
  · exact fun h => ⟨⟨name, type, h⟩, make_eq_ok_iff.mpr ⟨rfl, rfl⟩⟩

/-- A line is a name, a colon and a type. -/
theorem outcome_read_eq_ok_iff {line : String} {p : Parameter} :
    (read s line).outcome = .ok p ↔
      ∃ text, Text.cutFirst ':' line = (p.name, some text) ∧
        (TypeRef.read s text).outcome = .ok p.type := by
  unfold read
  rcases Text.cutFirst ':' line with ⟨name, _ | text⟩
  · constructor
    · intro h
      cases h
    · intro h
      obtain ⟨text, h, -⟩ := h
      cases h
  · simp only [Reading.outcome_bind, Reading.outcome_of, bind_eq_ok_iff, make_eq_ok_iff]
    constructor
    · intro h
      obtain ⟨t, ht, rfl, rfl⟩ := h
      exact ⟨text, rfl, ht⟩
    · intro h
      obtain ⟨text', h, ht⟩ := h
      cases h
      exact ⟨p.type, ht, rfl, rfl⟩

theorem canonical_of_read {line : String} {p : Parameter} (h : (read s line).outcome = .ok p) :
    Canonical s p.type := by
  obtain ⟨text, -, htype⟩ := outcome_read_eq_ok_iff.mp h
  exact (TypeRef.canonical_of_read htype).1

theorem isTight_text {p : Parameter} (h : Canonical s p.type) : IsTight p.text.toList := by
  have hpair := (isTight_of_isIdentifier p.identifier).append (TypeRef.isTight_text h) [':', ' ']
  simpa [text] using hpair

/-- A parameter is read from its short form. -/
theorem read_text {p : Parameter} (h : Canonical s p.type) : (read s p.text).outcome = .ok p := by
  have hcut := Text.cutFirst_pair (colon_not_mem p.identifier)
    (isTight_of_isIdentifier p.identifier) (TypeRef.isTight_text h)
  exact outcome_read_eq_ok_iff.mpr ⟨p.type.text, hcut, TypeRef.read_text h⟩

/-- The lines that are not blank. -/
def solidLines (lines : List String) : List String := lines.filter fun l => !Text.allBlank l

theorem outcome_readLines_eq_ok_iff {lines : List String} {ps : List Parameter} :
    (readLines s lines).outcome = .ok ps ↔
      List.Forall₂ (fun line p => (read s line).outcome = .ok p) (solidLines lines) ps := by
  rw [readLines, Reading.outcome_mapM, mapM_eq_ok_iff]
  rfl

/-- Short forms are no blank lines. -/
theorem solid_of_mem_map_text {ps : List Parameter} (h : ∀ p ∈ ps, Canonical s p.type) :
    ∀ t ∈ ps.map text, Text.allBlank t = false := by
  intro t ht
  obtain ⟨p, hp, rfl⟩ := List.mem_map.mp ht
  exact Text.allBlank_eq_false_of_isTight (isTight_text (h p hp))

theorem solidLines_map_text {ps : List Parameter} (h : ∀ p ∈ ps, Canonical s p.type) :
    solidLines (ps.map text) = ps.map text := by
  refine List.filter_eq_self.mpr fun line hline => ?_
  rw [solid_of_mem_map_text h line hline]
  rfl

end Parameter

/-! ### Type parameters -/

/-- The types that are declared by name, without type arguments and with them. -/
theorem TypeRef.isNominal_iff {t : TypeRef} :
    t.isNominal = true ↔ (∃ r, t = .reference r) ∨ ∃ head args, t = .parameterized head args := by
  cases t <;> simp [TypeRef.isNominal]

namespace TypeParameter

theorem make_eq_ok_iff {name : String} {bounds : List TypeRef} {p : TypeParameter} :
    make name bounds = .ok p ↔ p.name = name ∧ p.bounds = bounds := by
  rw [make, bind_eq_ok_iff]
  constructor
  · intro h
    obtain ⟨h, -, hp⟩ := h
    split at hp
    · cases hp
    · cases hp
      exact ⟨rfl, rfl⟩
  · intro h
    obtain ⟨rfl, rfl⟩ := h
    refine ⟨⟨p.identifier⟩, Bearer.check_eq_ok _ p.identifier, ?_⟩
    split
    · rename_i b hb
      have hnominal := p.nominal b (List.mem_of_find?_eq_some hb)
      have hnot := List.find?_some hb
      rw [hnominal] at hnot
      cases hnot
    · rfl

/-- The text of a bound is that of a type declared by name. -/
theorem outcome_readBound_eq_ok_iff {name text : String} {b : TypeRef} :
    (readBound s name text).outcome = .ok b ↔
      (TypeRef.read s text).outcome = .ok b ∧ b.isNominal = true := by
  rw [readBound, Reading.outcome_bind, bind_eq_ok_iff]
  constructor
  · intro h
    obtain ⟨b', hb', h⟩ := h
    by_cases hn : b'.isNominal = true
    · rw [if_pos hn] at h
      cases h
      exact ⟨hb', hn⟩
    · rw [if_neg hn] at h
      cases h
  · intro h
    obtain ⟨hb, hn⟩ := h
    refine ⟨b, hb, ?_⟩
    rw [if_pos hn]
    rfl

/-- A line is a name, and behind a colon the bounds between ampersands. -/
theorem outcome_read_eq_ok_iff {line : String} {p : TypeParameter} :
    (read s line).outcome = .ok p ↔
      (Text.cutFirst ':' line = (p.name, none) ∧ p.bounds = []) ∨
      ∃ text, Text.cutFirst ':' line = (p.name, some text) ∧
        List.Forall₂ (fun piece b => (TypeRef.read s piece).outcome = .ok b)
          (Text.cutAll '&' text) p.bounds := by
  unfold read
  rcases Text.cutFirst ':' line with ⟨name, _ | text⟩
  · simp only [Reading.outcome_of, make_eq_ok_iff]
    constructor
    · intro h
      obtain ⟨rfl, hbounds⟩ := h
      exact .inl ⟨rfl, hbounds⟩
    · intro h
      rcases h with ⟨h, hbounds⟩ | ⟨text, h, -⟩
      · cases h
        exact ⟨rfl, hbounds⟩
      · cases h
  · simp only [Reading.outcome_bind, Reading.outcome_of, Reading.outcome_mapM, bind_eq_ok_iff,
      mapM_eq_ok_iff, make_eq_ok_iff, outcome_readBound_eq_ok_iff]
    constructor
    · intro h
      obtain ⟨bs, hbs, rfl, rfl⟩ := h
      exact .inr ⟨text, rfl, (forall₂_and_right.mp hbs).1⟩
    · intro h
      rcases h with ⟨h, -⟩ | ⟨text', h, hbs⟩
      · cases h
      · cases h
        exact ⟨p.bounds, forall₂_and_right.mpr ⟨hbs, p.nominal⟩, rfl, rfl⟩

theorem canonical_of_read {line : String} {p : TypeParameter}
    (h : (read s line).outcome = .ok p) : ∀ b ∈ p.bounds, Canonical s b := by
  rcases outcome_read_eq_ok_iff.mp h with ⟨-, hnone⟩ | ⟨text, -, hbounds⟩
  · rw [hnone]
    exact fun b hb => absurd hb List.not_mem_nil
  · exact forall_of_forall₂ hbounds fun _ _ hread => (TypeRef.canonical_of_read hread).1

/-- A line declares the name of what it is read as. -/
theorem declaredName_of_read {line : String} {p : TypeParameter}
    (h : (read s line).outcome = .ok p) : declaredName line = p.name := by
  rcases outcome_read_eq_ok_iff.mp h with ⟨hcut, -⟩ | ⟨text, hcut, -⟩
  · rw [declaredName, hcut]
  · rw [declaredName, hcut]

theorem text_of_bounds_eq_nil {p : TypeParameter} (h : p.bounds = []) : p.text = p.name := by
  rw [text, if_pos h]

theorem text_of_bounds_ne_nil {p : TypeParameter} (h : p.bounds ≠ []) :
    p.text = p.name ++ String.ofList [':', ' ']
      ++ (String.ofList [' ', '&', ' ']).intercalate (p.bounds.map TypeRef.text) := by
  rw [text, if_neg h]

/-- A type parameter is read from its short form. -/
theorem read_text {p : TypeParameter} (h : ∀ b ∈ p.bounds, Canonical s b) :
    (read s p.text).outcome = .ok p := by
  have hname := isTight_of_isIdentifier p.identifier
  have hcolon := colon_not_mem p.identifier
  by_cases hb : p.bounds = []
  · have hcut := Text.cutFirst_of_not_mem hcolon hname
    rw [outcome_read_eq_ok_iff, text_of_bounds_eq_nil hb]
    exact .inl ⟨hcut, hb⟩
  · have hne : p.bounds.map TypeRef.text ≠ [] := by simpa using hb
    have htight : ∀ piece ∈ p.bounds.map TypeRef.text, IsTight piece.toList := by
      intro piece hpiece
      obtain ⟨b, hbound, rfl⟩ := List.mem_map.mp hpiece
      exact isTight_text (h b hbound)
    have hampersand : ∀ piece ∈ p.bounds.map TypeRef.text, '&' ∉ piece.toList := by
      intro piece hpiece
      obtain ⟨b, hbound, rfl⟩ := List.mem_map.mp hpiece
      exact ampersand_not_mem (h b hbound)
    -- The bounds are cut off as one piece first, at the colon, and then at the ampersands.
    have hjoined := Text.isTight_intercalate hne htight (String.ofList [' ', '&', ' '])
    have hcut := Text.cutFirst_pair hcolon hname hjoined
    have hpieces := Text.cutAll_intercalate (by decide) hne hampersand htight
    rw [outcome_read_eq_ok_iff, text_of_bounds_ne_nil hb]
    refine .inr ⟨_, hcut, ?_⟩
    rw [hpieces, forall₂_map_self_iff]
    exact fun b hbound => TypeRef.read_text (h b hbound)

end TypeParameter

end MemberEncoding
