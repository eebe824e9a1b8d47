import MemberEncoding.Naming
import MemberEncoding.Proofs.Text.Trimming

/-!
# MemberEncoding.Proofs.Naming

**Templates that can be written down** (`Naming.IsWritable`) are those that texts are read as, and
they are read again from their texts. They hold nothing but characters of names besides the star, so
there are no blanks to be trimmed and no other star to be found.
-/

namespace MemberEncoding.Naming

open Text (isBlank isNamePart isIdentifierChars isIdentifier isNamePart_of_mem trimChars_of_isTight
  isTight_of_forall isTight_of_isIdentifierChars isBlank_eq_false_of_isNamePart)

/-- A constant is an identifier; around a star stand characters of names. -/
def IsWritable : Naming → Prop
  | constant name _ => isIdentifier name = true
  | around lead trail =>
    (∀ c ∈ lead.toList, isNamePart c = true) ∧ ∀ c ∈ trail.toList, isNamePart c = true

/-- The star is in no identifier. -/
theorem star_not_mem {cs : List Char} (h : ∀ c ∈ cs, isNamePart c = true) : '*' ∉ cs :=
  fun hmem => absurd (h '*' hmem) (by decide)

theorem isIdentifierChars_star (before after : List Char) :
    isIdentifierChars (before ++ '*' :: after) = false := by
  cases h : isIdentifierChars (before ++ '*' :: after) with
  | false => rfl
  | true =>
    have hmem : '*' ∈ before ++ '*' :: after := by simp
    exact absurd (isNamePart_of_mem h hmem) (by decide)

/-! ### Reading characters -/

theorem toList_text_around (lead trail : String) :
    (around lead trail).text.toList = lead.toList ++ '*' :: trail.toList := by
  simp [text]

theorem ofChars?_constant {name : String} (hne : name ≠ "") (h : isIdentifier name = true) :
    ofChars? name.toList = some (constant name hne) := by
  have hid : isIdentifierChars name.toList = true := h
  simp [ofChars?, String.ofList_toList, hne, hid]

theorem ofChars?_around {lead trail : String} (hlead : ∀ c ∈ lead.toList, isNamePart c = true)
    (htrail : ∀ c ∈ trail.toList, isNamePart c = true) :
    ofChars? (lead.toList ++ '*' :: trail.toList) = some (around lead trail) := by
  have hconstant : ¬ (String.ofList (lead.toList ++ '*' :: trail.toList) ≠ "" ∧
      isIdentifierChars (lead.toList ++ '*' :: trail.toList) = true) := by
    rw [isIdentifierChars_star]
    exact fun h => Bool.false_ne_true h.2
  have hboth : (lead.toList.all isNamePart && trail.toList.all isNamePart) = true := by
    rw [Bool.and_eq_true, List.all_eq_true, List.all_eq_true]
    exact ⟨hlead, htrail⟩
  rw [ofChars?, dif_neg hconstant, Text.cutCharsFirst_append (star_not_mem hlead)]
  simp only [hboth, if_true, String.ofList_toList]

/-- What is read can be written down, as the characters that it is read from. -/
theorem written_of_ofChars? {cs : List Char} {n : Naming} (h : ofChars? cs = some n) :
    n.IsWritable ∧ n.text = String.ofList cs := by
  unfold ofChars? at h
  by_cases hconstant : String.ofList cs ≠ "" ∧ isIdentifierChars cs = true
  · rw [dif_pos hconstant] at h
    cases h
    refine ⟨?_, rfl⟩
    show isIdentifierChars (String.ofList cs).toList = true
    rw [String.toList_ofList]
    exact hconstant.2
  · rw [dif_neg hconstant] at h
    rcases hcut : Text.cutCharsFirst '*' cs with ⟨before, _ | after⟩
    · rw [hcut] at h
      cases h
    · rw [hcut] at h
      dsimp only at h
      by_cases hboth : (before.all isNamePart && after.all isNamePart) = true
      · rw [if_pos hboth] at h
        cases h
        rw [Bool.and_eq_true, List.all_eq_true, List.all_eq_true] at hboth
        refine ⟨by simpa [IsWritable] using hboth, String.toList_inj.mp ?_⟩
        rw [toList_text_around, Text.eq_append_of_cutCharsFirst hcut]
        simp
      · rw [if_neg hboth] at h
        cases h

/-! ### Reading texts -/

/-- What is read can be written down, as the text that it is read from but for blanks around it. -/
theorem written_of_ofText {s : String} {n : Naming} (h : ofText s = .ok n) :
    n.IsWritable ∧ n.text = Text.trim s := by
  unfold ofText at h
  cases hn : ofChars? (Text.trimChars s.toList) with
  | none =>
    rw [hn] at h
    cases h
  | some m =>
    rw [hn] at h
    cases h
    exact written_of_ofChars? hn

theorem isWritable_of_ofText {s : String} {n : Naming} (h : ofText s = .ok n) : n.IsWritable :=
  (written_of_ofText h).1

theorem text_ne_empty (n : Naming) : n.text ≠ "" := by
  cases n with
  | constant name hne => exact hne
  | around lead trail =>
    intro h
    have hcs := congrArg String.toList h
    rw [toList_text_around] at hcs
    simp at hcs

/-- A template that can be written down is read from its text. -/
theorem ofText_text {n : Naming} (h : n.IsWritable) : ofText n.text = .ok n := by
  cases n with
  | constant name hne =>
    have htrim : Text.trimChars name.toList = name.toList :=
      trimChars_of_isTight (isTight_of_isIdentifierChars h)
    rw [ofText, text, htrim, ofChars?_constant hne h]
  | around lead trail =>
    -- The text may start and end with the star, but it holds no blank at all.
    have hblank : ∀ c ∈ lead.toList ++ '*' :: trail.toList, isBlank c = false := by
      intro c hc
      rcases List.mem_append.mp hc with hc | hc
      · exact isBlank_eq_false_of_isNamePart (h.1 c hc)
      · rcases List.mem_cons.mp hc with rfl | hc
        · decide
        · exact isBlank_eq_false_of_isNamePart (h.2 c hc)
    rw [ofText, toList_text_around, trimChars_of_isTight (isTight_of_forall (by simp) hblank),
      ofChars?_around h.1 h.2]

/-- **Reading and writing templates undo each other.** A template that is read has the text that it
is read from, without the blanks around it. Of all templates, those are read from their texts that
are an identifier, or characters of names around a star. -/
theorem ofText_inverts_text :
    (∀ s n, ofText s = .ok n → n.text = Text.trim s) ∧
    ∀ n, ofText n.text = .ok n ↔ n.IsWritable :=
  ⟨fun _ _ h => (written_of_ofText h).2, fun _ => ⟨isWritable_of_ofText, ofText_text⟩⟩

/-- A template with blanks around it. -/
theorem ofText_inverts_text_spaced :
    ofText " with$*_2\n" = .ok (.around "with$" "_2") ∧
    (around "with$" "_2").text = Text.trim " with$*_2\n" ∧
    ofText (around "with$" "_2").text = .ok (.around "with$" "_2") := by
  have hchars : ofChars? (Text.trimChars " with$*_2\n".toList) = some (around "with$" "_2") := by
    decide +kernel
  have hread : ofText " with$*_2\n" = .ok (.around "with$" "_2") := by rw [ofText, hchars]
  have hwritable : (around "with$" "_2").IsWritable := by
    simp [IsWritable, isNamePart, Char.isAlphanum]
  exact ⟨hread, ofText_inverts_text.1 _ _ hread, (ofText_inverts_text.2 _).mpr hwritable⟩

end MemberEncoding.Naming
