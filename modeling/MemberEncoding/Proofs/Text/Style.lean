import MemberEncoding.Proofs.Text.Trimming
import MemberEncoding.Text.Style

/-!
# MemberEncoding.Proofs.Text.Style

**What is written without style sequences stays as it is as long as nothing in it starts one.** A
text without escapes is *unstyled*: it is not changed itself, and what follows it is changed as it
would be alone (`plain_append`). Names, numbers and fixed wordings are unstyled, and so is what is
put together from them.

A character that is in no style sequence stays in any case (`mem_plain_iff`).
-/

namespace MemberEncoding.Text

/-- The text has no escapes, with which style sequences start. -/
def IsUnstyled (s : String) : Prop := '\x1b' ∉ s.toList

instance (s : String) : Decidable (IsUnstyled s) :=
  inferInstanceAs (Decidable ('\x1b' ∉ s.toList))

variable {s t : String}

/-- Characters without an escape have no bearing on those after them. -/
theorem plainFrom_append {cs : List Char} (h : '\x1b' ∉ cs) (ds : List Char) :
    plainFrom 0 (cs ++ ds) = cs ++ plainFrom 0 ds := by
  induction cs with
  | nil => rfl
  | cons c cs ih =>
    have hc : c ≠ '\x1b' := fun e => h (e ▸ List.mem_cons_self)
    have hcs : '\x1b' ∉ cs := fun hmem => h (List.mem_cons_of_mem c hmem)
    rw [List.cons_append, plainFrom, afterStyle?_eq_none hc]
    show c :: plainFrom 0 (cs ++ ds) = _
    rw [ih hcs, List.cons_append]

theorem plain_append (h : IsUnstyled s) (t : String) : plain (s ++ t) = s ++ plain t := by
  rw [plain, String.toList_append, plainFrom_append h, String.ofList_append, String.ofList_toList]
  rfl

theorem plain_of_isUnstyled (h : IsUnstyled s) : plain s = s := by
  rw [plain, plainFrom_of_not_mem h, String.ofList_toList]

/-! ### Unstyled texts -/

theorem IsUnstyled.append (hs : IsUnstyled s) (ht : IsUnstyled t) : IsUnstyled (s ++ t) := by
  intro hmem
  rw [String.toList_append, List.mem_append] at hmem
  exact hmem.elim hs ht

theorem isUnstyled_ofList {cs : List Char} (h : '\x1b' ∉ cs) : IsUnstyled (String.ofList cs) := by
  rwa [IsUnstyled, String.toList_ofList]

/-- What is in a joined text is in the separator or in a piece. -/
theorem mem_intercalate {c : Char} {pieces : List String}
    (h : c ∈ (s.intercalate pieces).toList) :
    c ∈ s.toList ∨ ∃ piece ∈ pieces, c ∈ piece.toList := by
  induction pieces with
  | nil => exact absurd h List.not_mem_nil
  | cons piece pieces ih =>
    by_cases hnil : pieces = []
    · rw [hnil, String.intercalate_singleton] at h
      exact .inr ⟨piece, List.mem_cons_self, h⟩
    · rw [String.intercalate_cons_of_ne_nil hnil] at h
      simp only [String.toList_append, List.mem_append] at h
      rcases h with (h | h) | h
      · exact .inr ⟨piece, List.mem_cons_self, h⟩
      · exact .inl h
      · rcases ih h with h | ⟨p, hp, h⟩
        · exact .inl h
        · exact .inr ⟨p, List.mem_cons_of_mem piece hp, h⟩

theorem isUnstyled_intercalate (hs : IsUnstyled s) {pieces : List String}
    (h : ∀ piece ∈ pieces, IsUnstyled piece) : IsUnstyled (s.intercalate pieces) := by
  intro hmem
  rcases mem_intercalate hmem with hmem | ⟨piece, hpiece, hmem⟩
  · exact hs hmem
  · exact h piece hpiece hmem

/-- Digits are no escapes. -/
theorem not_mem_toDigits {b : Nat} (hb : 1 < b) (n : Nat) : '\x1b' ∉ b.toDigits n := by
  have hdigit : ∀ d : Nat, '\x1b' ≠ d.digitChar := fun d => (Nat.digitChar_ne _ (by decide)).symm
  induction n using Nat.strongRecOn with
  | ind n ih =>
    intro hmem
    rw [Nat.toDigits_eq_if hb] at hmem
    by_cases hn : n < b
    · rw [if_pos hn, List.mem_singleton] at hmem
      exact hdigit n hmem
    · rw [if_neg hn, List.mem_append, List.mem_singleton] at hmem
      have hless : n / b < n := Nat.div_lt_self (by omega) hb
      exact hmem.elim (ih (n / b) hless) (hdigit _)

theorem isUnstyled_toString (n : Nat) : IsUnstyled (toString n) :=
  isUnstyled_ofList (not_mem_toDigits (by decide) n)

theorem isUnstyled_of_isIdentifier (h : isIdentifier s = true) : IsUnstyled s := by
  intro hmem
  have hpart := isNamePart_of_mem h hmem
  revert hpart
  decide

/-! ### Characters that stay -/

/-- The character is in no style sequence. -/
def IsOutsideStyles (c : Char) : Prop :=
  c ≠ '\x1b' ∧ c ≠ '[' ∧ isStyleParameter c = false ∧ c.isAlpha = false

instance (c : Char) : Decidable (IsOutsideStyles c) :=
  inferInstanceAs (Decidable (_ ∧ _))

/-- What is left out are some characters, and all of them may be in style sequences. -/
theorem exists_style {cs rest : List Char} (h : afterStyle? cs = some rest) :
    ∃ d style, cs = d :: style ++ rest ∧ ∀ c ∈ d :: style, ¬ IsOutsideStyles c := by
  unfold afterStyle? at h
  split at h
  · rename_i ds
    split at h
    · rename_i c more hmore
      have hsplit : ds.takeWhile isStyleParameter ++ c :: more = ds := by
        rw [← hmore]
        exact List.takeWhile_append_dropWhile
      by_cases hc : c.isAlpha = true
      · rw [if_pos hc] at h
        cases h
        refine ⟨'\x1b', '[' :: ds.takeWhile isStyleParameter ++ [c], ?_, ?_⟩
        · simp only [List.cons_append, List.append_assoc, List.nil_append, hsplit]
        · intro d hd houtside
          obtain ⟨hescape, hbracket, hparameter, halpha⟩ := houtside
          simp only [List.cons_append, List.mem_cons, List.mem_append, List.not_mem_nil,
            or_false] at hd
          rcases hd with rfl | rfl | hd | rfl
          · exact hescape rfl
          · exact hbracket rfl
          · have hparam := List.all_eq_true.mp List.all_takeWhile d hd
            rw [hparameter] at hparam
            cases hparam
          · rw [hc] at halpha
            cases halpha
      · rw [if_neg hc] at h
        cases h
    · cases h
  · cases h

theorem plainFrom_eq_drop (skip : Nat) (cs : List Char) :
    plainFrom skip cs = plainFrom 0 (cs.drop skip) := by
  induction cs generalizing skip with
  | nil => cases skip <;> rfl
  | cons c cs ih =>
    cases skip with
    | zero => rfl
    | succ skip =>
      rw [plainFrom, List.drop_succ_cons]
      exact ih skip

/-- What is in no style sequence stays when these are left out, and nothing comes in. -/
theorem mem_plainFrom_iff {c : Char} (hc : IsOutsideStyles c) (cs : List Char) :
    c ∈ plainFrom 0 cs ↔ c ∈ cs := by
  -- A style sequence is left out as a whole, so the induction is on the length.
  induction hn : cs.length using Nat.strongRecOn generalizing cs with
  | ind n ih =>
    cases cs with
    | nil => rfl
    | cons d ds =>
      have hless : ∀ rest : List Char, rest.length ≤ ds.length → rest.length < n := by
        intro rest hrest
        rw [← hn]
        exact Nat.lt_succ_of_le hrest
      rw [plainFrom]
      cases hstyle : afterStyle? (d :: ds) with
      | none =>
        simp only [List.mem_cons, ih _ (hless ds (Nat.le_refl _)) ds rfl]
      | some rest =>
        obtain ⟨d', style, hsplit, hnone⟩ := exists_style hstyle
        cases hsplit
        have hout : c ∉ d :: style := fun hmem => hnone c hmem hc
        have hdrop : (style ++ rest).drop ((style ++ rest).length - rest.length) = rest := by
          simp
        show c ∈ plainFrom ((style ++ rest).length - rest.length) (style ++ rest) ↔
          c ∈ d :: style ++ rest
        rw [plainFrom_eq_drop, hdrop, ih _ (hless rest (by simp)) rest rfl, List.mem_append]
        exact (or_iff_right hout).symm

/-- What is in no style sequence is in the plain text just when it is in the text. -/
theorem mem_plain_iff {c : Char} (hc : IsOutsideStyles c) (s : String) :
    c ∈ (plain s).toList ↔ c ∈ s.toList := by
  rw [plain, String.toList_ofList, mem_plainFrom_iff hc]

end MemberEncoding.Text
