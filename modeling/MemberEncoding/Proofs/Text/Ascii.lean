import Mathlib
import MemberEncoding.Proofs.Text.Trimming
import MemberEncoding.Text.Case

/-!
# MemberEncoding.Proofs.Text.Ascii

**Letter case within ASCII.** Characters of ASCII change their case without the tables, and stay in
ASCII. To be in upper case, in lower case or a character of names is to be of ASCII, so that a
template or a text of such characters is all about the case of ASCII.

The laws of letter case for a single character (`Char.toUpper_toLower_eq_toUpper` and its kin) are
re-exported by no part of Mathlib that is smaller than the whole, which is why all of it is imported
here and in no other module.
-/

namespace MemberEncoding.Text

/-- All characters of the text are of ASCII. -/
def IsAscii (s : String) : Prop := ∀ c ∈ s.toList, c.toNat < 0x80

/-- The text starts with a character of this kind. -/
def StartsWith (kind : Char → Bool) (s : String) : Prop := ∃ c ∈ s.toList.head?, kind c = true

/-- The text with its first letter in lower case, as far as ASCII goes. -/
def lowerFirst (s : String) : String := String.ofList (s.toList.modifyHead Char.toLower)

variable {c : Char}

/-! ### First characters -/

theorem startsWith_iff {kind : Char → Bool} {s : String} {cs : List Char} (h : s.toList = c :: cs) :
    StartsWith kind s ↔ kind c = true := by
  simp [StartsWith, h]

theorem exists_cons_of_ne_empty {s : String} (h : s ≠ "") : ∃ c cs, s.toList = c :: cs := by
  cases hs : s.toList with
  | nil => exact absurd (String.toList_inj.mp hs) h
  | cons c cs => exact ⟨c, cs, rfl⟩

/-! ### Characters of ASCII -/

theorem toNat_lt_of_isAlpha (h : c.isAlpha = true) : c.toNat < 0x80 := by
  simp only [Char.isAlpha, Char.isUpper, Char.isLower, Bool.or_eq_true, Bool.and_eq_true,
    decide_eq_true_eq, ge_iff_le, UInt32.le_iff_toNat_le] at h
  have hletter : (65 ≤ c.toNat ∧ c.toNat ≤ 90) ∨ (97 ≤ c.toNat ∧ c.toNat ≤ 122) := h
  omega

theorem toNat_lt_of_isNamePart (h : isNamePart c = true) : c.toNat < 0x80 := by
  simp only [isNamePart, Char.isAlphanum, Bool.or_eq_true, beq_iff_eq] at h
  rcases h with ((h | h) | rfl) | rfl
  · exact toNat_lt_of_isAlpha h
  · have hdigit : 48 ≤ c.toNat ∧ c.toNat ≤ 57 := Char.isDigit_iff_toNat.mp h
    omega
  · decide
  · decide

theorem toUpper_eq_of_not_isAlpha (h : ¬ c.isAlpha = true) : c.toUpper = c :=
  Char.toUpper_eq_of_not_isLower fun hlower => h (by simp [Char.isAlpha, hlower])

theorem toLower_eq_of_not_isAlpha (h : ¬ c.isAlpha = true) : c.toLower = c :=
  Char.toLower_eq_of_not_isUpper fun hupper => h (by simp [Char.isAlpha, hupper])

/-- ASCII is left by no change of case. -/
theorem toNat_toUpper_lt (h : c.toNat < 0x80) : c.toUpper.toNat < 0x80 := by
  by_cases hletter : c.isAlpha = true
  · exact toNat_lt_of_isAlpha (by rw [Char.isAlpha_toUpper_eq_isAlpha, hletter])
  · rwa [toUpper_eq_of_not_isAlpha hletter]

theorem toNat_toLower_lt (h : c.toNat < 0x80) : c.toLower.toNat < 0x80 := by
  by_cases hletter : c.isAlpha = true
  · exact toNat_lt_of_isAlpha (by rw [Char.isAlpha_toLower_eq_isAlpha, hletter])
  · rwa [toLower_eq_of_not_isAlpha hletter]

/-- A capital letter is got back from its small letter. -/
theorem toUpper_toLower_of_isUpper (h : c.isUpper = true) : c.toLower.toUpper = c := by
  rw [Char.toUpper_toLower_eq_toUpper]
  exact Char.toUpper_eq_of_not_isLower (Char.not_isLower_of_isUpper h)

theorem toLower_of_isLower (h : c.isLower = true) : c.toLower = c :=
  Char.toLower_eq_of_not_isUpper (Char.not_isUpper_of_isLower h)

theorem toLower_ne_of_isUpper (h : c.isUpper = true) : c.toLower ≠ c := by
  intro hc
  have hlower : c.toLower.isUpper = false := Char.isUpper_toLower_eq_false c
  rw [hc, h] at hlower
  cases hlower

theorem lowerFirst_of_isLower {s : String} {cs : List Char} (hs : s.toList = c :: cs)
    (h : c.isLower = true) : lowerFirst s = s := by
  rw [lowerFirst, hs, List.modifyHead_cons, toLower_of_isLower h, ← hs, String.ofList_toList]

theorem lowerFirst_ne_of_isUpper {s : String} {cs : List Char} (hs : s.toList = c :: cs)
    (h : c.isUpper = true) : lowerFirst s ≠ s := by
  intro heq
  have hcs := congrArg String.toList heq
  rw [lowerFirst, String.toList_ofList, hs, List.modifyHead_cons] at hcs
  exact toLower_ne_of_isUpper h (List.cons.inj hcs).1

/-- A character of names stays one in upper case. -/
theorem isNamePart_toUpper (h : isNamePart c = true) : isNamePart c.toUpper = true := by
  by_cases hletter : c.isAlpha = true
  · have hupper : c.toUpper.isAlpha = true := by rw [Char.isAlpha_toUpper_eq_isAlpha, hletter]
    simp [isNamePart, Char.isAlphanum, hupper]
  · rwa [toUpper_eq_of_not_isAlpha hletter]

/-- Only characters of names become characters of names in upper case. -/
theorem isNamePart_of_toUpper (h : isNamePart c.toUpper = true) : isNamePart c = true := by
  by_cases hletter : c.isAlpha = true
  · simp [isNamePart, Char.isAlphanum, hletter]
  · rwa [toUpper_eq_of_not_isAlpha hletter] at h

end MemberEncoding.Text
