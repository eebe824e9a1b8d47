import MemberEncoding.Naming
import MemberEncoding.Proofs.Text.Ascii

/-!
# MemberEncoding.Proofs.Naming.Detection

**Detection undoes derivation** (`detect_inverts_apply`). What is detected in a name derives that
name again, and an attribute's name is detected in what is derived from it, but for its first
letter: a template with text before the star capitalizes it, so that only a small letter is known to
have been there.

A name follows a template if the text of the template is left at both of its ends when the
attribute's characters are taken out of the middle (`between?_eq_some_iff`). At least one has to be
in the middle, which is why the two texts cannot overlap in the name.
-/

namespace MemberEncoding.Naming

open Text (IsAscii StartsWith lowerFirst startsWith_iff exists_cons_of_ne_empty toNat_toUpper_lt
  toNat_toLower_lt toUpper_toLower_of_isUpper toLower_of_isLower toLower_ne_of_isUpper upper_of_lt
  lower_of_lt isUpper_of_lt lowerFirst_of_isLower lowerFirst_ne_of_isUpper)

/-! ### Between two texts -/

/-- Between the texts stands what they enclose, if it is anything. -/
theorem between?_eq_some_iff {lead trail cs ds : List Char} :
    between? lead trail cs = some ds ↔ ds ≠ [] ∧ cs = lead ++ ds ++ trail := by
  simp only [between?, Option.ite_none_right_eq_some, Bool.and_eq_true, decide_eq_true_eq,
    List.isPrefixOf_iff_prefix, List.isSuffixOf_iff_suffix, Option.some.injEq]
  constructor
  · rintro ⟨⟨⟨hlength, rest, rfl⟩, hsuffix⟩, rfl⟩
    rw [List.length_append] at hlength
    -- The trail ends the rest behind the lead, since it is shorter than the rest.
    have hrest : trail <:+ rest :=
      List.suffix_of_suffix_length_le hsuffix (List.suffix_append lead rest) (by omega)
    obtain ⟨middle, rfl⟩ := hrest
    rw [List.length_append] at hlength
    have hcount : (lead ++ (middle ++ trail)).length - lead.length - trail.length
        = middle.length := by
      simp only [List.length_append]
      omega
    rw [List.drop_left, hcount, List.take_left]
    refine ⟨?_, (List.append_assoc ..).symm⟩
    rintro rfl
    simp at hlength
  · rintro ⟨hne, rfl⟩
    have hpos := List.length_pos_of_ne_nil hne
    have hcount : (lead ++ ds ++ trail).length - lead.length - trail.length = ds.length := by
      simp only [List.length_append]
      omega
    refine ⟨⟨⟨?_, ds ++ trail, (List.append_assoc ..).symm⟩, List.suffix_append _ trail⟩, ?_⟩
    · simp only [List.length_append]
      omega
    · rw [hcount, List.append_assoc, List.drop_left, List.take_left]

/-! ### What is detected -/

variable {lead trail m d s : String} {c : Char} {cs ds : List Char}

/-- What the characters between the texts are detected as. -/
theorem detect_around_eq_some_iff :
    (around lead trail).detect m = some d ↔
      ∃ ds, ds ≠ [] ∧ m.toList = lead.toList ++ ds ++ trail.toList ∧
        (if lead = "" then some (String.ofList ds) else (uncapitalize? ds).map String.ofList)
          = some d := by
  rw [detect]
  cases hbetween : between? lead.toList trail.toList m.toList with
  | none =>
    refine iff_of_false (fun h => by cases h) ?_
    rintro ⟨ds, hne, hm, -⟩
    rw [between?_eq_some_iff.mpr ⟨hne, hm⟩] at hbetween
    cases hbetween
  | some ds =>
    obtain ⟨hne, hm⟩ := between?_eq_some_iff.mp hbetween
    refine ⟨fun h => ⟨ds, hne, hm, h⟩, ?_⟩
    rintro ⟨ds', hne', hm', h⟩
    rw [between?_eq_some_iff.mpr ⟨hne', hm'⟩] at hbetween
    cases hbetween
    exact h

/-- Characters are detected between the texts that enclose them. -/
theorem detect_enclosed (hne : ds ≠ []) :
    (around lead trail).detect (lead ++ String.ofList ds ++ trail) =
      if lead = "" then some (String.ofList ds) else (uncapitalize? ds).map String.ofList := by
  have hbetween : between? lead.toList trail.toList (lead ++ String.ofList ds ++ trail).toList
      = some ds := between?_eq_some_iff.mpr ⟨hne, by simp⟩
  rw [detect, hbetween]

/-! ### Capitals of ASCII -/

theorem capitalize_cons (hc : c.toNat < 0x80) : capitalize (c :: cs) = c.toUpper :: cs := by
  rw [capitalize, upper_of_lt hc]
  rfl

theorem uncapitalize?_cons (hc : c.toNat < 0x80) :
    uncapitalize? (c :: cs) = if c.isUpper then some (c.toLower :: cs) else none := by
  rw [uncapitalize?, isUpper_of_lt hc, lower_of_lt hc]
  rfl

/-! ### Both ways -/

/-- What is detected in a name of ASCII derives it. -/
theorem apply_of_detect {n : Naming} (hm : IsAscii m) (h : n.detect m = some d) :
    d ≠ "" ∧ n.apply d = m := by
  cases n with
  | constant name hne =>
    rw [detect, Option.ite_none_right_eq_some] at h
    obtain ⟨rfl, h⟩ := h
    cases h
    exact ⟨hne, rfl⟩
  | around lead trail =>
    obtain ⟨ds, hne, hmiddle, hd⟩ := detect_around_eq_some_iff.mp h
    by_cases hlead : lead = ""
    · rw [if_pos hlead] at hd
      cases hd
      refine ⟨by simpa using hne, String.toList_inj.mp ?_⟩
      rw [hmiddle, apply, if_pos hlead]
      simp
    · rw [if_neg hlead] at hd
      obtain ⟨c, cs, rfl⟩ := List.exists_cons_of_ne_nil hne
      have hc : c.toNat < 0x80 := hm c (by simp [hmiddle])
      rw [uncapitalize?_cons hc] at hd
      by_cases hupper : c.isUpper = true
      · rw [if_pos hupper] at hd
        cases hd
        refine ⟨by simp, String.toList_inj.mp ?_⟩
        rw [hmiddle, apply, if_neg hlead, String.toList_ofList,
          capitalize_cons (toNat_toLower_lt hc), toUpper_toLower_of_isUpper hupper]
        simp
      · rw [if_neg hupper] at hd
        cases hd

/-- Without text before the star, the attribute's name is left as it is and detected. -/
theorem detect_apply_of_lead_eq_empty (trail : String) (hlead : lead = "") (hs : s ≠ "") :
    (around lead trail).detect ((around lead trail).apply s) = some s := by
  have hne : s.toList ≠ [] := by simpa using hs
  have hs' : s = String.ofList s.toList := String.ofList_toList.symm
  rw [apply, if_pos hlead, hs', detect_enclosed hne, if_pos hlead]

/-- With text before the star, a name that starts with a letter of ASCII is detected but for the
case of this letter, and no other name is. -/
theorem detect_apply_of_lead_ne_empty (trail : String) (hlead : lead ≠ "")
    (hs : s.toList = c :: cs) (hc : c.toNat < 0x80) :
    (around lead trail).detect ((around lead trail).apply s) =
      if c.isAlpha then some (lowerFirst s) else none := by
  rw [apply, if_neg hlead, hs, capitalize_cons hc, detect_enclosed (by simp), if_neg hlead,
    uncapitalize?_cons (toNat_toUpper_lt hc), Char.isUpper_toUpper_eq_isAlpha,
    Char.toLower_toUpper_eq_toLower]
  split
  · simp [lowerFirst, hs]
  · rfl

/-- **Detection and derivation undo each other,** within ASCII. What is detected in a name derives
it. In what a template with a star derives from an attribute's name, this name is detected just when
there is no text before the star or the name starts with a small letter; else a capital letter at
its start is detected as a small one, and without a letter at its start nothing is detected. -/
theorem detect_inverts_apply (n : Naming) :
    (∀ m, IsAscii m → ∀ d, n.detect m = some d → d ≠ "" ∧ n.apply d = m) ∧
    (n.isConstant = false → ∀ s, IsAscii s → s ≠ "" →
      (n.detect (n.apply s) = some s ↔ n.lead = "" ∨ StartsWith Char.isLower s) ∧
      (n.detect (n.apply s) ≠ some s →
        (StartsWith Char.isUpper s → n.detect (n.apply s) = some (lowerFirst s)) ∧
        (¬ StartsWith Char.isUpper s → n.detect (n.apply s) = none))) := by
  refine ⟨fun m hm d h => apply_of_detect hm h, ?_⟩
  intro hstar s hascii hne
  cases n with
  | constant name hname => cases hstar
  | around lead trail =>
    by_cases hlead : lead = ""
    · have hdetect := detect_apply_of_lead_eq_empty trail hlead hne
      exact ⟨iff_of_true hdetect (.inl hlead), fun h => absurd hdetect h⟩
    · obtain ⟨c, cs, hs⟩ := exists_cons_of_ne_empty hne
      have hc : c.toNat < 0x80 := hascii c (by simp [hs])
      have hdetect := detect_apply_of_lead_ne_empty trail hlead hs hc
      rw [startsWith_iff hs, startsWith_iff hs]
      by_cases hlower : c.isLower = true
      · have hsmall : (around lead trail).detect ((around lead trail).apply s) = some s := by
          rw [hdetect, if_pos (by simp [Char.isAlpha, hlower]), lowerFirst_of_isLower hs hlower]
        exact ⟨iff_of_true hsmall (.inr hlower), fun h => absurd hsmall h⟩
      · have hneither : ¬ (lead = "" ∨ c.isLower = true) := by simp [hlead, hlower]
        by_cases hupper : c.isUpper = true
        · rw [if_pos (by simp [Char.isAlpha, hupper])] at hdetect
          rw [hdetect]
          refine ⟨iff_of_false ?_ hneither, fun _ => ⟨fun _ => rfl, fun h => absurd hupper h⟩⟩
          exact fun h => lowerFirst_ne_of_isUpper hs hupper (Option.some.inj h)
        · rw [if_neg (by simp [Char.isAlpha, hupper, hlower])] at hdetect
          rw [hdetect]
          refine ⟨iff_of_false (by simp) hneither, fun _ => ⟨fun h => absurd h hupper, ?_⟩⟩
          exact fun _ => rfl

/-- Text on both sides that would overlap in the shortest names: a small letter comes back, a
capital one as a small one, and an underscore is not detected. -/
theorem detect_inverts_apply_accessor :
    let n : Naming := .around "get" "tX"
    (n.detect "getAtX" = some "a" ∧ "a" ≠ "" ∧ n.apply "a" = "getAtX") ∧
    (StartsWith Char.isLower "value" ∧ n.detect (n.apply "value") = some "value") ∧
    (n.detect (n.apply "Value") ≠ some "Value" ∧ n.detect (n.apply "Value") = some "value") ∧
    (n.detect (n.apply "_value") ≠ some "_value" ∧ n.detect (n.apply "_value") = none) := by
  intro n
  have hdetect : n.detect "getAtX" = some "a" := by decide +kernel
  have hsmall : StartsWith Char.isLower "value" := ⟨'v', by decide +kernel, by decide⟩
  have hcapital : StartsWith Char.isUpper "Value" := ⟨'V', by decide +kernel, by decide⟩
  have hnone : ¬ StartsWith Char.isUpper "_value" := by
    rintro ⟨c, hc, hupper⟩
    obtain rfl : '_' = c := Option.some.inj hc
    cases hupper
  have hvalue := (detect_inverts_apply n).2 rfl "value" (by simp [IsAscii]) (by decide)
  have hchanged : n.detect (n.apply "Value") ≠ some "Value" := by decide +kernel
  have hunderscore : n.detect (n.apply "_value") ≠ some "_value" := by decide +kernel
  have hValue := (detect_inverts_apply n).2 rfl "Value" (by simp [IsAscii]) (by decide)
  have h_value := (detect_inverts_apply n).2 rfl "_value" (by simp [IsAscii]) (by decide)
  obtain ⟨hne, happly⟩ := (detect_inverts_apply n).1 "getAtX" (by simp [IsAscii]) "a" hdetect
  exact ⟨⟨hdetect, hne, happly⟩, ⟨hsmall, hvalue.1.mpr (.inr hsmall)⟩,
    ⟨hchanged, (hValue.2 hchanged).1 hcapital⟩, hunderscore, (h_value.2 hunderscore).2 hnone⟩

end MemberEncoding.Naming
