import MemberEncoding.Text.Blank
import MemberEncoding.Text.Identifier

/-!
# MemberEncoding.Proofs.Text.Trimming

**Cutting undoes joining.** Short forms put pieces together with a delimiter and blanks around it.
Cutting at the delimiter and trimming gives the pieces back as long as no piece holds the delimiter
and none has blanks at its ends (`IsTight`), which is how all texts of this library are written.
-/

namespace MemberEncoding.Text

/-! ### Blanks and names -/

/-- A blank stands in no identifier. -/
theorem isNamePart_eq_false_of_isBlank {c : Char} (h : isBlank c = true) :
    isNamePart c = false := by
  have hne : ∀ d : Char, isBlank d = false → c ≠ d := by
    rintro d hd rfl
    rw [h] at hd
    cases hd
  have hrange : c.toNat ≤ 0x20 ∨ 0x85 ≤ c.toNat := by
    simp only [isBlank, Bool.or_eq_true, Bool.and_eq_true, decide_eq_true_eq, beq_iff_eq] at h
    omega
  have halnum : ¬ c.isAlphanum = true := by
    show ¬ ((decide (65 ≤ c.val ∧ c.val ≤ 90) || (decide (97 ≤ c.val) && decide (c.val ≤ 122)))
      || (decide (48 ≤ c.val) && decide (c.val ≤ 57))) = true
    simp only [Bool.or_eq_true, Bool.and_eq_true, decide_eq_true_eq, UInt32.le_iff_toNat_le]
    show ¬ (((65 ≤ c.toNat ∧ c.toNat ≤ 90) ∨ (97 ≤ c.toNat ∧ c.toNat ≤ 122)) ∨
      (48 ≤ c.toNat ∧ c.toNat ≤ 57))
    omega
  simp [isNamePart, halnum, hne '_' (by decide), hne '$' (by decide)]

theorem isBlank_eq_false_of_isNamePart {c : Char} (h : isNamePart c = true) :
    isBlank c = false := by
  cases hc : isBlank c with
  | false => rfl
  | true => rw [isNamePart_eq_false_of_isBlank hc] at h; cases h

theorem isBlank_eq_false_of_isNameStart {c : Char} (h : isNameStart c = true) :
    isBlank c = false :=
  isBlank_eq_false_of_isNamePart (isNamePart_of_isNameStart h)

theorem isDigit_eq_false_of_isNameStart {c : Char} (h : isNameStart c = true) :
    c.isDigit = false := by
  simp only [isNameStart, Bool.or_eq_true, beq_iff_eq] at h
  rcases h with (h | rfl) | rfl
  · have halpha : (decide (65 ≤ c.val ∧ c.val ≤ 90) ||
        (decide (97 ≤ c.val) && decide (c.val ≤ 122))) = true := h
    simp only [Bool.or_eq_true, Bool.and_eq_true, decide_eq_true_eq,
      UInt32.le_iff_toNat_le] at halpha
    have hletter : (65 ≤ c.toNat ∧ c.toNat ≤ 90) ∨ (97 ≤ c.toNat ∧ c.toNat ≤ 122) := halpha
    show (decide (48 ≤ c.val) && decide (c.val ≤ 57)) = false
    simp only [Bool.and_eq_false_iff, decide_eq_false_iff_not, UInt32.le_iff_toNat_le]
    show ¬ 48 ≤ c.toNat ∨ ¬ c.toNat ≤ 57
    omega
  · decide
  · decide

/-- Digits are the characters of names that start none. -/
theorem isNameStart_iff {c : Char} :
    isNameStart c = true ↔ isNamePart c = true ∧ c.isDigit = false := by
  constructor
  · exact fun h => ⟨isNamePart_of_isNameStart h, isDigit_eq_false_of_isNameStart h⟩
  · rintro ⟨hpart, hdigit⟩
    simpa [isNamePart, isNameStart, Char.isAlphanum, hdigit] using hpart

/-- An identifier has a first character. -/
theorem isIdentifierChars_iff {cs : List Char} :
    isIdentifierChars cs = true ↔
      ∃ c ds, cs = c :: ds ∧ isNameStart c = true ∧ ∀ d ∈ ds, isNamePart d = true := by
  cases cs with
  | nil => simp [isIdentifierChars]
  | cons c ds =>
    simp only [isIdentifierChars, Bool.and_eq_true, List.all_eq_true]
    refine ⟨fun h => ⟨c, ds, rfl, h.1, h.2⟩, ?_⟩
    intro h
    obtain ⟨c', ds', h, hc, hds⟩ := h
    cases h
    exact ⟨hc, hds⟩

/-- Every character of an identifier may stand inside one. -/
theorem isNamePart_of_mem {cs : List Char} (h : isIdentifierChars cs = true) {c : Char}
    (hc : c ∈ cs) : isNamePart c = true := by
  obtain ⟨d, ds, rfl, hd, hds⟩ := isIdentifierChars_iff.mp h
  rcases List.mem_cons.mp hc with rfl | hc
  · exact isNamePart_of_isNameStart hd
  · exact hds c hc

/-! ### Runs of characters -/

variable {p : Char → Bool} {run rest : List Char}

/-- A run ends where a character that is none of it follows. -/
theorem takeWhile_run (hrun : ∀ c ∈ run, p c = true) (hrest : ∀ c ∈ rest.head?, p c = false) :
    (run ++ rest).takeWhile p = run := by
  rw [List.takeWhile_append_of_pos hrun]
  cases rest with
  | nil => simp
  | cons c rest =>
    have hc : ¬ p c = true := by simp [hrest c rfl]
    rw [List.takeWhile_cons_of_neg hc, List.append_nil]

theorem dropWhile_run (hrun : ∀ c ∈ run, p c = true) (hrest : ∀ c ∈ rest.head?, p c = false) :
    (run ++ rest).dropWhile p = rest := by
  rw [List.dropWhile_append_of_pos hrun]
  cases rest with
  | nil => rfl
  | cons c rest =>
    have hc : ¬ p c = true := by simp [hrest c rfl]
    rw [List.dropWhile_cons_of_neg hc]

/-- The characters after a run are none of it. -/
theorem head?_dropWhile {p : Char → Bool} {cs : List Char} :
    ∀ c ∈ (cs.dropWhile p).head?, p c = false := by
  intro c hc
  have h := List.head?_dropWhile_not p cs
  rw [Option.mem_def.mp hc] at h
  simpa using h

/-! ### Tight texts -/

/-- There is a first and a last character, and neither is blank. -/
structure IsTight (cs : List Char) : Prop where
  /-- The first character. -/
  first : ∃ c ∈ cs.head?, isBlank c = false
  /-- The last character. -/
  last : ∃ c ∈ cs.getLast?, isBlank c = false

/-- What stands between two tight texts does not matter. -/
theorem IsTight.append {before after : List Char} (hb : IsTight before) (ha : IsTight after)
    (middle : List Char) : IsTight (before ++ middle ++ after) := by
  obtain ⟨c, hc, hcb⟩ := hb.first
  obtain ⟨d, hd, hdb⟩ := ha.last
  refine ⟨⟨c, ?_, hcb⟩, ⟨d, ?_, hdb⟩⟩
  · rw [List.append_assoc, List.head?_append]
    simp only [Option.mem_def] at hc ⊢
    rw [hc]
    rfl
  · rw [List.getLast?_append]
    simp only [Option.mem_def] at hd ⊢
    rw [hd]
    rfl

/-- A text without blanks is tight. -/
theorem isTight_of_forall {cs : List Char} (hne : cs ≠ []) (h : ∀ c ∈ cs, isBlank c = false) :
    IsTight cs :=
  ⟨⟨cs.head hne, List.head_mem_head? hne, h _ (List.head_mem hne)⟩,
    ⟨cs.getLast hne, List.getLast_mem_getLast? hne, h _ (List.getLast_mem hne)⟩⟩

/-- Tight pieces are joined to a tight text. -/
theorem isTight_intercalate {pieces : List String} (hne : pieces ≠ [])
    (h : ∀ s ∈ pieces, IsTight s.toList) (separator : String) :
    IsTight (separator.intercalate pieces).toList := by
  induction pieces with
  | nil => exact absurd rfl hne
  | cons s pieces ih =>
    have hs := h s (List.mem_cons_self ..)
    by_cases hp : pieces = []
    · subst hp
      simpa using hs
    · have hrest := ih hp fun v hv => h v (List.mem_cons_of_mem s hv)
      rw [String.intercalate_cons_of_ne_nil hp, String.toList_append, String.toList_append]
      exact hs.append hrest separator.toList

theorem isTight_of_isIdentifierChars {cs : List Char} (h : isIdentifierChars cs = true) :
    IsTight cs := by
  refine isTight_of_forall ?_ fun c hc => isBlank_eq_false_of_isNamePart (isNamePart_of_mem h hc)
  rintro rfl
  cases h

/-- Trimming removes the blanks around a tight text, and no more. -/
theorem trimChars_pad {cs : List Char} (h : IsTight cs) (before after : List Char)
    (hb : ∀ c ∈ before, isBlank c = true) (ha : ∀ c ∈ after, isBlank c = true) :
    trimChars (before ++ cs ++ after) = cs := by
  obtain ⟨c, hc, hcb⟩ := h.first
  obtain ⟨d, hd, hdb⟩ := h.last
  have hfront : (before ++ (cs ++ after)).dropWhile isBlank = cs ++ after := by
    refine dropWhile_run hb fun x hx => ?_
    rw [List.head?_append, Option.mem_def.mp hc] at hx
    cases hx
    exact hcb
  have hback : (after.reverse ++ cs.reverse).dropWhile isBlank = cs.reverse := by
    refine dropWhile_run (fun x hx => ha x (List.mem_reverse.mp hx)) fun x hx => ?_
    rw [List.head?_reverse, Option.mem_def.mp hd] at hx
    cases hx
    exact hdb
  rw [trimChars, List.append_assoc, hfront, List.reverse_append, hback, List.reverse_reverse]

/-- A tight text is not blank. -/
theorem allBlank_eq_false_of_isTight {s : String} (h : IsTight s.toList) : allBlank s = false := by
  obtain ⟨c, hc, hblank⟩ := h.first
  rw [allBlank, List.all_eq_false]
  exact ⟨c, List.mem_of_mem_head? hc, by simp [hblank]⟩

theorem trimChars_of_isTight {cs : List Char} (h : IsTight cs) : trimChars cs = cs := by
  simpa using trimChars_pad h [] [] (by simp) (by simp)

/-! ### Cutting -/

/-- The blank that short forms put next to delimiters. -/
theorem isBlank_of_mem_space : ∀ c ∈ [' '], isBlank c = true := by
  intro c hc
  rw [List.mem_singleton.mp hc]
  decide

/-- A name and what follows it after a delimiter and a blank come back as they are. -/
theorem cutFirst_pair {d : Char} {name rest : String} (hd : d ∉ name.toList)
    (hname : IsTight name.toList) (hrest : IsTight rest.toList) :
    cutFirst d (name ++ String.ofList [d, ' '] ++ rest) = (name, some rest) := by
  have hcs : (name ++ String.ofList [d, ' '] ++ rest).toList
      = name.toList ++ d :: (' ' :: rest.toList) := by
    simp
  have hblank : trimChars (' ' :: rest.toList) = rest.toList := by
    simpa using trimChars_pad hrest [' '] [] isBlank_of_mem_space (by simp)
  simp only [cutFirst, hcs, cutCharsFirst_append hd, trimChars_of_isTight hname, Option.map_some,
    hblank, String.ofList_toList]

/-- A text without the delimiter is a name alone. -/
theorem cutFirst_of_not_mem {d : Char} {name : String} (hd : d ∉ name.toList)
    (hname : IsTight name.toList) : cutFirst d name = (name, none) := by
  simp only [cutFirst, cutCharsFirst_of_not_mem hd, trimChars_of_isTight hname, Option.map_none,
    String.ofList_toList]

/-- The pieces between delimiters with a blank on either side, behind blanks of their own. -/
theorem map_trimChars_splitOn_intercalate {d : Char} (hd : isBlank d = false) {pieces : List String}
    (hne : pieces ≠ []) (hmem : ∀ s ∈ pieces, d ∉ s.toList)
    (htight : ∀ s ∈ pieces, IsTight s.toList) (before : List Char)
    (hb : ∀ c ∈ before, isBlank c = true) :
    ((before ++ [' ', d, ' '].intercalate (pieces.map String.toList)).splitOn d).map trimChars
      = pieces.map String.toList := by
  have hdb : d ∉ before := by
    intro h
    rw [hb d h] at hd
    cases hd
  induction pieces generalizing before with
  | nil => exact absurd rfl hne
  | cons s pieces ih =>
    have hs := hmem s (List.mem_cons_self ..)
    have hst := htight s (List.mem_cons_self ..)
    cases pieces with
    | nil =>
      have hnot : d ∉ before ++ s.toList := by simp [hdb, hs]
      have htrim : trimChars (before ++ s.toList) = s.toList := by
        simpa using trimChars_pad hst before [] hb (by simp)
      simp only [List.map_cons, List.map_nil, List.intercalate_singleton,
        List.splitOn_eq_singleton hnot, htrim]
    | cons u pieces =>
      have hspace : d ≠ ' ' := by
        rintro rfl
        exact absurd hd (by decide)
      have hnot : d ∉ before ++ s.toList ++ [' '] := by simp [hdb, hs, hspace]
      have hcs : before ++ [' ', d, ' '].intercalate ((s :: u :: pieces).map String.toList)
          = (before ++ s.toList ++ [' '])
            ++ d :: ([' '] ++ [' ', d, ' '].intercalate ((u :: pieces).map String.toList)) := by
        simp only [List.map_cons, List.intercalate_cons_cons]
        simp
      -- The blank behind the delimiter goes in front of the next piece.
      have hrest := ih (by simp) (fun v hv => hmem v (List.mem_cons_of_mem _ hv))
        (fun v hv => htight v (List.mem_cons_of_mem _ hv)) [' '] isBlank_of_mem_space
        (by simpa using hspace)
      rw [hcs, List.splitOn_append_cons_self_of_not_mem hnot, List.map_cons, hrest,
        trimChars_pad hst before [' '] hb isBlank_of_mem_space]
      rfl

/-- Texts joined by a delimiter with a blank on either side come back as they are. -/
theorem cutAll_intercalate {d : Char} (hd : isBlank d = false) {pieces : List String}
    (hne : pieces ≠ []) (hmem : ∀ s ∈ pieces, d ∉ s.toList)
    (htight : ∀ s ∈ pieces, IsTight s.toList) :
    cutAll d ((String.ofList [' ', d, ' ']).intercalate pieces) = pieces := by
  have h := map_trimChars_splitOn_intercalate hd hne hmem htight [] (by simp)
  rw [List.nil_append] at h
  have hmap : cutAll d ((String.ofList [' ', d, ' ']).intercalate pieces)
      = (pieces.map String.toList).map String.ofList := by
    rw [← h, List.map_map, cutAll, String.toList_intercalate, String.toList_ofList]
    rfl
  rw [hmap, List.map_map]
  simp [Function.comp_def]

end MemberEncoding.Text
