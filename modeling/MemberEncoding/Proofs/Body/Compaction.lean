import MemberEncoding.Body.OneLine
import MemberEncoding.Proofs.Body.Segmentation

/-!
# MemberEncoding.Proofs.Body.Compaction

**A compacted body is read as it was compacted**, unless a literal was left open at the end of a
line and the body went on below (`terms_join_oneLiner_iff`). In place of the line break there is a
space then, and the literal does not stop before it.

Compaction keeps every term as it is, so all that can go wrong is that one of them could now be
longer. The only neighbour that a term may lose is a blank: at the end of the body there is nothing
in its place, and everywhere else a space, before which every term ends but an open literal.
-/

namespace MemberEncoding.Body

/-! ### Compacting from the end -/

/-- A body compacted but for a space before its first term that is not blank. -/
def compacted (ts : List Term) : List Term := ts.foldr glue []

theorem compacted_cons (t : Term) (ts : List Term) :
    compacted (t :: ts) = glue t (compacted ts) := rfl

theorem compacted_cons_of_not_isBlank {t : Term} (h : t.isBlank = false) (ts : List Term) :
    compacted (t :: ts) = t :: compacted ts := glue_of_not_isBlank h _

theorem glue_nil {t : Term} (h : t.isBlank = true) : glue t [] = [] := if_pos h

theorem glue_cons {t u : Term} (h : t.isBlank = true) (hu : u.isBlank = false) (ts : List Term) :
    glue t (u :: ts) = .space :: u :: ts := by
  rw [glue, if_pos h, if_neg (by simp [hu])]

theorem glue_space {t : Term} (h : t.isBlank = true) (ts : List Term) :
    glue t (.space :: ts) = .space :: ts := by
  rw [glue, if_pos h, if_pos Term.isBlank_space]

/-- There is nothing, or a term that is not blank comes first, or it comes after one space. -/
theorem compacted_cases (ts : List Term) :
    compacted ts = [] ∨ ∃ u more, u.isBlank = false ∧
      (compacted ts = u :: more ∨ compacted ts = .space :: u :: more) := by
  induction ts with
  | nil => exact .inl rfl
  | cons t ts ih =>
    cases ht : t.isBlank with
    | false => exact .inr ⟨t, compacted ts, ht, .inl (compacted_cons_of_not_isBlank ht ts)⟩
    | true =>
      rw [compacted_cons]
      rcases ih with h | ⟨u, more, hu, h | h⟩
      · rw [h]
        exact .inl (glue_nil ht)
      · rw [h]
        exact .inr ⟨u, more, hu, .inr (glue_cons ht hu more)⟩
      · rw [h]
        exact .inr ⟨u, more, hu, .inr (glue_space ht _)⟩

/-- A blank before a body leaves nothing if the rest is blank, and else one space. -/
theorem compacted_cons_of_isBlank {t : Term} (h : t.isBlank = true) (ts : List Term) :
    (compacted (t :: ts) = [] ∧ compacted ts = [] ∧ ∀ u ∈ ts, u.isBlank = true) ∨
      ∃ u more, u.isBlank = false ∧ u ∈ ts ∧ compacted (t :: ts) = .space :: u :: more ∧
        (compacted ts = u :: more ∨ compacted ts = .space :: u :: more) := by
  have hsolid : solid (compacted ts) = solid ts := solid_foldr_glue ts
  rw [compacted_cons]
  rcases compacted_cases ts with hts | ⟨u, more, hu, hts⟩
  · rw [hts] at hsolid ⊢
    refine .inl ⟨glue_nil h, rfl, ?_⟩
    simpa [solid] using hsolid.symm
  · have hmem : u ∈ solid ts := by
      rw [← hsolid]
      rcases hts with hts | hts <;> simp [hts, solid, hu]
    refine .inr ⟨u, more, hu, (List.mem_filter.mp hmem).1, ?_, hts⟩
    rcases hts with hts | hts
    · rw [hts, glue_cons h hu]
    · rw [hts, glue_space h]

/-! ### Neighbours -/

/-- No blank term comes out of a literal. -/
theorem Term.IsOpen.isBlank {t : Term} (h : t.IsOpen) : t.isBlank = false := by
  rcases h with ⟨h, -⟩ | ⟨h, -⟩ <;> simp [Term.isBlank, Kind.isBlank, h]

theorem kind_ne_of_isBlank {t : Term} (h : t.isBlank = false) :
    t.kind ≠ .newline ∧ t.kind ≠ .whitespace := by
  constructor <;> (intro hk; simp [Term.isBlank, Kind.isBlank, hk] at h)

theorem isMaximal_nil (t : Term) : t.IsMaximal [] := by
  simp [Term.IsMaximal, charsOf]

/-- One space is as long as it can be before a term that is not blank. -/
theorem isMaximal_space {u : Term} (h : u.isBlank = false) (ts : List Term) :
    Term.space.IsMaximal (u :: ts) := by
  simp [Term.IsMaximal, Term.IsOpen, Term.space, kind_ne_of_isBlank h]

theorem extendsWord_space (word : List Char) : extendsWord word ' ' = false := by
  cases word with
  | nil => rfl
  | cons c cs =>
    rw [extendsWord]
    split <;> rfl

/-- Before a space every term that is not blank ends, but for open literals. -/
theorem isMaximal_before_space {t : Term} (h : t.isBlank = false) (ts : List Term) :
    t.IsMaximal (.space :: ts) ↔ ¬ t.IsOpen := by
  constructor
  · intro hmaximal hopen
    rcases hmaximal.2.2.2 hopen with hnil | ⟨u, hu, hnewline⟩ | ⟨u, hu, hback⟩
    · cases hnil
    · cases hu
      cases hnewline
    · cases hu
      exact absurd hback (by decide)
  · intro hclosed
    refine ⟨fun hk => absurd hk (kind_ne_of_isBlank h).2, ?_, ?_, fun ho => absurd ho hclosed⟩
    · rintro - u hu
      cases hu
      decide
    · rintro - c hc
      cases hc
      exact extendsWord_space _

/-- A line ends, and a term that is not blank stands on a line below. -/
def GoesOnBelow (ts : List Term) : Prop :=
  ∃ n after, ts = n :: after ∧ n.kind = .newline ∧ ∃ u ∈ after, u.isBlank = false

theorem not_goesOnBelow_cons {u : Term} (h : u.isBlank = false) (ts : List Term) :
    ¬ GoesOnBelow (u :: ts) := by
  rintro ⟨n, after, hsplit, hn, -⟩
  cases hsplit
  exact (kind_ne_of_isBlank h).1 hn

/-- An open literal before a blank term stands at the end of its line. -/
theorem Term.IsOpen.kind_eq_newline {t b : Term} {ts : List Term} (h : t.IsOpen)
    (hmaximal : t.IsMaximal (b :: ts)) (hshape : b.kind.Shape b.text.toList)
    (hb : b.isBlank = true) : b.kind = .newline := by
  rcases hmaximal.2.2.2 h with hnil | ⟨u, hu, hnewline⟩ | ⟨u, hu, hback⟩
  · cases hnil
  · cases hu
    exact hnewline
  · cases hu
    obtain ⟨c, body, htext, hkind⟩ := hshape.exists_cons
    rw [hback] at htext
    cases htext
    rw [Term.isBlank, hkind] at hb
    exact absurd hb (by decide)

/-- A term that is not blank ends where it did, unless it is an open literal and the body goes on
below. -/
theorem isMaximal_compacted_iff {t : Term} {ts : List Term} (ht : t.isBlank = false)
    (hmaximal : t.IsMaximal ts) (hshapes : AreShaped ts) :
    t.IsMaximal (compacted ts) ↔ ¬ (t.IsOpen ∧ GoesOnBelow ts) := by
  cases ts with
  | nil =>
    have hnot : ¬ GoesOnBelow [] := by
      rintro ⟨n, after, hsplit, -⟩
      cases hsplit
    exact iff_of_true (isMaximal_nil t) fun h => hnot h.2
  | cons u ts =>
    cases hu : u.isBlank with
    | false =>
      rw [compacted_cons_of_not_isBlank hu]
      refine iff_of_true ⟨hmaximal.1, hmaximal.2.1, ?_, fun hopen => ?_⟩
        fun h => not_goesOnBelow_cons hu ts h.2
      · obtain ⟨c, body, htext, -⟩ := (areShaped_cons.mp hshapes).1.exists_cons
        simpa [charsOf_cons, htext] using hmaximal.2.2.1
      · -- Behind an open literal there is a lone backslash at most, and it stays alone.
        rcases hmaximal.2.2.2 hopen with hnil | ⟨n, hn, hnewline⟩ | ⟨v, hv, hback⟩
        · cases hnil
        · cases hn
          exact absurd hnewline (kind_ne_of_isBlank hu).1
        · cases hv
          exact .inr (.inr ⟨u, rfl, hback⟩)
    | true =>
      have hshape := (areShaped_cons.mp hshapes).1
      rcases compacted_cons_of_isBlank hu ts with ⟨hnil, -, hblank⟩ | ⟨v, more, hv, hmem, heq, -⟩
      · rw [hnil]
        refine iff_of_true (isMaximal_nil t) ?_
        rintro ⟨-, n, after, hsplit, -, w, hw, hsolid⟩
        cases hsplit
        rw [hblank w hw] at hsolid
        cases hsolid
      · rw [heq, isMaximal_before_space ht]
        refine not_congr ⟨fun hopen => ⟨hopen, u, ts, rfl, ?_, v, hmem, hv⟩, And.left⟩
        exact hopen.kind_eq_newline hmaximal hshape hu

/-! ### Bodies -/

/-- A literal is left open at the end of a line, and the body goes on below. -/
def BreaksLiteral (ts : List Term) : Prop :=
  ∃ before t next, ts = before ++ t :: next ∧ t.IsOpen ∧ GoesOnBelow next

theorem breaksLiteral_cons {t : Term} {ts : List Term} :
    BreaksLiteral (t :: ts) ↔ (t.IsOpen ∧ GoesOnBelow ts) ∨ BreaksLiteral ts := by
  constructor
  · rintro ⟨before, u, next, hsplit, hu⟩
    cases before with
    | nil =>
      cases hsplit
      exact .inl hu
    | cons v before =>
      cases hsplit
      exact .inr ⟨before, u, next, rfl, hu⟩
  · rintro (h | ⟨before, u, next, rfl, hu⟩)
    · exact ⟨[], t, ts, rfl, h⟩
    · exact ⟨t :: before, u, next, rfl, hu⟩

/-- The terms are those of their text. -/
def IsRead (ts : List Term) : Prop := IsSegmentation (charsOf ts) ts

theorem isRead_iff {ts : List Term} : IsRead ts ↔ termsOf (charsOf ts) = ts := by
  refine ⟨IsSegmentation.termsOf_eq, fun h => ?_⟩
  have hterms := isSegmentation_termsOf (charsOf ts)
  rwa [h] at hterms

theorem isRead_nil : IsRead [] := isRead_iff.mpr termsOf_nil

theorem isRead_cons {t : Term} {ts : List Term} :
    IsRead (t :: ts) ↔ t.kind.Shape t.text.toList ∧ t.IsMaximal ts ∧ IsRead ts := by
  rw [IsRead, isSegmentation_cons, charsOf_cons]
  simp [IsRead]

theorem isRead_space_cons {u : Term} (hu : u.isBlank = false) (ts : List Term) :
    IsRead (.space :: u :: ts) ↔ IsRead (u :: ts) := by
  have htext : Term.space.text.toList = [' '] := by decide
  have hshape : Term.space.kind.Shape Term.space.text.toList := by
    rw [htext]
    refine ⟨by simp, fun c hc => ?_⟩
    rw [List.mem_singleton.mp hc]
    decide
  rw [isRead_cons]
  exact ⟨fun h => h.2.2, fun h => ⟨hshape, isMaximal_space hu ts, h⟩⟩

/-- Terms that are read off a text are read again after compaction, unless a literal breaks. -/
theorem isRead_compacted_iff {ts : List Term} (h : IsRead ts) :
    IsRead (compacted ts) ↔ ¬ BreaksLiteral ts := by
  induction ts with
  | nil =>
    have hnot : ¬ BreaksLiteral [] := by
      rintro ⟨before, t, next, hsplit, -⟩
      simp at hsplit
    exact iff_of_true isRead_nil hnot
  | cons t ts ih =>
    obtain ⟨hshape, hmaximal, hts⟩ := isRead_cons.mp h
    rw [breaksLiteral_cons, not_or, ← ih hts]
    cases ht : t.isBlank with
    | false =>
      rw [compacted_cons_of_not_isBlank ht, isRead_cons,
        isMaximal_compacted_iff ht hmaximal hts.shaped]
      exact and_iff_right hshape
    | true =>
      have hclosed : ¬ (t.IsOpen ∧ GoesOnBelow ts) := by
        rintro ⟨hopen, -⟩
        rw [hopen.isBlank] at ht
        cases ht
      rw [and_iff_right hclosed]
      rcases compacted_cons_of_isBlank ht ts with
        ⟨hnil, hnil', -⟩ | ⟨u, more, hu, -, heq, hts' | hts'⟩
      · rw [hnil, hnil']
      · rw [heq, hts', isRead_space_cons hu]
      · rw [heq, hts']

theorem isRead_oneLiner_iff (ts : List Term) : IsRead (oneLiner ts) ↔ IsRead (compacted ts) := by
  have honeLiner : oneLiner ts = (compacted ts).dropWhile Term.isBlank := rfl
  rw [honeLiner]
  rcases compacted_cases ts with h | ⟨u, more, hu, h | h⟩
  · rw [h, List.dropWhile_nil]
  · rw [h, List.dropWhile_cons_of_neg (by simp [hu])]
  · rw [h, List.dropWhile_cons_of_pos Term.isBlank_space,
      List.dropWhile_cons_of_neg (by simp [hu]), isRead_space_cons hu]

/-- There is nothing, or a term of the body that is not blank comes first. -/
theorem oneLiner_cases (ts : List Term) :
    oneLiner ts = [] ∨ ∃ u more, u.isBlank = false ∧ u ∈ ts ∧ oneLiner ts = u :: more := by
  have hfirst : ∀ u more, u.isBlank = false → oneLiner ts = u :: more → u ∈ ts := by
    intro u more hu h
    have hsolid : u ∈ solid (oneLiner ts) := by simp [h, solid, hu]
    rw [solid_oneLiner] at hsolid
    exact (List.mem_filter.mp hsolid).1
  have honeLiner : oneLiner ts = (compacted ts).dropWhile Term.isBlank := rfl
  rcases compacted_cases ts with h | ⟨u, more, hu, h | h⟩
  · rw [honeLiner, h]
    exact .inl rfl
  · rw [h, List.dropWhile_cons_of_neg (by simp [hu])] at honeLiner
    exact .inr ⟨u, more, hu, hfirst u more hu honeLiner, honeLiner⟩
  · rw [h, List.dropWhile_cons_of_pos Term.isBlank_space,
      List.dropWhile_cons_of_neg (by simp [hu])] at honeLiner
    exact .inr ⟨u, more, hu, hfirst u more hu honeLiner, honeLiner⟩

/-- A compacted body has a text if there is anything in it. -/
theorem join_oneLiner_eq_empty_iff {ts : List Term} (h : AreShaped ts) :
    join (oneLiner ts) = "" ↔ oneLiner ts = [] := by
  rcases oneLiner_cases ts with hnil | ⟨u, more, -, hu, hcons⟩
  · rw [hnil]
    exact iff_of_true rfl rfl
  · obtain ⟨c, body, htext, -⟩ := (h u hu).exists_cons
    have hjoin : (join (oneLiner ts)).toList = c :: body ++ charsOf more := by
      rw [toList_join, hcons, charsOf_cons, htext]
    rw [← String.toList_inj, hjoin, hcons]
    exact iff_of_false (by simp) (by simp)

/-- **A compacted body is read as it was compacted**, just when no literal is left open at the end
of a line with the body going on below. -/
theorem terms_join_oneLiner_iff (text : String) :
    terms (join (oneLiner (terms text))) = oneLiner (terms text) ↔
      ¬ BreaksLiteral (terms text) := by
  have hread : IsRead (terms text) := by
    rw [isRead_iff, terms, charsOf_termsOf]
  rw [← isRead_compacted_iff hread, ← isRead_oneLiner_iff, isRead_iff, terms, toList_join]

/-- The apostrophe opens a literal that takes in the word on the next line. -/
example : terms (join (oneLiner (terms "don't\nstop"))) = [⟨.word, "don"⟩, ⟨.char, "'t stop"⟩] := by
  decide +kernel

end MemberEncoding.Body
