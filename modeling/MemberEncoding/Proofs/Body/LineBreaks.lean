import MemberEncoding.Proofs.Body.Uniqueness

/-!
# MemberEncoding.Proofs.Body.LineBreaks

**Line breaks in a compacted body.** The breaks of a body are terms of their own, for which there is
a space on the one line. But a literal is kept as it is, and in a literal a backslash protects any
character, a line break too. So the one line has the breaks that are escaped in literals
(`isEscapedBehind_of_mem_oneLiner`) and no other, and there is one just when a literal of the body
has one (`hasBreak_join_oneLiner_iff`).
-/

namespace MemberEncoding.Body

/-! ### Texts with line breaks -/

/-- There is a line break in the text. -/
def HasBreak (s : String) : Prop := ∃ c ∈ s.toList, isBreak c = true

instance (s : String) : Decidable (HasBreak s) :=
  decidable_of_iff (s.toList.any isBreak = true) List.any_eq_true

theorem isBreak_iff {c : Char} : isBreak c = true ↔ c = '\r' ∨ c = '\n' := by
  simp [isBreak]

theorem hasBreak_append {s t : String} : HasBreak (s ++ t) ↔ HasBreak s ∨ HasBreak t := by
  simp only [HasBreak, String.toList_append, List.mem_append, or_and_right, exists_or]

theorem hasBreak_join_iff {ts : List Term} : HasBreak (join ts) ↔ ∃ t ∈ ts, HasBreak t.text := by
  simp only [HasBreak, toList_join, charsOf, List.mem_flatMap]
  constructor
  · intro h
    obtain ⟨c, ⟨t, ht, hc⟩, hbreak⟩ := h
    exact ⟨t, ht, c, hc, hbreak⟩
  · intro h
    obtain ⟨t, ht, c, hc, hbreak⟩ := h
    exact ⟨c, ⟨t, ht, hc⟩, hbreak⟩

/-- A character with a property that no line break has is none. -/
theorem isBreak_eq_false {p : Char → Bool} (hr : p '\r' = false) (hn : p '\n' = false) {c : Char}
    (h : p c = true) : isBreak c = false := by
  rw [Bool.eq_false_iff]
  intro hbreak
  rcases isBreak_iff.mp hbreak with rfl | rfl
  · rw [hr] at h
    cases h
  · rw [hn] at h
    cases h

/-! ### Line breaks in literals -/

/-- The quote around the literals of a kind. -/
def Kind.quote? : Kind → Option Char
  | string => some '"'
  | char => some '\''
  | _ => none

/-- The term is a literal, and the character behind `before` is escaped in it. -/
def Term.IsEscapedBehind (t : Term) (before : List Char) : Prop :=
  ∃ q front, t.kind.quote? = some q ∧ IsContent q front ∧ before = q :: front ++ ['\\']

/-- The term is a literal with a line break in it. -/
def Term.HoldsBreak (t : Term) : Prop := t.kind.quote?.isSome = true ∧ HasBreak t.text

/-- In the content of a literal a line break stands behind the backslash that protects it. -/
theorem IsContent.exists_front {q : Char} {content : List Char} (h : IsContent q content)
    {tail before after : List Char} {c : Char} (hc : isBreak c = true) (htail : c ∉ tail)
    (hsplit : content ++ tail = before ++ c :: after) :
    ∃ front, IsContent q front ∧ before = front ++ ['\\'] := by
  induction h generalizing before with
  | nil =>
    rw [List.nil_append] at hsplit
    exact absurd (by simp [hsplit]) htail
  | plain hne hback hplain _ ih =>
    cases before with
    | nil =>
      cases hsplit
      rw [hc] at hplain
      cases hplain
    | cons d before =>
      rw [List.cons_append, List.cons_append, List.cons.injEq] at hsplit
      obtain ⟨rfl, hsplit⟩ := hsplit
      obtain ⟨front, hfront, rfl⟩ := ih hsplit
      exact ⟨_, .plain hne hback hplain hfront, rfl⟩
  | escaped _ ih =>
    -- The protected character may be the break, and the backslash is none.
    match before with
    | [] =>
      cases hsplit
      cases hc
    | [d] =>
      cases hsplit
      exact ⟨[], .nil, rfl⟩
    | d :: d' :: before =>
      simp only [List.cons_append, List.cons.injEq] at hsplit
      obtain ⟨rfl, rfl, hsplit⟩ := hsplit
      obtain ⟨front, hfront, rfl⟩ := ih hsplit
      exact ⟨_, .escaped hfront, rfl⟩

theorem IsLiteral.exists_front {q : Char} (hq : isBreak q = false) {closed : Bool}
    {before after : List Char} {c : Char} (hc : isBreak c = true)
    (h : IsLiteral q closed (before ++ c :: after)) :
    ∃ front, IsContent q front ∧ before = q :: front ++ ['\\'] := by
  obtain ⟨content, hcontent, hsplit⟩ := h
  have hne : c ≠ q := by
    rintro rfl
    rw [hc] at hq
    cases hq
  have htail : c ∉ if closed then [q] else [] := by
    cases closed <;> simp [hne]
  cases before with
  | nil => exact absurd (List.cons.inj hsplit).1 hne
  | cons d before =>
    rw [List.cons_append, List.cons_append, List.cons.injEq] at hsplit
    obtain ⟨rfl, hsplit⟩ := hsplit
    obtain ⟨front, hfront, rfl⟩ := hcontent.exists_front hc htail hsplit.symm
    exact ⟨front, hfront, rfl⟩

/-- A line break in a term is a term of its own, or it is escaped in a literal. -/
theorem isEscapedBehind_of_shape {t : Term} (h : t.kind.Shape t.text.toList)
    (hkind : t.kind ≠ .newline) {before after : List Char} {c : Char} (hc : isBreak c = true)
    (hsplit : t.text.toList = before ++ c :: after) : t.IsEscapedBehind before := by
  have hmem : c ∈ t.text.toList := by simp [hsplit]
  have hnot : ∀ {p : Char → Bool}, p '\r' = false → p '\n' = false → p c = true → False := by
    intro p hr hn hp
    rw [isBreak_eq_false hr hn hp] at hc
    cases hc
  cases hk : t.kind with
  | newline => exact absurd hk hkind
  | whitespace =>
    rw [hk] at h
    exact (hnot (by decide) (by decide) (h.2 c hmem)).elim
  | string =>
    rw [hk, hsplit] at h
    obtain ⟨closed, hliteral⟩ := h
    obtain ⟨front, hfront, hbefore⟩ := hliteral.exists_front (by decide) hc
    exact ⟨'"', front, by rw [hk]; rfl, hfront, hbefore⟩
  | char =>
    rw [hk, hsplit] at h
    obtain ⟨closed, hliteral⟩ := h
    obtain ⟨front, hfront, hbefore⟩ := hliteral.exists_front (by decide) hc
    exact ⟨'\'', front, by rw [hk]; rfl, hfront, hbefore⟩
  | word =>
    rw [hk] at h
    obtain ⟨d, rest, htext, hword⟩ := h
    rw [htext] at hmem
    rcases List.mem_cons.mp hmem with rfl | hrest
    · rcases hword with ⟨hstart, -⟩ | ⟨hdigit, -⟩
      · exact (hnot (by decide) (by decide) hstart).elim
      · exact (hnot (by decide) (by decide) hdigit).elim
    · rcases hword with ⟨-, hparts⟩ | ⟨-, hparts⟩
      · exact (hnot (by decide) (by decide) (hparts c hrest)).elim
      · exact (hnot (by decide) (by decide) (hparts c hrest)).elim
  | delimiter =>
    rw [hk] at h
    obtain ⟨d, htext, hd⟩ := h
    rw [htext, List.mem_singleton] at hmem
    exact (hnot (by decide) (by decide) (hmem ▸ hd)).elim
  | other =>
    rw [hk] at h
    obtain ⟨d, htext, hd⟩ := h
    rw [htext, List.mem_singleton] at hmem
    subst hmem
    simp [startsTerm, hc] at hd
  | custom label fresh =>
    rw [hk] at h
    exact h.elim

/-! ### The one line of a body -/

/-- A term of the one line is a space, or a term of the body that is not blank. -/
theorem eq_space_or_mem_of_mem_oneLiner {ts : List Term} {t : Term} (h : t ∈ oneLiner ts) :
    t = .space ∨ t ∈ ts ∧ t.isBlank = false := by
  cases ht : t.isBlank with
  | true =>
    have hcompaction : IsCompaction ts (oneLiner ts) := isCompaction_iff_eq_oneLiner.mpr rfl
    exact .inl (hcompaction.blank_eq_space t h ht)
  | false =>
    have hsolid : t ∈ solid (oneLiner ts) := List.mem_filter.mpr ⟨h, by simp [ht]⟩
    rw [solid_oneLiner] at hsolid
    exact .inr ⟨(List.mem_filter.mp hsolid).1, rfl⟩

theorem mem_oneLiner_of_not_isBlank {ts : List Term} {t : Term} (h : t ∈ ts)
    (ht : t.isBlank = false) : t ∈ oneLiner ts := by
  have hsolid : t ∈ solid ts := List.mem_filter.mpr ⟨h, by simp [ht]⟩
  rw [← solid_oneLiner] at hsolid
  exact (List.mem_filter.mp hsolid).1

/-- A body has something on its one line if it has a term that is not blank. -/
theorem oneLiner_ne_nil_iff {ts : List Term} : oneLiner ts ≠ [] ↔ ∃ t ∈ ts, t.isBlank = false := by
  constructor
  · intro h
    rcases oneLiner_cases ts with hnil | ⟨u, more, hu, hmem, -⟩
    · exact absurd hnil h
    · exact ⟨u, hmem, hu⟩
  · rintro ⟨t, ht, hblank⟩ hnil
    have hmem := mem_oneLiner_of_not_isBlank ht hblank
    rw [hnil] at hmem
    cases hmem

/-- Every line break on the one line is escaped in a literal. -/
theorem isEscapedBehind_of_mem_oneLiner {ts : List Term} (hshaped : AreShaped ts) {t : Term}
    (h : t ∈ oneLiner ts) {before after : List Char} {c : Char} (hc : isBreak c = true)
    (hsplit : t.text.toList = before ++ c :: after) : t.IsEscapedBehind before := by
  rcases eq_space_or_mem_of_mem_oneLiner h with rfl | ⟨hmem, hblank⟩
  · have hnot : ¬ HasBreak Term.space.text := by decide
    exact absurd ⟨c, by simp [hsplit], hc⟩ hnot
  · exact isEscapedBehind_of_shape (hshaped t hmem) (kind_ne_of_isBlank hblank).1 hc hsplit

theorem Term.HoldsBreak.isBlank {t : Term} (h : t.HoldsBreak) : t.isBlank = false := by
  obtain ⟨hquote, -⟩ := h
  rw [Term.isBlank]
  cases hk : t.kind with
  | newline | whitespace =>
    rw [hk] at hquote
    cases hquote
  | _ => rfl

/-- There is a line break on the one line just when there is one in a literal of the body. -/
theorem hasBreak_join_oneLiner_iff {ts : List Term} (hshaped : AreShaped ts) :
    HasBreak (join (oneLiner ts)) ↔ ∃ t ∈ ts, t.HoldsBreak := by
  rw [hasBreak_join_iff]
  constructor
  · intro h
    obtain ⟨t, ht, c, hc, hbreak⟩ := h
    obtain ⟨before, after, hsplit⟩ := List.append_of_mem hc
    obtain ⟨q, -, hq, -, -⟩ := isEscapedBehind_of_mem_oneLiner hshaped ht hbreak hsplit
    rcases eq_space_or_mem_of_mem_oneLiner ht with rfl | ⟨hmem, -⟩
    · cases hq
    · exact ⟨t, hmem, by rw [hq]; rfl, c, hc, hbreak⟩
  · intro h
    obtain ⟨t, ht, hholds⟩ := h
    exact ⟨t, mem_oneLiner_of_not_isBlank ht hholds.isBlank, hholds.2⟩

end MemberEncoding.Body
