import Mathlib.Data.List.TakeWhile
import MemberEncoding.Body.Segmentation
import MemberEncoding.Proofs.Text.Trimming

/-!
# MemberEncoding.Proofs.Body.Segmentation

**The body lexer finds the segmentation of a text, and there is no other**
(`isSegmentation_iff_eq_terms`).

One term is settled on characters first. What the lexer cuts off has the shape of its kind and
cannot be longer (`lexeme_spec`), and whatever has a shape and cannot be longer is what the lexer
cuts off (`lexeme_append_of_ends`). That a term cannot be longer is a condition on the characters
behind it (`Kind.EndsBefore`), and among terms that have their shapes it is the condition on
neighbours that segmentations ask for (`isMaximal_iff`), since the first character of a term tells
its kind.
-/

namespace MemberEncoding.Body

open Text (isNameStart isNamePart isDigit_eq_false_of_isNameStart takeWhile_run dropWhile_run
  head?_dropWhile)

/-! ### The first character of a term -/

/-- The kind of the terms that start with a character. -/
def kindOf (c : Char) : Kind :=
  if isBreak c then .newline
  else if isGap c then .whitespace
  else if c = '"' then .string
  else if c = '\'' then .char
  else if isNameStart c || c.isDigit then .word
  else if isDelimiter c then .delimiter
  else .other

theorem isGap_iff {c : Char} : isGap c = true ↔ c = ' ' ∨ c = '\t' ∨ c = '\x0c' := by
  simp [isGap, or_assoc]

theorem isBreak_of_isGap {c : Char} (h : isGap c = true) : isBreak c = false := by
  rcases isGap_iff.mp h with rfl | rfl | rfl <;> rfl

/-- The characters that start words start no term of another kind. -/
theorem not_special_of_word {c : Char} (h : (isNameStart c || c.isDigit) = true) :
    isBreak c = false ∧ isGap c = false ∧ c ≠ '"' ∧ c ≠ '\'' := by
  have hne : ∀ d : Char, (isNameStart d || d.isDigit) = false → c ≠ d := by
    rintro d hd rfl
    rw [h] at hd
    cases hd
  refine ⟨?_, ?_, hne _ (by decide), hne _ (by decide)⟩
  · simp [isBreak, hne '\r' (by decide), hne '\n' (by decide)]
  · simp [isGap, hne ' ' (by decide), hne '\t' (by decide), hne '\x0c' (by decide)]

theorem isDelimiter_iff {c : Char} :
    isDelimiter c = true ↔
      c = '(' ∨ c = ')' ∨ c = '\x7b' ∨ c = '\x7d' ∨ c = '[' ∨ c = ']' ∨ c = ';' ∨ c = ',' ∨
        c = '.' ∨ c = '@' := by
  simp [isDelimiter]

theorem kindOf_delimiter {c : Char} (h : isDelimiter c = true) : kindOf c = .delimiter := by
  rcases isDelimiter_iff.mp h with rfl | rfl | rfl | rfl | rfl | rfl | rfl | rfl | rfl | rfl
    <;> decide

theorem kindOf_eq_newline_iff {c : Char} : kindOf c = .newline ↔ isBreak c = true := by
  constructor
  · intro h
    unfold kindOf at h
    cases hc : isBreak c with
    | true => rfl
    | false =>
      simp only [hc, Bool.false_eq_true, if_false] at h
      repeat' split at h
      all_goals cases h
  · intro h
    rw [kindOf, if_pos h]

theorem kindOf_eq_whitespace_iff {c : Char} : kindOf c = .whitespace ↔ isGap c = true := by
  constructor
  · intro h
    unfold kindOf at h
    cases hc : isGap c with
    | true => rfl
    | false =>
      simp only [hc, Bool.false_eq_true, if_false] at h
      repeat' split at h
      all_goals cases h
  · intro h
    rw [kindOf, if_neg (by simp [isBreak_of_isGap h]), if_pos h]

/-- The first character of a term tells its kind. -/
theorem Kind.Shape.exists_cons {k : Kind} {cs : List Char} (h : k.Shape cs) :
    ∃ c body, cs = c :: body ∧ k = kindOf c := by
  cases k with
  | newline => rcases h with rfl | rfl | rfl <;> exact ⟨_, _, rfl, by decide⟩
  | whitespace =>
    obtain ⟨hne, hall⟩ := h
    obtain ⟨c, body, rfl⟩ := List.exists_cons_of_ne_nil hne
    exact ⟨c, body, rfl, (kindOf_eq_whitespace_iff.mpr (hall c (List.mem_cons_self ..))).symm⟩
  | string =>
    obtain ⟨closed, content, -, rfl⟩ := h
    exact ⟨_, _, rfl, by decide⟩
  | char =>
    obtain ⟨closed, content, -, rfl⟩ := h
    exact ⟨_, _, rfl, by decide⟩
  | word =>
    obtain ⟨c, body, rfl, hword⟩ := h
    have hstart : (isNameStart c || c.isDigit) = true := by
      rcases hword with ⟨hc, -⟩ | ⟨hc, -⟩ <;> simp [hc]
    obtain ⟨hbreak, hgap, hquote, happ⟩ := not_special_of_word hstart
    refine ⟨c, body, rfl, ?_⟩
    simp only [kindOf, hbreak, hgap, if_neg hquote, if_neg happ, if_pos hstart]
    rfl
  | delimiter =>
    obtain ⟨c, rfl, hc⟩ := h
    exact ⟨c, [], rfl, (kindOf_delimiter hc).symm⟩
  | other =>
    obtain ⟨c, rfl, hc⟩ := h
    refine ⟨c, [], rfl, ?_⟩
    simp only [startsTerm, Bool.or_eq_false_iff, beq_eq_false_iff_ne] at hc
    simp [kindOf, hc]
  | custom label fresh => exact h.elim

/-! ### Literals -/

/-- An open literal goes no further: the text ends, or its line, or only a backslash is left. -/
def StopsLiteral (rest : List Char) : Prop :=
  rest = [] ∨ (∃ c ∈ rest.head?, isBreak c = true) ∨ rest = ['\\']

/-- What is read of a literal is content, with the closing quote or up to where it stops. -/
theorem literalFrom_spec (q : Char) (seen cs : List Char) :
    ∃ content closed, IsContent q content ∧
      (literalFrom q seen cs).1 = seen.reverse ++ content ++ (if closed then [q] else []) ∧
      (closed = false → StopsLiteral (literalFrom q seen cs).2) := by
  fun_induction literalFrom q seen cs with
  | case1 seen => exact ⟨[], false, .nil, by simp, fun _ => .inl rfl⟩
  | case2 seen c cs ih =>
    obtain ⟨content, closed, hcontent, htext, hstops⟩ := ih
    refine ⟨'\\' :: c :: content, closed, .escaped hcontent, ?_, hstops⟩
    rw [htext]
    simp
  | case3 seen cs hne => exact ⟨[], true, .nil, by simp, fun h => absurd h (by simp)⟩
  | case4 seen c cs hlone hc hstop =>
    refine ⟨[], false, .nil, by simp, fun _ => ?_⟩
    rcases Bool.or_eq_true_iff.mp hstop with hback | hbreak
    · -- A backslash that stops a literal has nothing after it that it could protect.
      obtain rfl := of_decide_eq_true hback
      cases cs with
      | nil => exact .inr (.inr rfl)
      | cons d ds => exact absurd rfl (hlone d ds rfl)
    · exact .inr (.inl ⟨c, rfl, hbreak⟩)
  | case5 seen c cs hlone hc hgo ih =>
    obtain ⟨content, closed, hcontent, htext, hstops⟩ := ih
    simp only [Bool.or_eq_true, decide_eq_true_eq, not_or, Bool.not_eq_true] at hgo
    refine ⟨c :: content, closed, .plain hc hgo.1 hgo.2 hcontent, ?_, hstops⟩
    rw [htext]
    simp

theorem literal_spec (q : Char) (cs : List Char) :
    (∃ closed, IsLiteral q closed (q :: (literal q cs).1)) ∧
      (IsLiteral q true (q :: (literal q cs).1) ∨ StopsLiteral (literal q cs).2) := by
  obtain ⟨content, closed, hcontent, htext, hstops⟩ := literalFrom_spec q [] cs
  have hliteral : IsLiteral q closed (q :: (literal q cs).1) := by
    refine ⟨content, hcontent, ?_⟩
    rw [literal, htext]
    simp
  refine ⟨⟨closed, hliteral⟩, ?_⟩
  cases closed with
  | true => exact .inl hliteral
  | false => exact .inr (hstops rfl)

/-- A closed literal is read up to its closing quote. -/
theorem literalFrom_closed {q : Char} (hq : q ≠ '\\') {content : List Char}
    (h : IsContent q content) (seen rest : List Char) :
    literalFrom q seen (content ++ q :: rest) = (seen.reverse ++ content ++ [q], rest) := by
  induction h generalizing seen with
  | nil =>
    rw [List.nil_append, literalFrom, if_pos rfl]
    · simp
    · exact fun c cs h _ => hq h
  | plain hc hback hbreak _ ih =>
    rw [List.cons_append, literalFrom, if_neg hc, if_neg (by simp [hback, hbreak]), ih]
    · simp
    · exact fun c cs h _ => hback h
  | escaped _ ih =>
    rw [List.cons_append, List.cons_append, literalFrom, ih]
    simp

/-- An open literal is read up to where it stops. -/
theorem literalFrom_open {q : Char} (hq : isBreak q = false) (hq' : q ≠ '\\') {content : List Char}
    (h : IsContent q content) (seen : List Char) {rest : List Char} (hrest : StopsLiteral rest) :
    literalFrom q seen (content ++ rest) = (seen.reverse ++ content, rest) := by
  induction h generalizing seen with
  | nil =>
    rw [List.nil_append, List.append_nil]
    rcases hrest with rfl | ⟨c, hc, hbreak⟩ | rfl
    · rw [literalFrom]
    · cases rest with
      | nil => cases hc
      | cons d ds =>
        obtain rfl := Option.some.inj hc
        have hne : d ≠ q := by
          rintro rfl
          rw [hbreak] at hq
          cases hq
        rw [literalFrom, if_neg hne, if_pos (by simp [hbreak])]
        rintro c cs rfl -
        cases hbreak
    · rw [literalFrom, if_neg (Ne.symm hq'), if_pos (by simp)]
      exact fun c cs _ h => List.cons_ne_nil _ _ h.symm
  | plain hc hback hbreak _ ih =>
    rw [List.cons_append, literalFrom, if_neg hc, if_neg (by simp [hback, hbreak]), ih]
    · simp
    · exact fun c cs h _ => hback h
  | escaped _ ih =>
    rw [List.cons_append, List.cons_append, literalFrom, ih]
    simp

/-- A literal that has its quotes, or stops where what follows starts, is read as it is. -/
theorem literal_append_of_stops {q : Char} (hq : isBreak q = false) (hq' : q ≠ '\\')
    {body rest : List Char} (hshape : ∃ closed, IsLiteral q closed (q :: body))
    (hends : IsLiteral q true (q :: body) ∨ StopsLiteral rest) :
    literal q (body ++ rest) = (body, rest) := by
  have hclosed : IsLiteral q true (q :: body) → literal q (body ++ rest) = (body, rest) := by
    rintro ⟨content, hcontent, h⟩
    obtain rfl : body = content ++ [q] := by simpa using h
    rw [List.append_assoc]
    exact literalFrom_closed hq' hcontent [] rest
  rcases hends with hends | hstops
  · exact hclosed hends
  · obtain ⟨closed, hliteral⟩ := hshape
    cases closed with
    | true => exact hclosed hliteral
    | false =>
      obtain ⟨content, hcontent, h⟩ := hliteral
      obtain rfl : body = content := by simpa using h
      exact literalFrom_open hq hq' hcontent [] hstops

/-! ### One term -/

/-- A term with the characters `text` cannot be longer if it is followed by `rest`. -/
def Kind.EndsBefore (text rest : List Char) : Kind → Prop
  | newline => text = ['\r'] → rest.head? ≠ some '\n'
  | whitespace => ∀ c ∈ rest.head?, isGap c = false
  | string => IsLiteral '"' true text ∨ StopsLiteral rest
  | char => IsLiteral '\'' true text ∨ StopsLiteral rest
  | word => ∀ c ∈ rest.head?, extendsWord text c = false
  | _ => True

/-- What is cut off has the shape of its kind and cannot be longer. -/
theorem lexeme_spec (c : Char) (cs : List Char) :
    (lexeme c cs).kind.Shape (c :: (lexeme c cs).body) ∧
      (lexeme c cs).kind.EndsBefore (c :: (lexeme c cs).body) (lexeme c cs).rest := by
  unfold lexeme
  split
  · rename_i hc
    subst hc
    split
    · exact ⟨.inl rfl, fun h => absurd h (by simp)⟩
    · rename_i hnot
      refine ⟨.inr (.inl rfl), fun _ h => ?_⟩
      obtain ⟨rest, rfl⟩ := List.head?_eq_some_iff.mp h
      exact hnot rest rfl
  split
  · rename_i hc
    subst hc
    exact ⟨.inr (.inr rfl), fun h => absurd h (by simp)⟩
  split
  · rename_i hc
    refine ⟨⟨by simp, fun d hd => ?_⟩, head?_dropWhile⟩
    rcases List.mem_cons.mp hd with rfl | hd
    · exact hc
    · exact List.mem_takeWhile_imp hd
  split
  · rename_i hc
    subst hc
    exact literal_spec '"' cs
  split
  · rename_i hc
    subst hc
    exact literal_spec '\'' cs
  split
  · rename_i hc
    refine ⟨⟨c, _, rfl, .inl ⟨hc, fun d hd => List.mem_takeWhile_imp hd⟩⟩, fun d hd => ?_⟩
    rw [extendsWord, isDigit_eq_false_of_isNameStart hc]
    exact head?_dropWhile d hd
  split
  · rename_i hc
    refine ⟨⟨c, _, rfl, .inr ⟨hc, fun d hd => List.mem_takeWhile_imp hd⟩⟩, fun d hd => ?_⟩
    rw [extendsWord, hc]
    exact head?_dropWhile d hd
  split
  · rename_i hc
    exact ⟨⟨c, rfl, hc⟩, trivial⟩
  · refine ⟨⟨c, rfl, ?_⟩, trivial⟩
    simp_all [startsTerm, isBreak]

/-- Whatever has the shape of its kind and cannot be longer is cut off. -/
theorem lexeme_append_of_ends {k : Kind} {c : Char} {body rest : List Char}
    (hshape : k.Shape (c :: body)) (hends : k.EndsBefore (c :: body) rest) :
    lexeme c (body ++ rest) = ⟨k, body, rest⟩ := by
  cases k with
  | newline =>
    rcases hshape with h | h | h
    · cases h
      rfl
    · cases h
      unfold lexeme
      rw [if_pos rfl, List.nil_append]
      split
      · exact absurd rfl (hends rfl)
      · rfl
    · cases h
      rfl
  | whitespace =>
    have hc : isGap c = true := hshape.2 c (List.mem_cons_self ..)
    have hbody : ∀ d ∈ body, isGap d = true := fun d hd => hshape.2 d (List.mem_cons_of_mem c hd)
    have hbreak := isBreak_of_isGap hc
    simp only [isBreak, Bool.or_eq_false_iff, beq_eq_false_iff_ne] at hbreak
    unfold lexeme
    rw [if_neg hbreak.1, if_neg hbreak.2, if_pos hc, takeWhile_run hbody hends,
      dropWhile_run hbody hends]
  | string =>
    obtain ⟨closed, content, hcontent, h⟩ := id hshape
    cases h
    have hread := literal_append_of_stops (by decide) (by decide) hshape hends
    show (⟨.string, (literal '"' _).1, (literal '"' _).2⟩ : Lexeme) = _
    rw [hread]
  | char =>
    obtain ⟨closed, content, hcontent, h⟩ := id hshape
    cases h
    have hread := literal_append_of_stops (by decide) (by decide) hshape hends
    show (⟨.char, (literal '\'' _).1, (literal '\'' _).2⟩ : Lexeme) = _
    rw [hread]
  | word =>
    obtain ⟨d, ds, h, hword⟩ := hshape
    cases h
    have hstart : (isNameStart c || c.isDigit) = true := by
      rcases hword with ⟨hc, -⟩ | ⟨hc, -⟩ <;> simp [hc]
    obtain ⟨hbreak, hgap, hquote, happ⟩ := not_special_of_word hstart
    simp only [isBreak, Bool.or_eq_false_iff, beq_eq_false_iff_ne] at hbreak
    unfold lexeme
    rw [if_neg hbreak.1, if_neg hbreak.2, if_neg (by simp [hgap]), if_neg hquote, if_neg happ]
    rcases hword with ⟨hc, hbody⟩ | ⟨hc, hbody⟩
    · have hrest : ∀ d ∈ rest.head?, isNamePart d = false := by
        simpa [Kind.EndsBefore, extendsWord, isDigit_eq_false_of_isNameStart hc] using hends
      rw [if_pos hc, takeWhile_run hbody hrest, dropWhile_run hbody hrest]
    · have hrest : ∀ d ∈ rest.head?, isNumberPart d = false := by
        simpa [Kind.EndsBefore, extendsWord, hc] using hends
      have hnot : ¬ isNameStart c = true := by
        intro h
        rw [isDigit_eq_false_of_isNameStart h] at hc
        cases hc
      rw [if_neg hnot, if_pos hc, takeWhile_run hbody hrest, dropWhile_run hbody hrest]
  | delimiter =>
    obtain ⟨d, h, hc⟩ := hshape
    cases h
    rcases isDelimiter_iff.mp hc with rfl | rfl | rfl | rfl | rfl | rfl | rfl | rfl | rfl | rfl
      <;> rfl
  | other =>
    obtain ⟨d, h, hc⟩ := hshape
    cases h
    simp only [startsTerm, isBreak, Bool.or_eq_false_iff, beq_eq_false_iff_ne] at hc
    unfold lexeme
    simp [hc]
  | custom label fresh => exact hshape.elim

/-! ### Neighbours -/

/-- All terms have the shapes of their kinds. -/
def AreShaped (ts : List Term) : Prop := ∀ t ∈ ts, t.kind.Shape t.text.toList

theorem areShaped_cons {t : Term} {ts : List Term} :
    AreShaped (t :: ts) ↔ t.kind.Shape t.text.toList ∧ AreShaped ts := List.forall_mem_cons

theorem charsOf_cons (t : Term) (ts : List Term) :
    charsOf (t :: ts) = t.text.toList ++ charsOf ts := rfl

theorem toList_eq_iff {s : String} {cs : List Char} : s.toList = cs ↔ s = String.ofList cs := by
  rw [← String.toList_inj, String.toList_ofList]

theorem AreShaped.charsOf_eq_nil_iff {ts : List Term} (h : AreShaped ts) :
    charsOf ts = [] ↔ ts = [] := by
  cases ts with
  | nil => simp [charsOf]
  | cons t ts =>
    obtain ⟨c, body, htext, -⟩ := (areShaped_cons.mp h).1.exists_cons
    simp [charsOf_cons, htext]

theorem AreShaped.gap_head_iff {ts : List Term} (h : AreShaped ts) :
    (∀ c ∈ (charsOf ts).head?, isGap c = false) ↔ ∀ u ∈ ts.head?, u.kind ≠ .whitespace := by
  cases ts with
  | nil => simp [charsOf]
  | cons u ts =>
    obtain ⟨c, body, htext, hkind⟩ := (areShaped_cons.mp h).1.exists_cons
    simp [charsOf_cons, htext, hkind, kindOf_eq_whitespace_iff]

theorem AreShaped.newline_head_iff {ts : List Term} (h : AreShaped ts) :
    (charsOf ts).head? ≠ some '\n' ↔ ∀ u ∈ ts.head?, u.text ≠ "\n" := by
  cases ts with
  | nil => simp [charsOf]
  | cons u ts =>
    obtain ⟨c, body, htext, hkind⟩ := (areShaped_cons.mp h).1.exists_cons
    have hiff : c = '\n' ↔ u.text = "\n" := by
      constructor
      · rintro rfl
        -- A term that starts with this character is a line break, and there is one such only.
        have hshape := (areShaped_cons.mp h).1
        rw [hkind, kindOf_eq_newline_iff.mpr (by decide), htext] at hshape
        rcases hshape with h | h | h
        · cases h
        · cases h
        · rw [← String.toList_inj, htext, h]
          rfl
      · intro h
        rw [h] at htext
        cases htext
        rfl
    simp [charsOf_cons, htext, hiff]

theorem AreShaped.stopsLiteral_iff {ts : List Term} (h : AreShaped ts) :
    StopsLiteral (charsOf ts) ↔
      ts = [] ∨ (∃ u ∈ ts.head?, u.kind = .newline) ∨ ∃ u, ts = [u] ∧ u.text = "\\" := by
  cases ts with
  | nil => simp [StopsLiteral, charsOf]
  | cons u ts =>
    obtain ⟨c, body, htext, hkind⟩ := (areShaped_cons.mp h).1.exists_cons
    have hts := (areShaped_cons.mp h).2.charsOf_eq_nil_iff
    have hlast : (∃ v, u :: ts = [v] ∧ v.text = "\\") ↔ c = '\\' ∧ body = [] ∧ ts = [] := by
      have hback : u.text = "\\" ↔ c = '\\' ∧ body = [] := by
        rw [← String.toList_inj, htext]
        simp
      constructor
      · rintro ⟨v, hv, hback'⟩
        cases hv
        obtain ⟨hc, hbody⟩ := hback.mp hback'
        exact ⟨hc, hbody, rfl⟩
      · rintro ⟨hc, hbody, rfl⟩
        exact ⟨u, rfl, hback.mpr ⟨hc, hbody⟩⟩
    rw [hlast]
    simp [StopsLiteral, charsOf_cons, htext, hkind, kindOf_eq_newline_iff, hts]

/-- Among terms that have their shapes it is a matter of characters whether one could be longer. -/
theorem isMaximal_iff {t : Term} {next : List Term} (ht : t.kind.Shape t.text.toList)
    (hnext : AreShaped next) :
    t.IsMaximal next ↔ t.kind.EndsBefore t.text.toList (charsOf next) := by
  obtain ⟨c, body, htext, hkind⟩ := ht.exists_cons
  have hreturn : t.kind ≠ .newline → t.text ≠ "\r" := by
    rintro hne h
    rw [h] at htext
    cases htext
    exact hne (by rw [hkind]; decide)
  have hstops := hnext.stopsLiteral_iff
  have hgap := hnext.gap_head_iff
  have hnewline := hnext.newline_head_iff
  have hreturn' : t.text.toList = ['\r'] ↔ t.text = "\r" := toList_eq_iff
  simp only [Term.IsMaximal, Term.IsOpen]
  cases hk : t.kind with
  | newline => simp [Kind.EndsBefore, hreturn', hnewline]
  | whitespace => simpa [Kind.EndsBefore, hreturn (by simp [hk])] using hgap.symm
  | string => simp [Kind.EndsBefore, hstops, hreturn (by simp [hk]), or_iff_not_imp_left]
  | char => simp [Kind.EndsBefore, hstops, hreturn (by simp [hk]), or_iff_not_imp_left]
  | word => simp [Kind.EndsBefore, hreturn (by simp [hk])]
  | delimiter => simp [Kind.EndsBefore, hreturn (by simp [hk])]
  | other => simp [Kind.EndsBefore, hreturn (by simp [hk])]
  | custom label fresh => simp [Kind.EndsBefore, hreturn (by simp [hk])]

/-! ### Texts -/

theorem isSegmentation_cons {cs : List Char} {t : Term} {ts : List Term} :
    IsSegmentation cs (t :: ts) ↔
      t.kind.Shape t.text.toList ∧ t.IsMaximal ts ∧
        ∃ rest, cs = t.text.toList ++ rest ∧ IsSegmentation rest ts := by
  constructor
  · intro h
    obtain ⟨hshape, hshapes⟩ := areShaped_cons.mp h.shaped
    refine ⟨hshape, h.maximal [] t ts rfl, charsOf ts, h.joins.symm, rfl, hshapes, ?_⟩
    rintro before u next rfl
    exact h.maximal (t :: before) u next rfl
  · rintro ⟨hshape, hmaximal, rest, rfl, h⟩
    refine ⟨by rw [charsOf_cons, h.joins], areShaped_cons.mpr ⟨hshape, h.shaped⟩, ?_⟩
    intro before u next hsplit
    cases before with
    | nil =>
      cases hsplit
      exact hmaximal
    | cons v before =>
      cases hsplit
      exact h.maximal before u next rfl

/-- A text is read off its front term by term. -/
theorem lexeme_induction {motive : List Char → Prop} (nil : motive [])
    (cons : ∀ c cs, motive (lexeme c cs).rest → motive (c :: cs)) (cs : List Char) : motive cs :=
  match cs with
  | [] => nil
  | c :: cs => cons c cs (lexeme_induction nil cons (lexeme c cs).rest)
  termination_by cs.length
  decreasing_by exact Nat.lt_succ_of_le (length_rest_le c cs)

/-- What the lexer finds is a segmentation. -/
theorem isSegmentation_termsOf (cs : List Char) : IsSegmentation cs (termsOf cs) := by
  induction cs using lexeme_induction with
  | nil =>
    rw [termsOf_nil]
    exact ⟨rfl, by simp, by simp⟩
  | cons c cs ih =>
    obtain ⟨hshape, hends⟩ := lexeme_spec c cs
    rw [termsOf_cons, isSegmentation_cons, String.toList_ofList]
    refine ⟨hshape, ?_, (lexeme c cs).rest, ?_, ih⟩
    · rw [isMaximal_iff (by simpa using hshape) ih.shaped, String.toList_ofList, ih.joins]
      exact hends
    · rw [List.cons_append, lexeme_append]

/-- A segmentation is what the lexer finds. -/
theorem IsSegmentation.termsOf_eq {cs : List Char} {ts : List Term} (h : IsSegmentation cs ts) :
    termsOf cs = ts := by
  induction ts generalizing cs with
  | nil =>
    obtain rfl : [] = cs := h.joins
    exact termsOf_nil
  | cons t ts ih =>
    obtain ⟨hshape, hmaximal, rest, rfl, hrest⟩ := isSegmentation_cons.mp h
    rw [isMaximal_iff hshape hrest.shaped, hrest.joins] at hmaximal
    obtain ⟨c, body, htext, -⟩ := hshape.exists_cons
    rw [htext] at hshape hmaximal
    have hlexeme := lexeme_append_of_ends hshape hmaximal
    rw [htext, List.cons_append, termsOf_cons, hlexeme, ← htext, String.ofList_toList, ih hrest]

/-- **A text has one segmentation, its terms.** -/
theorem isSegmentation_iff_eq_terms (text : String) (ts : List Term) :
    IsSegmentation text.toList ts ↔ ts = terms text := by
  constructor
  · intro h
    exact h.termsOf_eq.symm
  · intro h
    rw [h]
    exact isSegmentation_termsOf text.toList

/-- A literal may hold a protected line break and stay open before a backslash at the very end. -/
example : terms "2.x\"a\\\nb\\" = [⟨.word, "2.x"⟩, ⟨.string, "\"a\\\nb"⟩, ⟨.other, "\\"⟩] := by
  decide +kernel

end MemberEncoding.Body
