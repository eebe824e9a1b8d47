import Mathlib.Data.List.TakeWhile
import MemberEncoding.Proofs.Text.Trimming
import MemberEncoding.TypeRef.Spelling

/-!
# MemberEncoding.Proofs.TypeRef.Lexing

**The lexer inverts spellings** (`lex_eq_ok_iff`): the tokens of a text are those that it spells. It
stops at a character of a text only where no token starts (`stuck_of_lex`).

The one place where blanks may both belong to a token and separate two is behind a name: a dot after
them goes on with the name, and anything else ends it. `Stops` says that a text does not go on with
a name before it. A spelling of further tokens always stops (`Spells.stops`), since no token starts
with a dot, and so a name is read exactly as far as it was spelled (`nameFront_append`).
-/

namespace MemberEncoding.TypeRef

open Text (isBlank isNameStart isNamePart isIdentifierChars isIdentifierChars_iff
  isBlank_eq_false_of_isNameStart isNamePart_eq_false_of_isBlank isNamePart_of_isNameStart
  takeWhile_run dropWhile_run head?_dropWhile)

/-! ### Where a name ends -/

/-- The text does not go on with a name that stands before it. -/
structure Stops (rest : List Char) : Prop where
  /-- Its first character belongs to no identifier. -/
  head : ∀ c ∈ rest.head?, isNamePart c = false
  /-- No dot with a further part comes next. -/
  noPart : nextPart? rest = none

theorem nextPart?_of_ne_dot {cs : List Char}
    (h : ∀ c ∈ (cs.dropWhile isBlank).head?, c ≠ '.') : nextPart? cs = none := by
  unfold nextPart?
  split
  · rename_i ds hds
    rw [hds] at h
    exact absurd rfl (h '.' rfl)
  · rfl

/-- A text stops where its first character, and the first that is not blank, go on with no name. -/
theorem stops_of_heads {rest : List Char} (hhead : ∀ c ∈ rest.head?, isNamePart c = false)
    (hdot : ∀ c ∈ (rest.dropWhile isBlank).head?, c ≠ '.') : Stops rest :=
  ⟨hhead, nextPart?_of_ne_dot hdot⟩

/-- The name at the front of `c :: ds`, and what follows it. -/
def nameFront (c : Char) (ds : List Char) : List Char × List Char :=
  let more := nameTail (ds.dropWhile isNamePart)
  (c :: ds.takeWhile isNamePart ++ more.1, more.2)

/-- Behind a dot the tail of a name is a name again. -/
theorem nameTail_dot {before after es : List Char} {c : Char} (hb : IsBlanks before)
    (ha : IsBlanks after) (hc : isNameStart c = true) :
    nameTail (before ++ '.' :: after ++ c :: es)
      = ('.' :: (nameFront c es).1, (nameFront c es).2) := by
  have hdot : (before ++ '.' :: after ++ c :: es).dropWhile isBlank
      = '.' :: (after ++ c :: es) := by
    rw [List.append_assoc]
    refine dropWhile_run hb fun d hd => ?_
    cases hd
    decide
  have hpart : (after ++ c :: es).dropWhile isBlank = c :: es := by
    refine dropWhile_run ha fun d hd => ?_
    cases hd
    exact isBlank_eq_false_of_isNameStart hc
  have hnext : ∃ p, nextPart? (before ++ '.' :: after ++ c :: es) = some p ∧
      p.chars = c :: es.takeWhile isNamePart ∧ p.rest = es.dropWhile isNamePart := by
    unfold nextPart?
    split
    · rename_i ds hds
      rw [hdot] at hds
      cases hds
      split
      · rename_i c' es' hes
        rw [hpart] at hes
        cases hes
        rw [if_pos hc]
        exact ⟨_, rfl, rfl, rfl⟩
      · rename_i hes
        rw [hpart] at hes
        cases hes
    · rename_i hne
      exact absurd hdot (hne _)
  obtain ⟨p, hp, hchars, hrest⟩ := hnext
  rw [nameTail, hp]
  simp only [hchars, hrest, nameFront, List.cons_append]

/-- A spelled name is read as far as it was spelled. -/
theorem nameFront_append {n cs rest : List Char} (hn : SpellsName n cs) (hrest : Stops rest) :
    ∃ c ds, cs = c :: ds ∧ isNameStart c = true ∧ nameFront c (ds ++ rest) = (n, rest) := by
  induction hn with
  | last hid =>
    obtain ⟨c, ds, rfl, hc, hds⟩ := isIdentifierChars_iff.mp hid
    refine ⟨c, ds, rfl, hc, ?_⟩
    have htail : nameTail rest = ([], rest) := by
      rw [nameTail, hrest.noPart]
    simp only [nameFront, takeWhile_run hds hrest.head, dropWhile_run hds hrest.head, htail,
      List.append_nil]
  | @dot part before after n cs hpart hb ha _ ih =>
    obtain ⟨c, ds, rfl, hc, hds⟩ := isIdentifierChars_iff.mp hpart
    obtain ⟨c', ds', rfl, hc', hfront⟩ := ih
    refine ⟨c, ds ++ before ++ '.' :: after ++ c' :: ds', by simp, hc, ?_⟩
    -- The part ends at the blanks before the dot, or at the dot itself.
    have hhead : ∀ d ∈ (before ++ '.' :: after ++ c' :: (ds' ++ rest)).head?,
        isNamePart d = false := by
      intro d hd
      cases before with
      | nil => cases hd; decide
      | cons b before =>
        cases hd
        exact isNamePart_eq_false_of_isBlank (hb _ (List.mem_cons_self ..))
    have hcs : ds ++ before ++ '.' :: after ++ c' :: ds' ++ rest
        = ds ++ (before ++ '.' :: after ++ c' :: (ds' ++ rest)) := by simp
    rw [hcs, nameFront, takeWhile_run hds hhead, dropWhile_run hds hhead, nameTail_dot hb ha hc',
      hfront]

/-! ### One token -/

theorem symbol?_char {c : Char} {t : Token} (h : Token.symbol? c = some t) :
    isNameStart c = false ∧ isNamePart c = false ∧ isBlank c = false ∧ c ≠ '.' := by
  unfold Token.symbol? at h
  repeat' split at h
  all_goals first
    | (subst_vars; decide)
    | cases h

theorem isName_of_symbol? {c : Char} {t : Token} (h : Token.symbol? c = some t) :
    t.isName = false := by
  unfold Token.symbol? at h
  repeat' split at h
  all_goals first
    | (cases h; rfl)
    | cases h

/-- The first token of a text is the one that it spells first. -/
theorem next_append {t : Token} {gap cs rest : List Char} (hgap : IsBlanks gap)
    (ht : SpellsToken t cs) (hrest : t.isName = true → Stops rest) :
    ∃ h, next (gap ++ cs ++ rest) = .token t rest h := by
  cases ht with
  | @name n cs hn =>
    obtain ⟨c, ds, rfl, hc, hfront⟩ := nameFront_append hn (hrest rfl)
    have hdrop : (gap ++ c :: ds ++ rest).dropWhile isBlank = c :: (ds ++ rest) := by
      rw [List.append_assoc]
      refine dropWhile_run hgap fun d hd => ?_
      cases hd
      exact isBlank_eq_false_of_isNameStart hc
    obtain ⟨hchars, hafter⟩ := Prod.mk.inj hfront
    refine ⟨by simp; omega, ?_⟩
    unfold next
    split
    · rename_i hnil
      rw [hdrop] at hnil
      cases hnil
    · rename_i c' ds' hcons
      rw [hdrop] at hcons
      cases hcons
      simp only [if_pos hc, hchars, hafter]
  | @symbol t c hs =>
    obtain ⟨hstart, -, hblank, -⟩ := symbol?_char hs
    have hdrop : (gap ++ [c] ++ rest).dropWhile isBlank = c :: rest := by
      rw [List.append_assoc]
      refine dropWhile_run hgap fun d hd => ?_
      cases hd
      exact hblank
    refine ⟨by simp; omega, ?_⟩
    unfold next
    split
    · rename_i hnil
      rw [hdrop] at hnil
      cases hnil
    · rename_i c' ds' hcons
      rw [hdrop] at hcons
      cases hcons
      simp [hstart, hs]

theorem next_of_isBlanks {cs : List Char} (h : IsBlanks cs) : next cs = .done := by
  have hdrop : cs.dropWhile isBlank = [] := List.dropWhile_eq_nil_iff.mpr h
  unfold next
  split
  · rfl
  · rename_i hcons
    rw [hdrop] at hcons
    cases hcons

/-! ### What was read was spelled -/

/-- The character is not blank, and no token starts with it. -/
structure StartsNoToken (c : Char) : Prop where
  /-- It stands for something. -/
  notBlank : isBlank c = false
  /-- It starts no name. -/
  noName : isNameStart c = false
  /-- It is no symbol. -/
  noSymbol : Token.symbol? c = none

/-- What comes before the first character that is not blank. -/
theorem blanks_of_dropWhile {cs rest : List Char} (h : cs.dropWhile isBlank = rest) :
    ∃ gap, IsBlanks gap ∧ cs = gap ++ rest := by
  refine ⟨cs.takeWhile isBlank, fun c hc => ?_, ?_⟩
  · exact List.mem_takeWhile_imp hc
  · rw [← h, List.takeWhile_append_dropWhile]

/-- A further part of a name is an identifier behind a dot, and is read in full. -/
theorem nextPart?_eq_some {cs : List Char} {p : Part cs.length} (h : nextPart? cs = some p) :
    ∃ before after, IsBlanks before ∧ IsBlanks after ∧ isIdentifierChars p.chars = true ∧
      cs = before ++ '.' :: after ++ (p.chars ++ p.rest) ∧
      ∀ c ∈ p.rest.head?, isNamePart c = false := by
  unfold nextPart? at h
  split at h
  · rename_i ds hds
    obtain ⟨before, hb, hcs⟩ := blanks_of_dropWhile hds
    split at h
    · rename_i c es hes
      obtain ⟨after, ha, hds'⟩ := blanks_of_dropWhile hes
      by_cases hc : isNameStart c = true
      · rw [if_pos hc] at h
        cases h
        refine ⟨before, after, hb, ha, ?_, ?_, head?_dropWhile⟩
        · exact isIdentifierChars_iff.mpr
            ⟨c, _, rfl, hc, fun d hd => List.mem_takeWhile_imp hd⟩
        · rw [List.cons_append, List.takeWhile_append_dropWhile, hcs, hds']
          simp
      · rw [if_neg hc] at h
        cases h
    · cases h
  · cases h

/-- The tail of a name is spelled by what is read of it, behind any first part. -/
theorem nameTail_spells (cs : List Char) (hcs : ∀ c ∈ cs.head?, isNamePart c = false)
    {part : List Char} (hpart : isIdentifierChars part = true) :
    ∃ used, cs = used ++ (nameTail cs).2 ∧
      SpellsName (part ++ (nameTail cs).1) (part ++ used) ∧ Stops (nameTail cs).2 := by
  fun_induction nameTail cs generalizing part with
  | case1 cs hnone =>
    refine ⟨[], rfl, ?_, hcs, hnone⟩
    simpa using SpellsName.last hpart
  | case2 cs p hp more ih =>
    obtain ⟨before, after, hb, ha, hchars, hsplit, hhead⟩ := nextPart?_eq_some hp
    obtain ⟨used, hrest, hspells, hstops⟩ := ih hhead hchars
    refine ⟨before ++ '.' :: after ++ (p.chars ++ used), ?_, ?_, hstops⟩
    · calc
        cs = before ++ '.' :: after ++ (p.chars ++ p.rest) := hsplit
        _ = before ++ '.' :: after ++ (p.chars ++ (used ++ (nameTail p.rest).2)) := by rw [← hrest]
        _ = before ++ '.' :: after ++ (p.chars ++ used) ++ (nameTail p.rest).2 := by simp
    · have h := SpellsName.dot hpart hb ha hspells
      simpa [more] using h

/-- The name at the front of a text is spelled by what is read of it. -/
theorem nameFront_spells {c : Char} (hc : isNameStart c = true) (ds : List Char) :
    ∃ used, c :: ds = used ++ (nameFront c ds).2 ∧
      SpellsName (nameFront c ds).1 used ∧ Stops (nameFront c ds).2 := by
  have hpart : isIdentifierChars (c :: ds.takeWhile isNamePart) = true :=
    isIdentifierChars_iff.mpr ⟨c, _, rfl, hc, fun d hd => List.mem_takeWhile_imp hd⟩
  obtain ⟨used, hsplit, hspells, hstops⟩ :=
    nameTail_spells (ds.dropWhile isNamePart) head?_dropWhile hpart
  refine ⟨c :: ds.takeWhile isNamePart ++ used, ?_, hspells, hstops⟩
  rw [nameFront, List.append_assoc, ← hsplit, List.cons_append, List.takeWhile_append_dropWhile]

theorem isBlanks_of_next {cs : List Char} (h : next cs = .done) : IsBlanks cs := by
  unfold next at h
  split at h
  · rename_i hnil
    exact List.dropWhile_eq_nil_iff.mp hnil
  · split at h
    · cases h
    · split at h <;> cases h

/-- What the front of a text is stuck at comes after blanks and starts no token. -/
theorem startsNoToken_of_next {cs : List Char} {c : Char} (h : next cs = .stuck c) :
    ∃ gap after, IsBlanks gap ∧ cs = gap ++ c :: after ∧ StartsNoToken c := by
  unfold next at h
  split at h
  · cases h
  · rename_i d ds hds
    obtain ⟨gap, hgap, hcs⟩ := blanks_of_dropWhile hds
    by_cases hd : isNameStart d = true
    · rw [if_pos hd] at h
      cases h
    · rw [if_neg hd] at h
      split at h
      · cases h
      · rename_i hsymbol
        cases h
        have hblank : isBlank c = false :=
          head?_dropWhile c (by rw [hds]; rfl)
        exact ⟨gap, ds, hgap, hcs, hblank, by simpa using hd, hsymbol⟩

/-- A token that is read was spelled, and a name in full. -/
theorem spellsToken_of_next {cs rest : List Char} {t : Token} {hlen : rest.length < cs.length}
    (h : next cs = .token t rest hlen) :
    ∃ gap used, IsBlanks gap ∧ SpellsToken t used ∧ cs = gap ++ used ++ rest ∧
      (t.isName = true → Stops rest) := by
  unfold next at h
  split at h
  · cases h
  · rename_i c ds hds
    obtain ⟨gap, hgap, hcs⟩ := blanks_of_dropWhile hds
    by_cases hc : isNameStart c = true
    · simp only [if_pos hc, Front.token.injEq] at h
      obtain ⟨rfl, rfl⟩ := h
      obtain ⟨used, hsplit, hspells, hstops⟩ := nameFront_spells hc ds
      refine ⟨gap, used, hgap, .name hspells, ?_, fun _ => hstops⟩
      rw [hcs, List.append_assoc, hsplit]
      rfl
    · simp only [if_neg hc] at h
      split at h
      · rename_i t' hsymbol
        cases h
        refine ⟨gap, [c], hgap, .symbol hsymbol, by rw [hcs]; simp, fun hname => ?_⟩
        exact absurd hname (by rw [isName_of_symbol? hsymbol]; decide)
      · cases h

/-! ### All tokens -/

/-- Where a name starts. -/
theorem SpellsName.first {n cs : List Char} (h : SpellsName n cs) :
    ∃ c ds, cs = c :: ds ∧ isNameStart c = true := by
  cases h with
  | last hid =>
    obtain ⟨c, ds, rfl, hc, -⟩ := isIdentifierChars_iff.mp hid
    exact ⟨c, ds, rfl, hc⟩
  | dot hpart _ _ _ =>
    obtain ⟨c, ds, rfl, hc, -⟩ := isIdentifierChars_iff.mp hpart
    exact ⟨c, _, rfl, hc⟩

/-- No token starts with a blank or a dot, and only names start with a name's character. -/
theorem SpellsToken.first {t : Token} {cs : List Char} (h : SpellsToken t cs) :
    ∃ c ds, cs = c :: ds ∧ isBlank c = false ∧ c ≠ '.' ∧ isNamePart c = t.isName := by
  cases h with
  | name hn =>
    obtain ⟨c, ds, rfl, hc⟩ := hn.first
    refine ⟨c, ds, rfl, isBlank_eq_false_of_isNameStart hc, ?_, isNamePart_of_isNameStart hc⟩
    rintro rfl
    exact absurd hc (by decide)
  | @symbol t c hs =>
    obtain ⟨-, hpart, hblank, hdot⟩ := symbol?_char hs
    exact ⟨c, [], rfl, hblank, hdot, by rw [hpart, isName_of_symbol? hs]⟩

/-- A spelling does not go on with a name before it, provided that a blank parts two names. -/
theorem Spells.stops {ts : List Token} {cs : List Char} (h : Spells ts cs) {t : Token}
    (ht : t.isName = true)
    (hmeet : namesMeet t ts = true → ∃ c, cs.head? = some c ∧ isBlank c = true) : Stops cs := by
  cases h with
  | nil hgap =>
    refine stops_of_heads (fun c hc => ?_) fun c hc => ?_
    · exact isNamePart_eq_false_of_isBlank (hgap c (List.mem_of_mem_head? hc))
    · rw [List.dropWhile_eq_nil_iff.mpr hgap] at hc
      cases hc
  | @cons gap u us ts rest hgap hu hrest _ =>
    obtain ⟨c, ds, rfl, hblank, hdot, hpart⟩ := hu.first
    refine stops_of_heads (fun d hd => ?_) fun d hd => ?_
    · cases gap with
      | cons b gap =>
        cases hd
        exact isNamePart_eq_false_of_isBlank (hgap _ (List.mem_cons_self ..))
      | nil =>
        cases hd
        rw [hpart]
        cases hname : u.isName with
        | false => rfl
        | true =>
          -- Two names meet here, and yet no blank parts them.
          obtain ⟨b, hb, hbblank⟩ := hmeet (by simp [namesMeet, ht, hname])
          cases hb
          rw [hblank] at hbblank
          cases hbblank
    · have hdrop : (gap ++ c :: ds ++ rest).dropWhile isBlank = c :: (ds ++ rest) := by
        rw [List.append_assoc]
        refine dropWhile_run hgap fun x hx => ?_
        cases hx
        exact hblank
      rw [hdrop] at hd
      cases hd
      exact hdot

theorem lex_of_spells {ts : List Token} {cs : List Char} (h : Spells ts cs) : lex cs = .ok ts := by
  induction h with
  | nil hgap => rw [lex_eq, next_of_isBlanks hgap]
  | cons hgap ht hrest hmeet ih =>
    obtain ⟨hlen, hnext⟩ := next_append hgap ht fun hname => hrest.stops hname hmeet
    rw [lex_eq, hnext]
    dsimp only
    rw [ih]
    rfl

/-- A token goes before a spelling if no name goes on from the one into the other. -/
theorem Spells.cons_of_head {t : Token} {ts : List Token} {gap used rest : List Char}
    (hgap : IsBlanks gap) (ht : SpellsToken t used) (hrest : Spells ts rest)
    (hhead : t.isName = true → ∀ c ∈ rest.head?, isNamePart c = false) :
    Spells (t :: ts) (gap ++ used ++ rest) := by
  refine .cons hgap ht hrest fun hmeet => ?_
  simp only [namesMeet, Bool.and_eq_true] at hmeet
  cases hrest with
  | nil => exact absurd hmeet.2 (by decide)
  | @cons gap' u used' us rest' hgap' hu _ _ =>
    cases gap' with
    | cons b gap' => exact ⟨b, rfl, hgap' b (List.mem_cons_self ..)⟩
    | nil =>
      -- The name before would have been read on.
      obtain ⟨c, ds, rfl, -, -, hpart⟩ := hu.first
      have hc := hhead hmeet.1 c rfl
      rw [hpart] at hc
      exact absurd hmeet.2 (by simp [hc])

theorem spells_of_lex {ts : List Token} {cs : List Char} (h : lex cs = .ok ts) : Spells ts cs := by
  induction hn : cs.length using Nat.strongRecOn generalizing cs ts with
  | ind n ih =>
    subst hn
    rw [lex_eq] at h
    cases hnext : next cs with
    | done =>
      rw [hnext] at h
      cases h
      exact .nil (isBlanks_of_next hnext)
    | stuck c =>
      rw [hnext] at h
      cases h
    | token t rest hlen =>
      rw [hnext] at h
      dsimp only at h
      obtain ⟨gap, used, hgap, ht, hcs, hstops⟩ := spellsToken_of_next hnext
      cases hrest : lex rest with
      | error c =>
        rw [hrest] at h
        cases h
      | ok us =>
        rw [hrest] at h
        cases h
        rw [hcs]
        exact .cons_of_head hgap ht (ih rest.length hlen hrest rfl) fun hname =>
          (hstops hname).head

/-- The character that stops the lexer stands in the text, behind tokens that were read. -/
theorem stuck_of_lex {cs : List Char} {c : Char} (h : lex cs = .error c) :
    ∃ ts before after, cs = before ++ c :: after ∧ Spells ts before ∧ StartsNoToken c := by
  induction hn : cs.length using Nat.strongRecOn generalizing cs with
  | ind n ih =>
    subst hn
    rw [lex_eq] at h
    cases hnext : next cs with
    | done =>
      rw [hnext] at h
      cases h
    | stuck d =>
      rw [hnext] at h
      cases h
      obtain ⟨gap, after, hgap, hcs, hc⟩ := startsNoToken_of_next hnext
      exact ⟨[], gap, after, hcs, .nil hgap, hc⟩
    | token t rest hlen =>
      rw [hnext] at h
      dsimp only at h
      obtain ⟨gap, used, hgap, ht, hcs, hstops⟩ := spellsToken_of_next hnext
      cases hrest : lex rest with
      | ok us =>
        rw [hrest] at h
        cases h
      | error d =>
        rw [hrest] at h
        cases h
        obtain ⟨us, before, after, rfl, hus, hc⟩ := ih rest.length hlen hrest rfl
        refine ⟨t :: us, gap ++ used ++ before, after, by rw [hcs]; simp, ?_, hc⟩
        refine .cons_of_head hgap ht hus fun hname d hd => (hstops hname).head d ?_
        rw [List.head?_append, Option.mem_def.mp hd]
        rfl

/-- The tokens of a text are those that it spells. -/
theorem lex_eq_ok_iff {ts : List Token} {cs : List Char} : lex cs = .ok ts ↔ Spells ts cs :=
  ⟨spells_of_lex, lex_of_spells⟩

end MemberEncoding.TypeRef
