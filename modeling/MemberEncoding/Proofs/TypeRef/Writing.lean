import MemberEncoding.Proofs.TypeRef.Derivation
import MemberEncoding.Proofs.TypeRef.Lexing
import MemberEncoding.TypeRef.Canonical

/-!
# MemberEncoding.Proofs.TypeRef.Writing

**The text of a canonical type** spells the type's tokens (`spells_text`) and has no blanks at its
ends (`isTight_text`). The first is what reading it again needs, and the second is what the short
forms need that put types next to other texts; they also need that their delimiters occur in no
type, which holds for every text that can be read (`Spells.isTypeChar`).

Names are all that could spoil this: those of a canonical type are dotted, and everything else is
fixed text.
-/

namespace MemberEncoding.TypeRef

open Text (isBlank isNamePart isIdentifierChars isDottedName IsTight isTight_of_forall
  isNamePart_of_mem isBlank_eq_false_of_isNamePart)

theorem isBlanks_nil : IsBlanks [] := fun _ hc => absurd hc List.not_mem_nil

/-! ### Dotted names -/

theorem not_dot_mem {part : List Char} (h : isIdentifierChars part = true) : '.' ∉ part :=
  fun hmem => absurd (isNamePart_of_mem h hmem) (by decide)

/-- An identifier is a dotted name without dots. -/
theorem isDottedName_of_isIdentifier {n : String} (h : Text.isIdentifier n = true) :
    isDottedName n = true := by
  rw [isDottedName, List.splitOn_eq_singleton (not_dot_mem h), List.all_cons, List.all_nil,
    Bool.and_true]
  exact h

/-- What is spelled as a name is a dotted name. -/
theorem SpellsName.all_splitOn {n cs : List Char} (h : SpellsName n cs) :
    (n.splitOn '.').all isIdentifierChars = true := by
  induction h with
  | last hid =>
    rw [List.splitOn_eq_singleton (not_dot_mem hid)]
    simpa using hid
  | dot hpart _ _ _ ih =>
    rw [List.splitOn_append_cons_self_of_not_mem (not_dot_mem hpart), List.all_cons, hpart, ih]
    rfl

/-- Identifiers joined by dots spell themselves. -/
theorem spellsName_intercalate {parts : List (List Char)} (hne : parts ≠ [])
    (h : ∀ part ∈ parts, isIdentifierChars part = true) :
    SpellsName (['.'].intercalate parts) (['.'].intercalate parts) := by
  induction parts with
  | nil => exact absurd rfl hne
  | cons part parts ih =>
    have hpart := h part (List.mem_cons_self ..)
    cases parts with
    | nil =>
      rw [List.intercalate_singleton]
      exact .last hpart
    | cons next parts =>
      have hrest := ih (by simp) fun q hq => h q (List.mem_cons_of_mem _ hq)
      have hdot := SpellsName.dot hpart isBlanks_nil isBlanks_nil hrest
      rw [List.intercalate_cons_cons]
      simpa using hdot

theorem spellsName_of_isDottedName {n : String} (h : isDottedName n = true) :
    SpellsName n.toList n.toList := by
  have hparts := List.all_eq_true.mp h
  have hspells := spellsName_intercalate (List.splitOn_ne_nil '.' n.toList) hparts
  rwa [List.intercalate_splitOn] at hspells

/-- The names among the tokens of a text are dotted names. -/
theorem Spells.isDottedName {ts : List Token} {cs : List Char} (h : Spells ts cs) {n : String}
    (hn : .name n ∈ ts) : isDottedName n = true := by
  induction h with
  | nil _ => cases hn
  | cons _ ht _ _ ih =>
    rcases List.mem_cons.mp hn with rfl | hn
    · cases ht with
      | name hspells =>
        rw [Text.isDottedName, String.toList_ofList]
        exact hspells.all_splitOn
      | symbol hs =>
        have := isName_of_symbol? hs
        cases this
    · exact ih hn

/-! ### What a spelling is made of -/

/-- May this character stand in the text of a type? -/
def isTypeChar (c : Char) : Bool :=
  isBlank c || isNamePart c || c == '.' || (Token.symbol? c).isSome

theorem isTypeChar_of_isBlank {c : Char} (h : isBlank c = true) : isTypeChar c = true := by
  simp [isTypeChar, h]

theorem isTypeChar_of_isIdentifierChars {cs : List Char} (h : isIdentifierChars cs = true) :
    ∀ c ∈ cs, isTypeChar c = true := by
  intro c hc
  simp [isTypeChar, isNamePart_of_mem h hc]

theorem SpellsName.isTypeChar {n cs : List Char} (h : SpellsName n cs) :
    ∀ c ∈ cs, isTypeChar c = true := by
  induction h with
  | last hid => exact isTypeChar_of_isIdentifierChars hid
  | dot hpart hb ha _ ih =>
    intro c hc
    simp only [List.mem_append, List.mem_cons] at hc
    rcases hc with ((hc | hc) | (rfl | hc)) | hc
    · exact isTypeChar_of_isIdentifierChars hpart c hc
    · exact isTypeChar_of_isBlank (hb c hc)
    · decide
    · exact isTypeChar_of_isBlank (ha c hc)
    · exact ih c hc

/-- A text that spells tokens holds no character but those of names, brackets and separators. -/
theorem Spells.isTypeChar {ts : List Token} {cs : List Char} (h : Spells ts cs) :
    ∀ c ∈ cs, isTypeChar c = true := by
  induction h with
  | nil hgap => exact fun c hc => isTypeChar_of_isBlank (hgap c hc)
  | cons hgap ht _ _ ih =>
    intro c hc
    simp only [List.mem_append] at hc
    rcases hc with (hc | hc) | hc
    · exact isTypeChar_of_isBlank (hgap c hc)
    · cases ht with
      | name hn => exact hn.isTypeChar c hc
      | symbol hs =>
        rw [List.mem_singleton.mp hc]
        simp [TypeRef.isTypeChar, hs]
    · exact ih c hc

/-! ### Spelling piece by piece -/

theorem Spells.pad {ts : List Token} {cs gap : List Char} (hgap : IsBlanks gap)
    (h : Spells ts cs) : Spells ts (gap ++ cs) := by
  cases h with
  | nil hgap' =>
    refine .nil fun c hc => ?_
    rcases List.mem_append.mp hc with hc | hc
    · exact hgap c hc
    · exact hgap' c hc
  | @cons gap' t cs ts rest hgap' ht hrest hmeet =>
    have hboth : IsBlanks (gap ++ gap') := by
      intro c hc
      rcases List.mem_append.mp hc with hc | hc
      · exact hgap c hc
      · exact hgap' c hc
    have hcons := Spells.cons hboth ht hrest hmeet
    simpa using hcons

theorem Spells.symbol {t : Token} {c : Char} {ts : List Token} {cs : List Char}
    (hs : Token.symbol? c = some t) (h : Spells ts cs) : Spells (t :: ts) (c :: cs) := by
  have hcons := Spells.cons isBlanks_nil (.symbol hs) h (by
    simp [namesMeet, isName_of_symbol? hs])
  simpa using hcons

theorem spells_name {n : String} (h : isDottedName n = true) : Spells [.name n] n.toList := by
  have hname := SpellsToken.name (spellsName_of_isDottedName h)
  rw [String.ofList_toList] at hname
  have hcons := Spells.cons isBlanks_nil hname (.nil isBlanks_nil) (by simp [namesMeet])
  simpa using hcons

/-- Two spellings make one where no two names meet. -/
theorem Spells.append {ts us : List Token} {cs ds : List Char} (h : Spells ts cs)
    (h' : Spells us ds) (hmeet : ∀ t, namesMeet t us = false) : Spells (ts ++ us) (cs ++ ds) := by
  induction h with
  | nil hgap => exact h'.pad hgap
  | @cons gap t cs ts rest hgap ht hrest hparted ih =>
    have hcons := Spells.cons hgap ht ih fun hm => by
      cases ts with
      | nil =>
        -- Only the last token has a new neighbour.
        rw [List.nil_append, hmeet t] at hm
        cases hm
      | cons u ts =>
        obtain ⟨c, hc, hblank⟩ := hparted hm
        exact ⟨c, by rw [List.head?_append, hc]; rfl, hblank⟩
    simpa using hcons

/-! ### The text of a type -/

theorem argTexts_ne_nil (args : TypeArgs) : argTexts args ≠ [] := by
  cases args <;> simp [argTexts]

/-- The characters of type arguments. -/
def argChars (args : TypeArgs) : List Char := (", ".intercalate (argTexts args)).toList

@[simp] theorem argChars_one (a : TypeRef) : argChars (.one a) = a.text.toList := by
  simp [argChars, argTexts]

@[simp] theorem argChars_cons (a : TypeRef) (more : TypeArgs) :
    argChars (.cons a more) = a.text.toList ++ ',' :: ' ' :: argChars more := by
  rw [argChars, argTexts, String.intercalate_cons_of_ne_nil (argTexts_ne_nil more)]
  simp [argChars]

theorem toList_text_parameterized (head : Reference) (args : TypeArgs) :
    (parameterized head args).text.toList
      = head.name.toList ++ '<' :: (argChars args ++ ['>']) := by
  simp [text, argChars]

theorem toList_text_array (element : TypeRef) :
    (array element).text.toList = element.text.toList ++ ['[', ']'] := by
  simp [text]

theorem toList_text_bounded (side : Side) (bound : TypeRef) :
    (bounded side bound).text.toList
      = '?' :: ' ' :: (side.keyword.toList ++ ' ' :: bound.text.toList) := by
  simp [text]

theorem isDottedName_primitive (p : Primitive) : isDottedName p.name = true := by
  cases p <;> decide +kernel

theorem isDottedName_keyword (side : Side) : isDottedName side.keyword = true := by
  cases side <;> decide +kernel

theorem isDottedName_of_isFreeName {n : String} (h : isFreeName n = true) :
    isDottedName n = true := by
  simp only [isFreeName, Bool.and_eq_true] at h
  exact h.1.1

variable {s : Scope}

mutual

/-- The text of a canonical type spells its tokens. -/
theorem spells_text : {t : TypeRef} → {wildcards : Bool} → isCanonical s wildcards t = true →
    Spells t.tokens t.text.toList
  | primitive p, _, _ => spells_name (isDottedName_primitive p)
  | reference r, _, h => by
    simp only [isCanonical, Bool.and_eq_true] at h
    exact spells_name (isDottedName_of_isFreeName h.1)
  | parameterized head args, _, h => by
    simp only [isCanonical, Bool.and_eq_true] at h
    have hargs := spells_argTexts h.2
    have hclose : Spells [.greater] ['>'] := .symbol (by decide) (.nil isBlanks_nil)
    have htail : Spells (.less :: (argTokens args ++ [.greater]))
        ('<' :: (argChars args ++ ['>'])) :=
      .symbol (by decide) (hargs.append hclose (by simp [namesMeet, Token.isName]))
    rw [toList_text_parameterized]
    exact (spells_name (isDottedName_of_isFreeName h.1.1)).append htail
      (by simp [namesMeet, Token.isName])
  | array element, _, h => by
    simp only [isCanonical] at h
    have hbrackets : Spells [.opening, .closing] ['[', ']'] :=
      .symbol (by decide) (.symbol (by decide) (.nil isBlanks_nil))
    rw [toList_text_array]
    exact (spells_text h).append hbrackets (by simp [namesMeet, Token.isName])
  | var n, _, h => by
    simp only [isCanonical, Bool.and_eq_true] at h
    exact spells_name (isDottedName_of_isFreeName h.1)
  | wildcard, _, _ => .symbol (by decide) (.nil isBlanks_nil)
  | bounded side bound, _, h => by
    simp only [isCanonical, Bool.and_eq_true] at h
    have hblank : IsBlanks [' '] := Text.isBlank_of_mem_space
    have hbound := (spells_text h.2).pad hblank
    have hkeyword := SpellsToken.name (spellsName_of_isDottedName (isDottedName_keyword side))
    rw [String.ofList_toList] at hkeyword
    have htail := Spells.cons hblank hkeyword hbound fun _ => ⟨' ', rfl, by decide⟩
    rw [toList_text_bounded]
    exact .symbol (by decide) (by simpa using htail)

/-- The text of canonical type arguments spells their tokens. -/
theorem spells_argTexts : {args : TypeArgs} → areCanonical s args = true →
    Spells (argTokens args) (argChars args)
  | .one a, h => by
    rw [argChars_one]
    exact spells_text h
  | .cons a more, h => by
    simp only [areCanonical, Bool.and_eq_true] at h
    have hblank : IsBlanks [' '] := Text.isBlank_of_mem_space
    have hmore : Spells (.comma :: argTokens more) (',' :: ' ' :: argChars more) :=
      .symbol (by decide) ((spells_argTexts h.2).pad hblank)
    rw [argChars_cons]
    exact (spells_text h.1).append hmore (by simp [namesMeet, Token.isName])

end

/-! ### Its ends -/

/-- A name holds no blanks, however it is spelled. -/
theorem SpellsName.isBlank_eq_false {n cs : List Char} (h : SpellsName n cs) :
    ∀ c ∈ n, isBlank c = false := by
  induction h with
  | last hid => exact fun c hc => isBlank_eq_false_of_isNamePart (isNamePart_of_mem hid hc)
  | dot hpart _ _ _ ih =>
    intro c hc
    simp only [List.mem_append, List.mem_cons] at hc
    rcases hc with hc | rfl | hc
    · exact isBlank_eq_false_of_isNamePart (isNamePart_of_mem hpart hc)
    · decide
    · exact ih c hc

theorem isTight_of_isDottedName {n : String} (h : isDottedName n = true) : IsTight n.toList := by
  have hspells := spellsName_of_isDottedName h
  obtain ⟨c, ds, hcs, -⟩ := hspells.first
  exact isTight_of_forall (by simp [hcs]) hspells.isBlank_eq_false

theorem isTight_singleton {c : Char} (h : isBlank c = false) : IsTight [c] :=
  isTight_of_forall (by simp) (by simpa using h)

/-- The text of a canonical type has no blanks at its ends. -/
theorem isTight_text : {t : TypeRef} → {wildcards : Bool} → isCanonical s wildcards t = true →
    IsTight t.text.toList
  | primitive p, _, _ => isTight_of_isDottedName (isDottedName_primitive p)
  | reference r, _, h => by
    simp only [isCanonical, Bool.and_eq_true] at h
    exact isTight_of_isDottedName (isDottedName_of_isFreeName h.1)
  | parameterized head args, _, h => by
    simp only [isCanonical, Bool.and_eq_true] at h
    have hhead := isTight_of_isDottedName (isDottedName_of_isFreeName h.1.1)
    have hclose := hhead.append (isTight_singleton (c := '>') (by decide)) ('<' :: argChars args)
    rw [toList_text_parameterized]
    simpa using hclose
  | array element, _, h => by
    simp only [isCanonical] at h
    have hclose := (isTight_text h).append (isTight_singleton (c := ']') (by decide)) ['[']
    rw [toList_text_array]
    simpa using hclose
  | var n, _, h => by
    simp only [isCanonical, Bool.and_eq_true] at h
    exact isTight_of_isDottedName (isDottedName_of_isFreeName h.1)
  | wildcard, _, _ => isTight_singleton (by decide)
  | bounded side bound, _, h => by
    simp only [isCanonical, Bool.and_eq_true] at h
    have hopen := isTight_singleton (c := '?') (by decide)
    have hall := hopen.append (isTight_text h.2) (' ' :: (side.keyword.toList ++ [' ']))
    rw [toList_text_bounded]
    simpa using hall

end MemberEncoding.TypeRef
