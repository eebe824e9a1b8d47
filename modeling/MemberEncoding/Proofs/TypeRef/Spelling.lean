import MemberEncoding.Proofs.TypeRef.RoundTrip

/-!
# MemberEncoding.Proofs.TypeRef.Spelling

**What texts spell** (`lex_inverts_spelling`): each list of tokens with dotted names has spellings,
the lexer takes every one of them back to the list, and all texts that it reads are spellings. Any
other text is refused for a character that it has and that starts no token.

A spelling of given tokens is found by writing each behind a blank (`spells_spaced`), which parts
any two names.
-/

namespace MemberEncoding.TypeRef

open Text (isBlank isNameStart isDottedName)

/-! ### A spelling for all tokens -/

/-- The tokens written one by one, each behind a blank. -/
def spaced : List Token → List Char
  | [] => []
  | t :: ts => [' '] ++ t.text.toList ++ spaced ts

theorem isBlanks_space : IsBlanks [' '] := by
  intro c hc
  rw [List.mem_singleton.mp hc]
  decide

/-- A token spells itself, a name provided that it is dotted. -/
theorem spellsToken_text {t : Token} (h : HasDottedNames [t]) : SpellsToken t t.text.toList := by
  cases t with
  | name n =>
    have hn := SpellsToken.name (spellsName_of_isDottedName (h n (List.mem_cons_self ..)))
    rwa [String.ofList_toList] at hn
  | less => exact .symbol (c := '<') rfl
  | greater => exact .symbol (c := '>') rfl
  | comma => exact .symbol (c := ',') rfl
  | question => exact .symbol (c := '?') rfl
  | opening => exact .symbol (c := '[') rfl
  | closing => exact .symbol (c := ']') rfl

theorem spells_spaced {ts : List Token} (h : HasDottedNames ts) : Spells ts (spaced ts) := by
  induction ts with
  | nil => exact .nil isBlanks_nil
  | cons t ts ih =>
    have ht : HasDottedNames [t] := fun n hn =>
      h n (by rw [List.mem_singleton.mp hn]; exact List.mem_cons_self ..)
    refine .cons isBlanks_space (spellsToken_text ht) (ih h.of_cons) fun hmeet => ?_
    cases ts with
    | nil => simp [namesMeet] at hmeet
    | cons u ts => exact ⟨' ', rfl, by decide⟩

/-- Tokens can be spelled exactly if their names are dotted. -/
theorem exists_spells_iff {ts : List Token} : (∃ cs, Spells ts cs) ↔ HasDottedNames ts :=
  ⟨fun ⟨_, h⟩ _ hn => h.isDottedName hn, fun h => ⟨_, spells_spaced h⟩⟩

/-! ### Texts that spell nothing -/

/-- A text without tokens is refused in any scope, for a character of its own. -/
theorem outcome_read_of_lex_eq_error {text : String} {c : Char} (h : lex text.toList = .error c)
    (s : Scope) :
    (read s text).outcome = .error (.unreadableType text (.unexpectedCharacter c)) := by
  rw [read, ofChars, h]
  rfl

/-- **Texts spell lists of tokens with dotted names.** The lexer returns the tokens that a text
spells, or refuses it for a character of its own that is not blank and starts no token. -/
theorem lex_inverts_spelling :
    (∀ ts cs, lex cs = .ok ts ↔ Spells ts cs) ∧
    (∀ ts, (∃ cs, Spells ts cs) ↔ HasDottedNames ts) ∧
    (∀ text : String, (∃ ts, lex text.toList = .ok ts) ∨
      ∃ c ts before after, lex text.toList = .error c ∧ text.toList = before ++ c :: after ∧
        Spells ts before ∧ StartsNoToken c ∧
        ∀ s, (read s text).outcome = .error (.unreadableType text (.unexpectedCharacter c)) ∧
          (Error.unreadableType text (.unexpectedCharacter c)).category = .typeText) := by
  refine ⟨fun _ _ => lex_eq_ok_iff, fun _ => exists_spells_iff, fun text => ?_⟩
  cases h : lex text.toList with
  | ok ts => exact .inl ⟨ts, rfl⟩
  | error c =>
    obtain ⟨ts, before, after, htext, hts, hc⟩ := stuck_of_lex h
    exact .inr ⟨c, ts, before, after, rfl, htext, hts, hc, fun s =>
      ⟨outcome_read_of_lex_eq_error h s, rfl⟩⟩

example : lex "a . b\tc\u2003.d [ ]".toList =
    .ok [.name "a.b", .name "c.d", .opening, .closing] := by cbv

example : lex "a. .b".toList = .error '.' := by cbv

end MemberEncoding.TypeRef
