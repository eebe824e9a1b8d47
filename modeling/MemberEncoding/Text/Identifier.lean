/-!
# MemberEncoding.Text.Identifier

**Identifiers** are ASCII: a letter, underscore or dollar sign, then letters, digits, underscores
and dollar signs. `Char.isAlpha` and `Char.isAlphanum` know ASCII only, which is what is meant.
Dotted names are identifiers joined by dots.
-/

namespace MemberEncoding.Text

/-- May this character start an identifier? -/
def isNameStart (c : Char) : Bool :=
  c.isAlpha || c == '_' || c == '$'

/-- May this character stand inside an identifier? -/
def isNamePart (c : Char) : Bool :=
  c.isAlphanum || c == '_' || c == '$'

theorem isNamePart_of_isNameStart {c : Char} (h : isNameStart c = true) : isNamePart c = true := by
  simp only [isNameStart, isNamePart, Char.isAlphanum, Bool.or_eq_true] at *
  rcases h with (h | h) | h <;> simp [h]

/-- Is this run of characters an identifier? -/
def isIdentifierChars : List Char → Bool
  | [] => false
  | c :: cs => isNameStart c && cs.all isNamePart

/-- Is this text an identifier? -/
def isIdentifier (s : String) : Bool :=
  isIdentifierChars s.toList

/-- Is this text made of identifiers joined by dots? -/
def isDottedName (s : String) : Bool :=
  (s.toList.splitOn '.').all isIdentifierChars

end MemberEncoding.Text
