import MemberEncoding.Body.Lexeme

/-!
# MemberEncoding.Body.Segmentation

**Segmentations** of a text into terms, described without reading it from left to right: the terms
join to the text, each has the shape of its kind, and each is as long as it can be, which is a
condition on neighbours.
-/

namespace MemberEncoding.Body

open Text (isNameStart isNamePart)

/-- What a literal between quotes `q` may hold: characters other than the quote, the backslash and
line breaks, and backslashes with any character after them. -/
inductive IsContent (q : Char) : List Char → Prop
  | nil : IsContent q []
  | plain {c cs} :
      c ≠ q → c ≠ '\\' → isBreak c = false → IsContent q cs → IsContent q (c :: cs)
  | escaped {c cs} : IsContent q cs → IsContent q ('\\' :: c :: cs)

/-- A literal between quotes `q`; `closed` tells whether the closing one is there. -/
def IsLiteral (q : Char) (closed : Bool) (cs : List Char) : Prop :=
  ∃ content, IsContent q content ∧ cs = q :: content ++ (if closed then [q] else [])

/-- Does the character start a term of more than one character, or one of a kind of its own? -/
def startsTerm (c : Char) : Bool :=
  isBreak c || isGap c || c == '"' || c == '\'' || isNameStart c || c.isDigit || isDelimiter c

/-- The characters have the shape of the kind. -/
def Kind.Shape : Kind → List Char → Prop
  | newline, cs => cs = ['\r', '\n'] ∨ cs = ['\r'] ∨ cs = ['\n']
  | whitespace, cs => cs ≠ [] ∧ ∀ c ∈ cs, isGap c = true
  | string, cs => ∃ closed, IsLiteral '"' closed cs
  | char, cs => ∃ closed, IsLiteral '\'' closed cs
  | word, cs =>
    ∃ c rest, cs = c :: rest ∧
      ((isNameStart c = true ∧ ∀ d ∈ rest, isNamePart d = true) ∨
        (c.isDigit = true ∧ ∀ d ∈ rest, isNumberPart d = true))
  | delimiter, cs => ∃ c, cs = [c] ∧ isDelimiter c = true
  | other, cs => ∃ c, cs = [c] ∧ startsTerm c = false
  | custom _ _, _ => False

/-- Could the first character of what follows extend a word? -/
def extendsWord (word : List Char) (next : Char) : Bool :=
  match word with
  | [] => false
  | c :: _ => if c.isDigit then isNumberPart next else isNamePart next

/-- A literal without its unescaped closing quote. -/
def Term.IsOpen (t : Term) : Prop :=
  (t.kind = .string ∧ ¬ IsLiteral '"' true t.text.toList) ∨
    (t.kind = .char ∧ ¬ IsLiteral '\'' true t.text.toList)

/-- The term cannot be longer, given the terms after it. -/
def Term.IsMaximal (t : Term) (next : List Term) : Prop :=
  (t.kind = .whitespace → ∀ u ∈ next.head?, u.kind ≠ .whitespace) ∧
  (t.text = "\r" → ∀ u ∈ next.head?, u.text ≠ "\n") ∧
  (t.kind = .word → ∀ c ∈ (charsOf next).head?, extendsWord t.text.toList c = false) ∧
  (t.IsOpen →
    next = [] ∨ (∃ u ∈ next.head?, u.kind = .newline) ∨ (∃ u, next = [u] ∧ u.text = "\\"))

/-- The terms are a segmentation of the text. -/
structure IsSegmentation (cs : List Char) (ts : List Term) : Prop where
  /-- Nothing is lost. -/
  joins : charsOf ts = cs
  /-- Every term has the shape of its kind. -/
  shaped : ∀ t ∈ ts, t.kind.Shape t.text.toList
  /-- No term could be longer. -/
  maximal : ∀ before t next, ts = before ++ t :: next → t.IsMaximal next

end MemberEncoding.Body
