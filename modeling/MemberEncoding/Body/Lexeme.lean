import MemberEncoding.Body.Term
import MemberEncoding.Text.Identifier

/-!
# MemberEncoding.Body.Lexeme

**The body lexer** cuts a text into terms, each as long as its kind allows, and loses nothing: the
texts of the terms join to the input (`join_terms`).

One step (`lexeme`) reads a term off a text whose first character is known. The first character
alone decides the kind; how far the term extends is a matter of `List.takeWhile`, except for
literals, where a backslash protects the character after it.
-/

namespace MemberEncoding.Body

open Text (isNameStart isNamePart)

/-- The characters of whitespace terms. -/
def isGap (c : Char) : Bool :=
  c == ' ' || c == '\t' || c == '\x0c'

/-- The characters of line breaks. -/
def isBreak (c : Char) : Bool :=
  c == '\r' || c == '\n'

/-- The characters that a term led by a digit may hold. -/
def isNumberPart (c : Char) : Bool :=
  c.isAlphanum || c == '_' || c == '.'

/-- Brackets and separators. -/
def isDelimiter (c : Char) : Bool :=
  ['(', ')', '\x7b', '\x7d', '[', ']', ';', ',', '.', '@'].contains c

/-- Reads a literal after its opening quote `q`, up to and including the closing one, and puts what
it holds in reverse before `seen`. A backslash protects any character after it; a line break ends
the literal, and so does a backslash that is the last character. -/
def literalFrom (q : Char) (seen : List Char) : List Char → List Char × List Char
  | [] => (seen.reverse, [])
  | '\\' :: c :: cs => literalFrom q (c :: '\\' :: seen) cs
  | c :: cs =>
    if c = q then ((c :: seen).reverse, cs)
    else if c = '\\' || isBreak c then (seen.reverse, c :: cs)
    else literalFrom q (c :: seen) cs

/-- A literal's text after its opening quote `q`, and what follows the literal. -/
def literal (q : Char) (cs : List Char) : List Char × List Char :=
  literalFrom q [] cs

/-- A term cut off the front of a text: its kind, its text after the first character, and what
follows it. -/
structure Lexeme where
  kind : Kind
  body : List Char
  rest : List Char

/-- The first term of the text `c :: cs`. -/
def lexeme (c : Char) (cs : List Char) : Lexeme :=
  if c = '\r' then
    match cs with
    | '\n' :: rest => ⟨.newline, ['\n'], rest⟩
    | _ => ⟨.newline, [], cs⟩
  else if c = '\n' then ⟨.newline, [], cs⟩
  else if isGap c then ⟨.whitespace, cs.takeWhile isGap, cs.dropWhile isGap⟩
  else if c = '"' then ⟨.string, (literal c cs).1, (literal c cs).2⟩
  else if c = '\'' then ⟨.char, (literal c cs).1, (literal c cs).2⟩
  else if isNameStart c then ⟨.word, cs.takeWhile isNamePart, cs.dropWhile isNamePart⟩
  else if c.isDigit then ⟨.word, cs.takeWhile isNumberPart, cs.dropWhile isNumberPart⟩
  else if isDelimiter c then ⟨.delimiter, [], cs⟩
  else ⟨.other, [], cs⟩

theorem literalFrom_append (q : Char) (seen cs : List Char) :
    (literalFrom q seen cs).1 ++ (literalFrom q seen cs).2 = seen.reverse ++ cs := by
  fun_induction literalFrom q seen cs <;> simp_all

/-- A literal and what follows it make up the text. -/
theorem literal_append (q : Char) (cs : List Char) :
    (literal q cs).1 ++ (literal q cs).2 = cs := by
  simpa [literal] using literalFrom_append q [] cs

/-- A term and what follows it make up the text. -/
theorem lexeme_append (c : Char) (cs : List Char) :
    (lexeme c cs).body ++ (lexeme c cs).rest = cs := by
  unfold lexeme
  repeat' split
  all_goals simp [List.takeWhile_append_dropWhile, literal_append]

theorem length_rest_le (c : Char) (cs : List Char) : (lexeme c cs).rest.length ≤ cs.length := by
  have h := congrArg List.length (lexeme_append c cs)
  simp only [List.length_append] at h
  omega

/-- Reads all terms and puts them in reverse before `seen`. -/
def termsFrom (seen : List Term) : List Char → List Term
  | [] => seen.reverse
  | c :: cs =>
    let l := lexeme c cs
    termsFrom (⟨l.kind, String.ofList (c :: l.body)⟩ :: seen) l.rest
  termination_by cs => cs.length
  decreasing_by exact Nat.lt_succ_of_le (length_rest_le c cs)

/-- The terms of a run of characters. -/
def termsOf (cs : List Char) : List Term :=
  termsFrom [] cs

/-- The terms of a text. -/
def terms (s : String) : List Term :=
  termsOf s.toList

theorem termsFrom_eq (seen : List Term) (cs : List Char) :
    termsFrom seen cs = seen.reverse ++ termsOf cs := by
  have key : ∀ (n : Nat) (cs : List Char), cs.length ≤ n → ∀ seen,
      termsFrom seen cs = seen.reverse ++ termsFrom [] cs := by
    intro n
    induction n with
    | zero =>
      intro cs h seen
      rw [List.length_eq_zero_iff.mp (Nat.le_zero.mp h)]
      simp [termsFrom]
    | succ n ih =>
      intro cs h seen
      cases cs with
      | nil => simp [termsFrom]
      | cons c cs =>
        have hle : (lexeme c cs).rest.length ≤ n :=
          Nat.le_trans (length_rest_le c cs) (Nat.le_of_succ_le_succ h)
        rw [termsFrom, ih _ hle, termsFrom, ih _ hle [_]]
        simp
  exact key cs.length cs (Nat.le_refl _) seen

@[simp] theorem termsOf_nil : termsOf [] = [] := by simp [termsOf, termsFrom]

theorem termsOf_cons (c : Char) (cs : List Char) :
    termsOf (c :: cs) =
      ⟨(lexeme c cs).kind, String.ofList (c :: (lexeme c cs).body)⟩
        :: termsOf (lexeme c cs).rest := by
  rw [termsOf, termsFrom, termsFrom_eq]
  simp

/-- The characters of a body. -/
def charsOf (ts : List Term) : List Char :=
  ts.flatMap fun t => t.text.toList

theorem charsOf_termsOf (cs : List Char) : charsOf (termsOf cs) = cs := by
  have key : ∀ (n : Nat) (cs : List Char), cs.length ≤ n → charsOf (termsOf cs) = cs := by
    intro n
    induction n with
    | zero =>
      intro cs h
      rw [List.length_eq_zero_iff.mp (Nat.le_zero.mp h)]
      simp [charsOf]
    | succ n ih =>
      intro cs h
      cases cs with
      | nil => simp [charsOf]
      | cons c cs =>
        have hle : (lexeme c cs).rest.length ≤ n :=
          Nat.le_trans (length_rest_le c cs) (Nat.le_of_succ_le_succ h)
        have := ih _ hle
        rw [termsOf_cons]
        simp only [charsOf, List.flatMap_cons, String.toList_ofList] at this ⊢
        rw [this]
        simp [lexeme_append]
  exact key cs.length cs (Nat.le_refl _)

theorem toList_join (ts : List Term) : (join ts).toList = charsOf ts := by
  rw [join, String.toList_join, List.flatMap_map]
  rfl

theorem join_terms (s : String) : join (terms s) = s := by
  rw [← String.toList_inj, toList_join, terms, charsOf_termsOf]

end MemberEncoding.Body
