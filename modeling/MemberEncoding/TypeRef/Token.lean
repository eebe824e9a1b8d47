import MemberEncoding.Text.Blank
import MemberEncoding.Text.Identifier

/-!
# MemberEncoding.TypeRef.Token

**The tokens of a type's text**: dotted names and six symbols. Blanks may stand between tokens and
around the dots of a name, and a name token never holds any.

One step (`next`) takes a token off the front of a text and carries the proof that the text got
shorter; `lex` repeats it (`lex_eq`).
-/

namespace MemberEncoding.TypeRef

open Text (isBlank isNameStart isNamePart)

/-- A token of a type's text. -/
inductive Token
  /-- Identifiers joined by dots. -/
  | name (s : String)
  /-- `<`. -/
  | less
  /-- `>`. -/
  | greater
  /-- `,`. -/
  | comma
  /-- `?`. -/
  | question
  /-- `[`. -/
  | opening
  /-- `]`. -/
  | closing
  deriving DecidableEq

namespace Token

/-- A token as it is written. -/
def text : Token → String
  | name s => s
  | less => "<"
  | greater => ">"
  | comma => ","
  | question => "?"
  | opening => "["
  | closing => "]"

/-- The symbol that is one character. -/
def symbol? (c : Char) : Option Token :=
  if c = '<' then some less
  else if c = '>' then some greater
  else if c = ',' then some comma
  else if c = '?' then some question
  else if c = '[' then some opening
  else if c = ']' then some closing
  else none

end Token

theorem length_dropWhile_le (p : Char → Bool) (cs : List Char) :
    (cs.dropWhile p).length ≤ cs.length := by
  induction cs with
  | nil => exact Nat.le_refl _
  | cons c cs ih =>
    rw [List.dropWhile_cons]
    split
    · exact Nat.le_succ_of_le ih
    · exact Nat.le_refl _

/-- A further part of a dotted name, and what follows it in a text of `n` characters. -/
structure Part (n : Nat) where
  chars : List Char
  rest : List Char
  shorter : rest.length < n

/-- The part after the next dot, if a dot and an identifier come next. -/
def nextPart? (cs : List Char) : Option (Part cs.length) :=
  match h : cs.dropWhile isBlank with
  | '.' :: ds =>
    match h' : ds.dropWhile isBlank with
    | c :: es =>
      if isNameStart c then
        some ⟨c :: es.takeWhile isNamePart, es.dropWhile isNamePart, by
          have h₁ := length_dropWhile_le isBlank cs
          have h₂ := length_dropWhile_le isBlank ds
          have h₃ := length_dropWhile_le isNamePart es
          rw [h] at h₁
          rw [h'] at h₂
          simp only [List.length_cons] at h₁ h₂
          omega⟩
      else none
    | [] => none
  | _ => none

/-- All further parts of a dotted name, each after its dot, and what follows the name. -/
def nameTail (cs : List Char) : List Char × List Char :=
  match nextPart? cs with
  | none => ([], cs)
  | some p =>
    let more := nameTail p.rest
    ('.' :: p.chars ++ more.1, more.2)
  termination_by cs.length
  decreasing_by exact p.shorter

theorem length_nameTail_le (cs : List Char) : (nameTail cs).2.length ≤ cs.length := by
  fun_induction nameTail cs with
  | case1 => exact Nat.le_refl _
  | case2 cs p _ _ ih => exact Nat.le_of_lt (Nat.lt_of_le_of_lt ih p.shorter)

/-- What the front of a text of `n` characters holds. -/
inductive Front (n : Nat)
  /-- Nothing but blanks. -/
  | done
  /-- A character that starts no token. -/
  | stuck (c : Char)
  /-- A token, and what follows it. -/
  | token (t : Token) (rest : List Char) (shorter : rest.length < n)

/-- Looks at the front of a text. -/
def next (cs : List Char) : Front cs.length :=
  match h : cs.dropWhile isBlank with
  | [] => .done
  | c :: ds =>
    have hd : ds.length < cs.length := by
      have := length_dropWhile_le isBlank cs
      rw [h] at this
      exact this
    if isNameStart c then
      let more := nameTail (ds.dropWhile isNamePart)
      .token (.name (String.ofList (c :: ds.takeWhile isNamePart ++ more.1))) more.2
        (Nat.lt_of_le_of_lt (length_nameTail_le _)
          (Nat.lt_of_le_of_lt (length_dropWhile_le isNamePart ds) hd))
    else
      match Token.symbol? c with
      | some t => .token t ds hd
      | none => .stuck c

/-- Reads all tokens and puts them in reverse before `seen`; fails on the first character that
starts none. -/
def lexFrom (seen : List Token) (cs : List Char) : Except Char (List Token) :=
  match next cs with
  | .done => .ok seen.reverse
  | .stuck c => .error c
  | .token t rest _ => lexFrom (t :: seen) rest
  termination_by cs.length

/-- The tokens of a text. -/
def lex (cs : List Char) : Except Char (List Token) := lexFrom [] cs

theorem lexFrom_eq (seen : List Token) (cs : List Char) :
    lexFrom seen cs = (lex cs).map (seen.reverse ++ ·) := by
  have key : ∀ (n : Nat) (cs : List Char), cs.length ≤ n → ∀ seen,
      lexFrom seen cs = (lexFrom [] cs).map (seen.reverse ++ ·) := by
    intro n
    induction n with
    | zero =>
      intro cs h seen
      obtain rfl := List.length_eq_zero_iff.mp (Nat.le_zero.mp h)
      simp [lexFrom, next, Except.map]
    | succ n ih =>
      intro cs h seen
      rw [lexFrom, lexFrom]
      cases next cs with
      | done => simp [Except.map]
      | stuck c => rfl
      | token t rest shorter =>
        have hle : rest.length ≤ n := Nat.le_of_lt_succ (Nat.lt_of_lt_of_le shorter h)
        dsimp only
        rw [ih rest hle (t :: seen), ih rest hle [t]]
        cases lexFrom [] rest <;> simp [Except.map]
  exact key cs.length cs (Nat.le_refl _) seen

/-- The tokens of a text are the one at its front and those of what follows it. -/
theorem lex_eq (cs : List Char) :
    lex cs =
      match next cs with
      | .done => .ok []
      | .stuck c => .error c
      | .token t rest _ => (lex rest).map (t :: ·) := by
  rw [lex, lexFrom]
  cases next cs with
  | done => rfl
  | stuck c => rfl
  | token t rest _ => exact lexFrom_eq [t] rest

end MemberEncoding.TypeRef
