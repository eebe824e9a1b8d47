import MemberEncoding.TypeRef.Token

/-!
# MemberEncoding.TypeRef.Spelling

**Spellings** of tokens: the texts that a list of tokens can be written as. Blanks may stand
anywhere between tokens and around the dots of a name, and have to where two names meet.
-/

namespace MemberEncoding.TypeRef

open Text (isBlank isIdentifierChars)

/-- A run of blanks, which may be empty. -/
def IsBlanks (cs : List Char) : Prop := ∀ c ∈ cs, isBlank c = true

/-- `cs` spells the dotted name `n`, both as characters: blanks may surround its dots. -/
inductive SpellsName : (n cs : List Char) → Prop
  /-- A name without dots. -/
  | last {n} : isIdentifierChars n = true → SpellsName n n
  /-- A part, a dot between blanks, and the further parts. -/
  | dot {part before after n cs} :
      isIdentifierChars part = true → IsBlanks before → IsBlanks after → SpellsName n cs →
      SpellsName (part ++ '.' :: n) (part ++ before ++ '.' :: after ++ cs)

/-- `cs` spells one token. -/
inductive SpellsToken : Token → List Char → Prop
  /-- A name. -/
  | name {n cs} : SpellsName n cs → SpellsToken (.name (String.ofList n)) cs
  /-- A symbol. -/
  | symbol {t c} : Token.symbol? c = some t → SpellsToken t [c]

/-- Is the token a name? -/
def Token.isName : Token → Bool
  | .name _ => true
  | _ => false

/-- Do two names meet if `t` stands before the tokens `ts`? -/
def namesMeet (t : Token) (ts : List Token) : Bool :=
  t.isName && (ts.head?.map Token.isName).getD false

/-- `cs` spells the tokens: each after a run of blanks, with blanks at the end. -/
inductive Spells : List Token → List Char → Prop
  /-- No tokens. -/
  | nil {gap} : IsBlanks gap → Spells [] gap
  /-- A token and more; where two names meet, what follows starts with a blank. -/
  | cons {gap t cs ts rest} :
      IsBlanks gap → SpellsToken t cs → Spells ts rest →
      (namesMeet t ts = true → ∃ c, rest.head? = some c ∧ isBlank c = true) →
      Spells (t :: ts) (gap ++ cs ++ rest)

end MemberEncoding.TypeRef
