import MemberEncoding.TypeRef.Reader

/-!
# MemberEncoding.TypeRef.Walk

**Walks over the tokens of a type**: the reading of a type by position, with nothing taken for
granted. A token is fetched at a position, where there may be none. A type is made by a maker, which
may refuse its parts, and a type variable is looked up in the scope, which may not hold it. And no
walk is known to end: each call and each round of a loop is one level deeper than the one before it,
and a walk may only go down to a depth that is given.

The reader (`MemberEncoding.TypeRef.Reader`) leaves no room for any of this, since it goes down its
list of tokens and its types cannot be made of wrong parts. A walk puts nothing on record; what is
read does not depend on it (`Reading.outcome_bind`).
-/

namespace MemberEncoding.TypeRef

/-- What can end a walk before it returns. -/
inductive Mishap
  /-- The text is refused, or a maker refuses the parts of a type, or a scope a name. -/
  | refused (e : Error)
  /-- There is no token at the position. -/
  | noToken (position : Nat)
  /-- The walk is not over at the depth that is given. -/
  | tooDeep

/-- What comes of a walk. -/
abbrev Walk : Type → Type := Except Mishap

namespace Walk

variable {α : Type}

/-- Refuses the text for a fault. -/
def refuse (text : String) (fault : TypeFault) : Walk α :=
  .error (.refused (.unreadableType text fault))

/-- Takes what is made, or passes on why it is not. -/
def made (x : Except Error α) : Walk α := x.mapError .refused

@[simp] theorem made_ok (a : α) : made (.ok a) = pure a := rfl

/-- Fetches the token at a position. -/
def token (ts : List Token) (pos : Nat) : Walk Token :=
  match ts[pos]? with
  | some t => pure t
  | none => .error (.noToken pos)

/-- Looks ahead: is there a token at the position, and does it pass the test? -/
def sees (ts : List Token) (pos : Nat) (test : Token → Bool) : Walk Bool :=
  if pos < ts.length then do
    let t ← token ts pos
    pure (test t)
  else pure false

end Walk

open Walk (refuse made token sees)

/-- Is the token one of the keywords that come before the bound of a wildcard? -/
def Token.isSide : Token → Bool
  | .name n => (Side.ofKeyword? n).isSome
  | _ => false

/-- Makes the type that a name is by itself: finds the primitive type, or looks up the variable. -/
def makeNamed (s : Scope) (n : String) : Except Error TypeRef :=
  if (Primitive.ofName? n).isSome then (Primitive.ofName n).map .primitive
  else if n ∈ s then (s.lookup n).map .var
  else .ok (.reference ⟨n⟩)

section

variable (s : Scope) (text : String) (ts : List Token)

/-- Goes over the pairs of array brackets behind a type, from a position on. -/
def walkBrackets : (depth : Nat) → (t : TypeRef) → (pos : Nat) → Walk (Nat × TypeRef)
  | 0, _, _ => .error .tooDeep
  | depth + 1, t, pos => do
    if ← sees ts pos (· == .opening) then
      if ← sees ts (pos + 1) (· == .closing) then
        walkBrackets depth t.array (pos + 2)
      else
        refuse text .openBrackets
    else
      pure (pos, t)

mutual

/-- Goes over a type from a position on, and returns the position behind it and the type. -/
def walkType : (depth : Nat) → (wildcards : Bool) → (pos : Nat) → Walk (Nat × TypeRef)
  | 0, _, _ => .error .tooDeep
  | depth + 1, wildcards, pos => do
    if ts.length ≤ pos then
      refuse text .endOfInput
    else
      match ← token ts pos with
      | .question =>
        if wildcards then
          if ← sees ts (pos + 1) Token.isSide then
            let kind ← token ts (pos + 1)
            let bound ← walkType depth false (pos + 2)
            let t ← made (ofWildcard kind.text (some bound.2))
            pure (bound.1, t)
          else
            let t ← made (ofWildcard "" none)
            pure (pos + 1, t)
        else
          refuse text .misplacedWildcard
      | .name n =>
        if (Side.ofKeyword? n).isSome then
          refuse text (.notAName n)
        else if ← sees ts (pos + 1) (· == .less) then
          if isHead s n then
            let args ← walkArgs depth [] (pos + 2)
            let t ← made (ofArguments n args.2)
            walkBrackets text ts depth t args.1
          else
            refuse text (.argumentsRefused n)
        else
          let t ← made (makeNamed s n)
          walkBrackets text ts depth t (pos + 1)
      | t => refuse text (.notAName t.text)

/-- Goes over type arguments from a position on, and puts them behind those there are. -/
def walkArgs : (depth : Nat) → (args : List TypeRef) → (pos : Nat) → Walk (Nat × List TypeRef)
  | 0, _, _ => .error .tooDeep
  | depth + 1, args, pos => do
    let arg ← walkType depth true pos
    let args := args ++ [arg.2]
    if ← sees ts arg.1 (· == .comma) then
      walkArgs depth args (arg.1 + 1)
    else if ← sees ts arg.1 (· == .greater) then
      pure (arg.1 + 1, args)
    else
      refuse text .openArguments

end

/-- Goes over the text of a type, which has to be all there is. Two levels for each token do. -/
def walkText : Walk TypeRef :=
  match lex text.toList with
  | .error c => refuse text (.unexpectedCharacter c)
  | .ok ts =>
    if ts = [] then
      refuse text .emptyType
    else do
      let t ← walkType s text ts (2 * ts.length + 1) false 0
      if t.1 = ts.length then
        pure t.2
      else
        let next ← token ts t.1
        refuse text (.leftover next.text)

end

end MemberEncoding.TypeRef
