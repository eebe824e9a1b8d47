import MemberEncoding.Reading
import MemberEncoding.Scope
import MemberEncoding.TypeRef.Token

/-!
# MemberEncoding.TypeRef.Reader

**Reading a type** in a scope of type variables. A name is a primitive type if it is a keyword of
one, else a type variable if it is in scope, and else a declared type; the first two take no type
arguments. Wildcards stand only where type arguments do.

The reader works on tokens and goes down into the arguments. Every reading returns the tokens that
it left over together with the proof that they are fewer (`Parsed`), which is why it ends.
-/

namespace MemberEncoding.TypeRef

/-- Something read off the front of the tokens `ts`, and the tokens after it. -/
structure Parsed (α : Type) (ts : List Token) where
  value : α
  rest : List Token
  shorter : rest.length < ts.length

/-- A name that is a type by itself, and its mention. -/
def ofName (s : Scope) (n : String) : Reading TypeFault TypeRef :=
  match Primitive.ofName? n with
  | some p => do
    Reading.mention (.primitive p)
    pure (.primitive p)
  | none =>
    if n ∈ s then pure (.var n)
    else do
      Reading.mention (.reference ⟨n⟩)
      pure (.reference ⟨n⟩)

/-- May a name head type arguments? -/
def isHead (s : Scope) (n : String) : Bool :=
  (Primitive.ofName? n).isNone && decide (n ∉ s)

/-- Reads the pairs of array brackets after a type that starts at the tokens `start`. -/
def arrays {start : List Token} (t : TypeRef) :
    (ts : List Token) → ts.length < start.length → Except TypeFault (Parsed TypeRef start)
  | .opening :: .closing :: ts, h => arrays t.array ts (by simp only [List.length_cons] at h; omega)
  | .opening :: _, _ => .error .openBrackets
  | ts, h => .ok ⟨t, ts, h⟩

mutual

/-- Reads a type off the front of the tokens. -/
def readType (s : Scope) (wildcards : Bool) (ts : List Token) :
    Reading TypeFault (Parsed TypeRef ts) :=
  match ts with
  | [] => .fail .endOfInput
  | .question :: ts =>
    if wildcards then
      match ts with
      | .name n :: ts =>
        match Side.ofKeyword? n with
        | some side =>
          (readType s false ts).map fun bound => ⟨.bounded side bound.value, bound.rest, by
            have := bound.shorter
            simp only [List.length_cons]
            omega⟩
        | none => pure ⟨.wildcard, .name n :: ts, Nat.lt_succ_self _⟩
      | ts => pure ⟨.wildcard, ts, Nat.lt_succ_self _⟩
    else .fail .misplacedWildcard
  | .name n :: ts =>
    if (Side.ofKeyword? n).isSome then .fail (.notAName n)
    else
      match ts with
      | .less :: ts =>
        if isHead s n then do
          -- The head is on record only if its arguments can be read.
          let args ← readArgs s ts
          Reading.mention (.reference ⟨n⟩)
          .of (arrays (.parameterized ⟨n⟩ args.value) args.rest (by
            have := args.shorter
            simp only [List.length_cons]
            omega))
        else .fail (.argumentsRefused n)
      | ts => do
        let t ← ofName s n
        .of (arrays t ts (Nat.lt_succ_self _))
  | t :: _ => .fail (.notAName t.text)
  termination_by (ts.length, 0)

/-- Reads type arguments up to their closing bracket. -/
def readArgs (s : Scope) (ts : List Token) : Reading TypeFault (Parsed TypeArgs ts) := do
  let ⟨arg, rest, h⟩ ← readType s true ts
  match rest, h with
  | .comma :: rest, h =>
    (readArgs s rest).map fun more => ⟨.cons arg more.value, more.rest, by
      have := more.shorter
      simp only [List.length_cons] at h
      omega⟩
  | .greater :: rest, h => pure ⟨.one arg, rest, Nat.lt_of_succ_lt h⟩
  | _, _ => .fail .openArguments
  termination_by (ts.length, 1)
  decreasing_by
    · exact Prod.Lex.right _ Nat.zero_lt_one
    · exact Prod.Lex.left _ _ (Nat.lt_of_succ_lt h)

end

/-- Reads a type that has to be all there is. -/
def ofTokens (s : Scope) (ts : List Token) : Reading TypeFault TypeRef :=
  match ts with
  | [] => .fail .emptyType
  | ts => do
    let parsed ← readType s false ts
    match parsed.rest with
    | [] => pure parsed.value
    | t :: _ => .fail (.leftover t.text)

/-- Reads the text of a type, and says what is wrong with it if it is none. -/
def ofChars (s : Scope) (cs : List Char) : Reading TypeFault TypeRef :=
  match lex cs with
  | .error c => .fail (.unexpectedCharacter c)
  | .ok ts => ofTokens s ts

/-- Reads the text of a type. -/
def read (s : Scope) (text : String) : Reading Error TypeRef :=
  (ofChars s text.toList).mapError (.unreadableType text)

end MemberEncoding.TypeRef
