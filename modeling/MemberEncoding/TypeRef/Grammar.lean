import MemberEncoding.Scope
import MemberEncoding.TypeRef.Basic
import MemberEncoding.TypeRef.Token

/-!
# MemberEncoding.TypeRef.Grammar

**The grammar of types**. A derivation is a datum: it says by which rules a list of tokens comes
about, and with them which type the tokens denote in a scope.

    Type ::= Base | Type "[" "]"
    Base ::= name | head "<" Args ">"
    Args ::= Arg | Arg "," Args
    Arg  ::= Type | "?" | "?" "extends" Type | "?" "super" Type

A name is any name token but the two keywords of wildcards, and a head is a name that is neither a
primitive type nor a type variable in scope.
-/

namespace MemberEncoding.TypeRef

/-- May a token be the name of a type? The keywords of wildcards may not. -/
def isTypeName (n : String) : Bool := (Side.ofKeyword? n).isNone

/-- The type that a name denotes by itself. -/
def named (s : Scope) (n : String) : TypeRef :=
  match Primitive.ofName? n with
  | some p => .primitive p
  | none => if n ∈ s then .var n else .reference ⟨n⟩

mutual

/-- The derivations of tokens that are a type and denote it. -/
inductive TypeDerivation (s : Scope) : List Token → TypeRef → Type
  /-- A type without array brackets. -/
  | base {ts t} : BaseDerivation s ts t → TypeDerivation s ts t
  /-- A type with another pair of array brackets. -/
  | array {ts t} : TypeDerivation s ts t → TypeDerivation s (ts ++ [.opening, .closing]) t.array

/-- The derivations of tokens that are a type without array brackets and denote it. -/
inductive BaseDerivation (s : Scope) : List Token → TypeRef → Type
  /-- A name. -/
  | name {n} : isTypeName n = true → BaseDerivation s [.name n] (named s n)
  /-- A name with type arguments. -/
  | parameterized {n ts args} :
      isTypeName n = true → Primitive.ofName? n = none → n ∉ s → ArgsDerivation s ts args →
      BaseDerivation s (.name n :: .less :: (ts ++ [.greater])) (.parameterized ⟨n⟩ args)

/-- The derivations of tokens that are type arguments and denote them. -/
inductive ArgsDerivation (s : Scope) : List Token → TypeArgs → Type
  /-- The last argument. -/
  | one {ts a} : ArgDerivation s ts a → ArgsDerivation s ts (.one a)
  /-- An argument and more. -/
  | cons {ts us a as} :
      ArgDerivation s ts a → ArgsDerivation s us as →
      ArgsDerivation s (ts ++ .comma :: us) (.cons a as)

/-- The derivations of tokens that are a type argument and denote it. -/
inductive ArgDerivation (s : Scope) : List Token → TypeRef → Type
  /-- A type. -/
  | type {ts t} : TypeDerivation s ts t → ArgDerivation s ts t
  /-- A wildcard without a bound. -/
  | wildcard : ArgDerivation s [.question] .wildcard
  /-- A wildcard with a bound. -/
  | bounded {ts t} (side : Side) :
      TypeDerivation s ts t →
      ArgDerivation s (.question :: .name side.keyword :: ts) (.bounded side t)

end

end MemberEncoding.TypeRef
