import MemberEncoding.Scope
import MemberEncoding.Text.Identifier
import MemberEncoding.TypeRef.Basic

/-!
# MemberEncoding.TypeRef.Canonical

**Canonical types** over a scope are those that can be written down and read again in it. Every name
in them is a dotted name that reads as what it stands for: type variables are in scope, declared
types are not, and neither has the name of a primitive type or of a keyword. Wildcards stand only
where type arguments do.
-/

namespace MemberEncoding.TypeRef

/-- Is a name free to be given to a declared type or a type variable? -/
def isFreeName (n : String) : Bool :=
  Text.isDottedName n && (Primitive.ofName? n).isNone && (Side.ofKeyword? n).isNone

mutual

/-- Is a type canonical, where wildcards are allowed or not? -/
def isCanonical (s : Scope) (wildcards : Bool) : TypeRef → Bool
  | .primitive _ => true
  | .reference r => isFreeName r.name && decide (r.name ∉ s)
  | .parameterized head args =>
    isFreeName head.name && decide (head.name ∉ s) && areCanonical s args
  | .array element => isCanonical s false element
  | .var n => isFreeName n && decide (n ∈ s)
  | .wildcard => wildcards
  | .bounded _ bound => wildcards && isCanonical s false bound

/-- Are type arguments canonical? -/
def areCanonical (s : Scope) : TypeArgs → Bool
  | .one a => isCanonical s true a
  | .cons a more => isCanonical s true a && areCanonical s more

end

/-- Can the type be written down, and is it read again, in the scope? -/
def Canonical (s : Scope) (t : TypeRef) : Prop := isCanonical s false t = true

instance (s : Scope) (t : TypeRef) : Decidable (Canonical s t) :=
  inferInstanceAs (Decidable (isCanonical s false t = true))

end MemberEncoding.TypeRef
