import MemberEncoding.Body.Lexeme
import MemberEncoding.Body.OneLine
import MemberEncoding.Naming
import MemberEncoding.Parameter
import MemberEncoding.Role

/-!
# MemberEncoding.Element.Basic

**Elements**: members lifted from a template, each a field, a method, a builder method or a
synthesized accessor. An element's name is an identifier, its parameters have distinct names, and
it is not a field and a helper at once; these rules are part of the type, and `Element.make`
checks them in this order.
-/

namespace MemberEncoding

/-- What an element is made of. -/
structure ElementParts where
  name : String
  type : TypeRef
  naming : Naming
  params : List Parameter
  code : List Body.Term
  thrown : List TypeRef
  tags : TagSet
  /-- The type variables of the template around the element. -/
  ambient : Scope
  /-- The type parameters that the element declares itself. -/
  typeParams : List TypeParameter
  deriving DecidableEq

/-- A member of a template. -/
structure Element extends ElementParts where
  identifier : Text.isIdentifier name = true
  distinct_params : (params.map Parameter.name).Nodup
  not_field_and_helper : ¬ (Tag.field ∈ tags ∧ Tag.helper ∈ tags)
  deriving DecidableEq

namespace Element

/-- The element made of the parts, if they obey the rules. -/
def make (p : ElementParts) : Except Error Element := do
  let named ← Bearer.element.check p.name
  if hd : (p.params.map Parameter.name).Nodup then
    if ht : Tag.field ∈ p.tags ∧ Tag.helper ∈ p.tags then
      .error (.fieldAndHelper p.name)
    else .ok ⟨p, named.down, hd, ht⟩
  else .error (.duplicateParameters p.name (Text.repeated (p.params.map Parameter.name)))

/-- The element made of the parts and of what is offered as its tags, which is checked after the
name and before the other rules. -/
def makeTagged (p : ElementParts) (tags : List TagCandidate) : Except Error Element := do
  let _ ← Bearer.element.check p.name
  let tags ← TagSet.ofCandidates tags
  make { p with tags }

/-- The names of the roles that hold. -/
def roleNames (e : Element) : List String := e.tags.roleNames

/-- May the element be written inline? -/
def isInlinable (e : Element) : Bool := e.tags.isInlinable

/-- The body on one line, for an element that may be written inline and declares no type
parameters of its own; else nothing. -/
def oneLiner (e : Element) : List Body.Term :=
  if e.isInlinable && e.typeParams.isEmpty then Body.oneLiner e.code else []

/-- The element in reports. -/
def render (e : Element) : String :=
  "EncodedElement(" ++ e.name ++ "(" ++ ", ".intercalate (e.params.map Parameter.text) ++ "): "
    ++ e.type.text ++ " [" ++ ", ".intercalate e.tags.names ++ "])"

end Element

end MemberEncoding
