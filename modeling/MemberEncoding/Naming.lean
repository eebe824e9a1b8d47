import MemberEncoding.Error
import MemberEncoding.Text.Identifier

/-!
# MemberEncoding.Naming

**Naming templates** say how the name of a member is derived from the name of an attribute. A
template with a star, such as `with*`, puts text around the attribute's name, and capitalizes it
when text comes before it; a template without a star is the name itself.

`Naming.apply` derives a name and `Naming.detect` recovers the attribute's name from it.
-/

namespace MemberEncoding

/-- A naming template. -/
inductive Naming
  /-- One name for every attribute. -/
  | constant (name : String) (nonempty : name ≠ "")
  /-- The attribute's name between two texts. -/
  | around (lead trail : String)
  deriving DecidableEq

namespace Naming

/-- The template that leaves a name as it is. -/
def identity : Naming := around "" ""

/-- The text before the star, which for a constant is all of it. -/
def lead : Naming → String
  | constant name _ => name
  | around lead _ => lead

/-- The text after the star. -/
def trail : Naming → String
  | constant _ _ => ""
  | around _ trail => trail

/-- Is there no star? -/
def isConstant : Naming → Bool
  | constant _ _ => true
  | around _ _ => false

/-- Is it a star alone? -/
def isIdentity (n : Naming) : Bool := n = identity

/-- A template from its parts. A constant has no trail, and a name. -/
def ofParts (lead trail : String) (isConstant : Bool) : Except Error Naming :=
  if isConstant then
    if h : lead ≠ "" ∧ trail = "" then .ok (constant lead h.1) else .error .constantWithoutName
  else .ok (around lead trail)

/-- The text of a template. -/
def text : Naming → String
  | constant name _ => name
  | around lead trail => lead ++ "*" ++ trail

/-! ### Reading -/

/-- Reads a template without blanks around it: an identifier, or name characters with one star
among them. -/
def ofChars? (cs : List Char) : Option Naming :=
  if h : String.ofList cs ≠ "" ∧ Text.isIdentifierChars cs then
    some (constant (String.ofList cs) h.1)
  else
    match Text.cutCharsFirst '*' cs with
    | (before, some after) =>
      if before.all Text.isNamePart && after.all Text.isNamePart then
        some (around (String.ofList before) (String.ofList after))
      else none
    | (_, none) => none

/-- Reads a template, with blanks around it allowed. -/
def ofText (s : String) : Except Error Naming :=
  match ofChars? (Text.trimChars s.toList) with
  | some n => .ok n
  | none => .error (.invalidTemplate (Text.trim s))

/-! ### Deriving names -/

/-- Puts the first character in upper case. -/
def capitalize : List Char → List Char
  | [] => []
  | c :: cs => Text.upper c ++ cs

/-- The member's name for an attribute's name. -/
def apply : Naming → String → String
  | constant name _, _ => name
  | around lead trail, s =>
    lead ++ (if lead = "" then s else String.ofList (capitalize s.toList)) ++ trail

/-- The characters between `lead` and `trail`, if there is at least one. -/
def between? (lead trail cs : List Char) : Option (List Char) :=
  if lead.length + trail.length < cs.length && lead.isPrefixOf cs && trail.isSuffixOf cs then
    some ((cs.drop lead.length).take (cs.length - lead.length - trail.length))
  else none

/-- Undoes a capitalization; a first character that is not in upper case was not capitalized. -/
def uncapitalize? : List Char → Option (List Char)
  | [] => none
  | c :: cs => if Text.isUpper c then some (Text.lower c ++ cs) else none

/-- The attribute's name for a member's name, if the member's name follows the template. -/
def detect : Naming → String → Option String
  | constant name _, s => if s = name then some s else none
  | around lead trail, s =>
    match between? lead.toList trail.toList s.toList with
    | none => none
    | some cs =>
      if lead = "" then some (String.ofList cs)
      else (uncapitalize? cs).map String.ofList

end Naming

end MemberEncoding
