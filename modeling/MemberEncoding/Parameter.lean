import MemberEncoding.TypeRef.Reader

/-!
# MemberEncoding.Parameter

**Parameters** of members, and the parameters of their types. Both have short forms: `name: Type`
for the one, `Name` or `Name: Bound & Bound` for the other. The first colon separates the name
from the rest, and blanks around the pieces do not matter.

The type of a parameter is free; the bounds of a type parameter are declared by name, which is part
of its type (`TypeParameter.nominal`).
-/

namespace MemberEncoding

/-- Checks that a name is an identifier; `bearer` is what bears it. -/
def Bearer.check (bearer : Bearer) (name : String) :
    Except Error (PLift (Text.isIdentifier name = true)) :=
  if name = "" then .error (.emptyName bearer)
  else if h : Text.isIdentifier name = true then .ok ⟨h⟩
  else .error (.invalidName bearer name)

/-- A formal parameter. -/
structure Parameter where
  name : String
  type : TypeRef
  identifier : Text.isIdentifier name = true
  deriving DecidableEq

namespace Parameter

/-- The parameter of a name and a type. -/
def make (name : String) (type : TypeRef) : Except Error Parameter :=
  (Bearer.parameter.check name).map fun h => ⟨name, type, h.down⟩

/-- The short form. -/
def text (p : Parameter) : String := p.name ++ ": " ++ p.type.text

/-- Reads the short form. -/
def read (s : Scope) (line : String) : Reading Error Parameter :=
  match Text.cutFirst ':' line with
  | (name, some type) => do
    -- The type is read before the name is checked.
    let t ← TypeRef.read s type
    .of (make name t)
  | (_, none) => .fail (.parameterForm (Text.trim line))

/-- Reads lines of short forms and passes over the blank ones. -/
def readLines (s : Scope) (lines : List String) : Reading Error (List Parameter) :=
  (lines.filter fun l => !Text.allBlank l).mapM (read s)

end Parameter

/-- A parameter of a member's type. -/
structure TypeParameter where
  name : String
  bounds : List TypeRef
  identifier : Text.isIdentifier name = true
  nominal : ∀ b ∈ bounds, b.isNominal = true
  deriving DecidableEq

namespace TypeParameter

/-- The type parameter of a name and bounds, which have to be nominal. -/
def make (name : String) (bounds : List TypeRef) : Except Error TypeParameter := do
  let named ← Bearer.typeParameter.check name
  match h : bounds.find? fun b => !b.isNominal with
  | some b => .error (.structuralBound b.text name)
  | none => .ok ⟨name, bounds, named.down, by simpa using h⟩

/-- The short form: the name alone if there are no bounds. -/
def text (p : TypeParameter) : String :=
  if p.bounds = [] then p.name
  else p.name ++ ": " ++ " & ".intercalate (p.bounds.map TypeRef.text)

/-- Reads the text of a bound of the type parameter `name`. -/
def readBound (s : Scope) (name text : String) : Reading Error TypeRef := do
  let b ← TypeRef.read s text
  if b.isNominal then pure b else .fail (.structuralBoundText text name)

/-- Reads the short form. -/
def read (s : Scope) (line : String) : Reading Error TypeParameter :=
  match Text.cutFirst ':' line with
  | (name, none) => .of (make name [])
  | (name, some bounds) => do
    let bs ← (Text.cutAll '&' bounds).mapM (readBound s name)
    .of (make name bs)

/-- The name that a line of the short form declares. -/
def declaredName (line : String) : String := (Text.cutFirst ':' line).1

/-- A type parameter under construction. -/
structure Draft where
  name : Option String
  bounds : List TypeRef
  deriving DecidableEq

namespace Draft

/-- The draft to start from. -/
def empty : Draft := ⟨none, []⟩

/-- Sets the name. -/
def setName (d : Draft) (name : String) : Draft := { d with name := some name }

/-- Adds bounds after those there are. -/
def addBounds (d : Draft) (bounds : List TypeRef) : Draft := { d with bounds := d.bounds ++ bounds }

/-- Finishes the draft. -/
def build (d : Draft) : Except Error TypeParameter :=
  match d.name with
  | none => .error .missingTypeParameterName
  | some name => make name d.bounds

end Draft

end TypeParameter

end MemberEncoding
