import MemberEncoding.Element.Basic

/-!
# MemberEncoding.Notice

**Notices**: what is worth telling about a run that goes well. A notice has a level and a source,
and one wording. What is told only to those who look for a fault in the program itself, that a
certain element was built, is not shown in any run and left out.
-/

namespace MemberEncoding

/-- How pressing a notice is. -/
inductive Level
  | info
  | warning
  deriving DecidableEq

/-- The name of a level. -/
def Level.name : Level → String
  | info => "INFO"
  | warning => "WARNING"

/-- Something worth telling. -/
inductive Notice
  /-- An element has several roles. -/
  | severalRoles (element : String) (roles : List String)
  /-- As many elements were read from a file. -/
  | loaded (count : Nat) (path : String)
  /-- As many elements of a file are about to be reported. -/
  | inspecting (count : Nat) (path : String)
  deriving DecidableEq

namespace Notice

/-- The level of a notice. -/
def level : Notice → Level
  | severalRoles .. => .warning
  | _ => .info

/-- The part of the program that a notice comes from. -/
def source : Notice → String
  | severalRoles .. | loaded .. => "valuecraft.encode.descriptors"
  | inspecting .. => "valuecraft.cli.elements"

/-- The wording of a notice. -/
def text : Notice → String
  | severalRoles element roles =>
    "Element " ++ element ++ " answers several roles: " ++ ", ".intercalate roles
  | loaded count path => "Loaded " ++ toString count ++ " elements from " ++ path
  | inspecting count path => "Inspecting " ++ toString count ++ " elements from " ++ path

end Notice

/-- An element with several roles is worth a notice. -/
def Element.notices (e : Element) : List Notice :=
  if 1 < e.roleNames.length then [.severalRoles e.name e.roleNames] else []

end MemberEncoding
