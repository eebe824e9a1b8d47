import MemberEncoding.Tag.Set

/-!
# MemberEncoding.Role

**Roles.** What a member is for follows from its tags alone. A well-formed member has one role at
most; `TagSet.roles` lists all that hold, so that more than one can be noticed. Besides the roles
there are plain facets, each one tag, and the question whether the member may be written inline.
-/

namespace MemberEncoding

/-- What a member is for. -/
inductive Role
  | valueField
  | staticField
  | builderField
  | builderStaticField
  | implField
  | staticMethod
  | valueMethod
  | builderMethod
  | build
  | init
  | fromValue
  | expose
  | equals
  | hashCode
  | asString
  | copy
  | builderCopy
  | synthetic
  deriving DecidableEq, Repr

namespace Role

/-- All roles, in the order in which they are listed. -/
def all : List Role :=
  [valueField, staticField, builderField, builderStaticField, implField, staticMethod, valueMethod,
   builderMethod, build, init, fromValue, expose, equals, hashCode, asString, copy, builderCopy,
   synthetic]

/-- The name of a role. -/
def name : Role → String
  | valueField => "is_value_field"
  | staticField => "is_static_field"
  | builderField => "is_builder_field"
  | builderStaticField => "is_builder_static_field"
  | implField => "is_impl_field"
  | staticMethod => "is_static_method"
  | valueMethod => "is_value_method"
  | builderMethod => "is_builder_method"
  | build => "is_build"
  | init => "is_init"
  | fromValue => "is_from"
  | expose => "is_expose"
  | equals => "is_equals"
  | hashCode => "is_hash_code"
  | asString => "is_to_string"
  | copy => "is_copy"
  | builderCopy => "is_builder_copy"
  | synthetic => "is_synthetic"

/-- Do tags make a member have the role? -/
def holds (s : TagSet) : Role → Bool
  | valueField =>
    s.contains .field && !s.contains .impl && !s.contains .builder && !s.contains .static
  | staticField => s.contains .field && !s.contains .builder && s.contains .static
  | builderField => s.contains .field && s.contains .builder && !s.contains .static
  | builderStaticField => s.contains .field && s.contains .builder && s.contains .static
  | implField => s.contains .impl
  | staticMethod => s.contains .helper && s.contains .static && !s.contains .builder
  | valueMethod => s.contains .helper && !s.contains .static && !s.contains .builder
  | builderMethod => s.contains .helper && s.contains .builder
  | build => s.contains .build
  | init => s.contains .init
  | fromValue => s.contains .fromValue
  | expose => s.contains .expose
  | equals => s.contains .equals
  | hashCode => s.contains .hashCode
  | asString => s.contains .asString
  | copy => s.contains .copy && !s.contains .builder
  | builderCopy => s.contains .copy && s.contains .builder
  | synthetic => s.contains .synth

end Role

/-- The tags that are reported as facets of their own, under these names. -/
def facets : List (Tag × String) :=
  [(.builder, "in_builder"), (.static, "is_static"), (.final, "is_final"),
   (.privateAccess, "is_private"), (.field, "is_field")]

namespace TagSet

/-- The roles that hold. -/
def roles (s : TagSet) : List Role := Role.all.filter (Role.holds s)

/-- The names of the roles that hold. -/
def roleNames (s : TagSet) : List String := s.roles.map Role.name

/-- May a member be written inline? The accessors that every value has may, and so may a copy on
the value's side. -/
def isInlinable (s : TagSet) : Bool :=
  s.contains .equals || s.contains .asString || s.contains .hashCode || s.contains .fromValue
    || Role.holds s .copy

/-- The names of the facets that hold. -/
def facetNames (s : TagSet) : List String :=
  (facets.filter fun f => s.contains f.1).map (·.2)

/-- The names of everything that holds: roles, facets, and whether it may be inlined. -/
def propertyNames (s : TagSet) : List String :=
  s.roleNames ++ s.facetNames ++ (if s.isInlinable then ["is_inlinable"] else [])

end TagSet

end MemberEncoding
