/-!
# MemberEncoding.Descriptor.Key

**The keys of a descriptor**, the mapping in which an element is written down.
-/

namespace MemberEncoding.Descriptor

/-- A key that a descriptor may have. -/
inductive Key
  | code
  | name
  | naming
  | params
  | tags
  | thrown
  | type
  | typeParams
  deriving DecidableEq, Repr

/-- A key as it is written. -/
def Key.text : Key → String
  | code => "code"
  | name => "name"
  | naming => "naming"
  | params => "params"
  | tags => "tags"
  | thrown => "thrown"
  | type => "type"
  | typeParams => "type_params"

/-- All keys, in the order of their texts. -/
def Key.all : List Key := [code, name, naming, params, tags, thrown, type, typeParams]

/-- The key that a text spells. -/
def Key.ofText? (s : String) : Option Key := all.find? fun k => k.text == s

end MemberEncoding.Descriptor
