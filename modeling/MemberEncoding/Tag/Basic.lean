import MemberEncoding.Text.Blank
import MemberEncoding.Text.Case

/-!
# MemberEncoding.Tag.Basic

**Tags**, the sixteen facets of a member: where it lives, whether it is static, and what kind of
member it is. A tag is written by its name, in any letter case and with blanks around it.
-/

namespace MemberEncoding

/-- A facet of a member. -/
inductive Tag
  /-- `IMPL`: a field of the implementation. -/
  | impl
  /-- `EXPOSE`: exposes a field. -/
  | expose
  /-- `BUILDER`: lives in the builder and not in the value. -/
  | builder
  /-- `STATIC`: belongs to the class. -/
  | static
  /-- `PRIVATE`: not visible from outside. -/
  | privateAccess
  /-- `FINAL`: not to be overridden or assigned again. -/
  | final
  /-- `BUILD`: finishes a builder. -/
  | build
  /-- `INIT`: initializes a field. -/
  | init
  /-- `FROM`: makes a value from another representation. -/
  | fromValue
  /-- `HELPER`: a method of the template's own. -/
  | helper
  /-- `FIELD`: a field and not a method. -/
  | field
  /-- `TO_STRING`: the text of a value. -/
  | asString
  /-- `HASH_CODE`: the hash of a value. -/
  | hashCode
  /-- `EQUALS`: equality of values. -/
  | equals
  /-- `COPY`: a changed copy of a value. -/
  | copy
  /-- `SYNTH`: a member without source. -/
  | synth
  deriving DecidableEq, Repr

namespace Tag

/-- All tags, in the order of their ordinals. -/
def all : List Tag :=
  [impl, expose, builder, static, privateAccess, final, build, init, fromValue, helper, field,
   asString, hashCode, equals, copy, synth]

/-- The number of a tag. -/
def ordinal : Tag → Fin 16
  | impl => 0
  | expose => 1
  | builder => 2
  | static => 3
  | privateAccess => 4
  | final => 5
  | build => 6
  | init => 7
  | fromValue => 8
  | helper => 9
  | field => 10
  | asString => 11
  | hashCode => 12
  | equals => 13
  | copy => 14
  | synth => 15

/-- The name of a tag. -/
def name : Tag → String
  | impl => "IMPL"
  | expose => "EXPOSE"
  | builder => "BUILDER"
  | static => "STATIC"
  | privateAccess => "PRIVATE"
  | final => "FINAL"
  | build => "BUILD"
  | init => "INIT"
  | fromValue => "FROM"
  | helper => "HELPER"
  | field => "FIELD"
  | asString => "TO_STRING"
  | hashCode => "HASH_CODE"
  | equals => "EQUALS"
  | copy => "COPY"
  | synth => "SYNTH"

theorem mem_all (t : Tag) : t ∈ all := by cases t <;> decide

theorem nodup_all : all.Nodup := by decide

/-- Every number up to fifteen is the ordinal of a tag. -/
theorem exists_ordinal : ∀ i : Fin 16, ∃ t ∈ all, t.ordinal = i := by decide

/-- The tag whose name these characters are, in upper case. -/
def ofName? (cs : List Char) : Option Tag :=
  all.find? fun t => t.name.toList == cs

/-- The tag that a text names, whatever its letter case and the blanks around it. -/
def ofText? (s : String) : Option Tag :=
  ofName? ((Text.trimChars s.toList).flatMap Text.upper)

end Tag

end MemberEncoding
