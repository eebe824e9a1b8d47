import MemberEncoding.Element.Basic
import MemberEncoding.Value.Text

/-!
# MemberEncoding.Element.Sheet

**Sheets**: elements written down. A sheet has a text, or a list of texts, for each key of a
descriptor, and as plain data (`Sheet.entries`) it is one.
-/

namespace MemberEncoding

/-- An element written down. -/
structure Sheet where
  name : String
  type : String
  naming : String
  params : List String
  code : String
  thrown : List String
  tags : List String
  typeParams : List String
  deriving DecidableEq

/-- The sheet of an element. -/
def Element.sheet (e : Element) : Sheet where
  name := e.name
  type := e.type.text
  naming := e.naming.text
  params := e.params.map Parameter.text
  code := Body.join e.code
  thrown := e.thrown.map TypeRef.text
  tags := e.tags.names
  typeParams := e.typeParams.map TypeParameter.text

/-- A list of texts as plain data. -/
def Value.texts (ss : List String) : Value := .list (ss.map Value.text)

/-- A sheet as plain data. -/
def Sheet.entries (s : Sheet) : List (Scalar × Value) :=
  [(.text "name", .text s.name), (.text "type", .text s.type), (.text "naming", .text s.naming),
   (.text "params", .texts s.params), (.text "code", .text s.code),
   (.text "thrown", .texts s.thrown), (.text "tags", .texts s.tags),
   (.text "type_params", .texts s.typeParams)]

end MemberEncoding
