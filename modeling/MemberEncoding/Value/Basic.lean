import MemberEncoding.Decimal.Quantity
import MemberEncoding.Value.Calendar

/-!
# MemberEncoding.Value.Basic

**Plain data**, the form in which descriptors arrive: scalars, lists and mappings with scalar keys
in the order they were written. A mapping has each key once; the readers see to that. Only
not-a-number may be several keys, since it is not equal to itself.

Documents can also hold pairs, sets, and collections inside of themselves. Descriptors have no use
for them but to write them out.

Texts are made of characters. Half of a surrogate pair by itself is no character, so texts that hold
one are left out.
-/

namespace MemberEncoding

open Calendar (Day Moment)
open Decimal (Quantity)

/-- A datum without parts. -/
inductive Scalar
  | null
  | bool (b : Bool)
  | int (n : Int)
  | float (x : Float)
  | text (s : String)
  | day (d : Day)
  | moment (m : Moment)
  | bytes (bs : List UInt8)

/-- Plain data. -/
inductive Value
  | scalar (s : Scalar)
  | list (items : List Value)
  | map (entries : List (Scalar × Value))
  | pair (first second : Value)
  /-- A set, with its members in the order in which they were written. -/
  | set (members : List Scalar)
  /-- A list, or a mapping, inside of itself. -/
  | again (isMap : Bool)

namespace Scalar

/-- The name of the kind of datum, as messages give it. -/
def kindName : Scalar → String
  | null => "NoneType"
  | bool _ => "bool"
  | int _ => "int"
  | float _ => "float"
  | text _ => "str"
  | day _ => "datetime.date"
  | moment _ => "datetime.datetime"
  | bytes _ => "bytes"

/-- Null, false, zero and the empty text count as absent where a default exists. -/
def isFalsy : Scalar → Bool
  | null => true
  | bool b => !b
  | int n => n == 0
  | float x => x == 0
  | text s => s.isEmpty
  | bytes bs => bs.isEmpty
  | _ => false

/-- Is it not-a-number? -/
def isNaN : Scalar → Bool
  | float x => x.isNaN
  | _ => false

/-- The numeric value of a number or truth value, on which keys of different kinds are equal. -/
def quantity? : Scalar → Option Quantity
  | bool b => some (.ofInt (if b then 1 else 0))
  | int n => some (.ofInt n)
  | float x => some (.ofFloat x)
  | _ => none

/-- Do two scalars name the same entry of a mapping? Numbers and truth values are compared by
value, whatever their kinds, and so are moments on different clocks. -/
def sameKey : Scalar → Scalar → Bool
  | null, null => true
  | text s, text t => s == t
  | bool a, bool b => a == b
  | int a, int b => a == b
  | day a, day b => a == b
  | moment a, moment b => a.same b
  | bytes a, bytes b => a == b
  | a, b =>
    match a.quantity?, b.quantity? with
    | some x, some y => x.same y
    | _, _ => false

end Scalar

namespace Value

/-- The datum for a text. -/
abbrev text (s : String) : Value := scalar (.text s)

/-- The datum for nothing. -/
abbrev null : Value := scalar .null

instance : Inhabited Value := ⟨null⟩

/-- The name of the kind of datum, as messages give it. -/
def kindName : Value → String
  | scalar s => s.kindName
  | list _ => "list"
  | map _ => "dict"
  | pair .. => "tuple"
  | set _ => "set"
  | again isMap => if isMap then "dict" else "list"

/-- Empty collections and falsy scalars count as absent where a default exists. -/
def isFalsy : Value → Bool
  | scalar s => s.isFalsy
  | list items => items.isEmpty
  | map entries => entries.isEmpty
  | set members => members.isEmpty
  | pair .. | again _ => false

end Value

/-- The value of the entry whose key is the text `key`, if there is one. -/
def entry? (entries : List (Scalar × Value)) (key : String) : Option Value :=
  (entries.find? fun e => e.1.sameKey (.text key)).map (·.2)

end MemberEncoding
