import MemberEncoding.Element.Basic
import MemberEncoding.Value.Text

/-!
# MemberEncoding.Descriptor.Reader

**Reading a descriptor**, the mapping that describes an element in short forms. The type parameters
that it declares are in scope for every type in it, the bounds of other type parameters included;
one that has the name of an ambient variable stands for it.

The parts are read in a fixed order, which decides the error that is reported when there are
several: keys, name, presence of a type, type parameters, type, naming, parameters, thrown types,
tags, and last the rules for elements.
-/

namespace MemberEncoding

/-- The description of an element: a mapping from keys to plain data. -/
abbrev Descriptor := List (Scalar × Value)

namespace Descriptor

/-- The datum under a key, if there is one. -/
def field? (d : Descriptor) (k : Key) : Option Value := entry? d k.text

/-! ### Keys -/

/-- Is a list of numbers before another of the same length, by the first where they differ? -/
def isBefore : List Nat → List Nat → Bool
  | a :: as, b :: bs => if a = b then isBefore as bs else a < b
  | [], _ :: _ => true
  | _, [] => false

/-- Does a key precede another? Texts are compared by code point, bytes and days part by part, and
numbers and moments by value; other keys have no order. -/
def precedes : Scalar → Scalar → Except Error Bool
  | .text a, .text b => .ok (decide (a < b))
  | .int a, .int b => .ok (decide (a < b))
  | .day a, .day b => .ok (isBefore [a.year, a.month, a.day] [b.year, b.month, b.day])
  | .bytes a, .bytes b => .ok (isBefore (a.map UInt8.toNat) (b.map UInt8.toNat))
  | .moment a, .moment b =>
    match a.precedes? b with
    | some before => .ok before
    | none => .error .momentsOnUnknownClocks
  | .moment _, .day _ | .day _, .moment _ => .error .momentAgainstDay
  | a, b =>
    match a.quantity?, b.quantity? with
    | some x, some y => .ok (x.lt y)
    | _, _ => .error (.incomparableKeys a.kindName b.kindName)

/-- Does a key precede another, as far as that is known? -/
def isPrecededBy (a b : Scalar) : Bool :=
  match precedes b a with
  | .ok before => before
  | .error _ => false

/-- Puts keys in order, which fails at the first that has none with the key written before it. Only
such neighbours are compared. A sort that starts from another order may come upon another pair, so
where several have no order, it is left open which of them the error names. -/
def sortKeys (ks : List Scalar) : Except Error (List Scalar) := do
  let _ ← (ks.zip ks.tail).mapM fun (left, right) => precedes right left
  .ok (ks.mergeSort fun a b => !isPrecededBy a b)

/-- Is the scalar a key that descriptors have? -/
def isKnown : Scalar → Bool
  | .text s => (Key.ofText? s).isSome
  | _ => false

/-- Checks that all keys are known. -/
def checkKeys (d : Descriptor) : Except Error Unit :=
  match (d.map (·.1)).filter fun k => !isKnown k with
  | [] => .ok ()
  | unknown => do
    let sorted ← sortKeys unknown
    match sorted.mapM Scalar.quoted? with
    | some keys => .error (.unknownKeys keys)
    | none => .error .numberTooLong

/-! ### Data -/

/-- The name, a text that is not empty. -/
def readName (d : Descriptor) : Except Error String :=
  match d.field? .name with
  | some (.scalar (.text s)) => if s = "" then .error .nameRequired else .ok s
  | _ => .error .nameRequired

/-- The text of a datum. -/
def textOf (v : Value) : Except Error String :=
  match v.toText? with
  | some s => .ok s
  | none => .error .numberTooLong

/-- The datum of the type, which may be any. -/
def readType (d : Descriptor) (name : String) : Except Error Value :=
  match d.field? .type with
  | some v => .ok v
  | none => .error (.typeRequired name)

/-- A datum that is a text. -/
def text? : Value → Option String
  | .scalar (.text s) => some s
  | _ => none

/-- The texts of a datum: none for null, one for a text, or those of a list of texts. -/
def texts? : Value → Option (List String)
  | .scalar .null => some []
  | .scalar (.text s) => some [s]
  | .list items => items.mapM text?
  | _ => none

/-- The texts under a key of the element `name`; there are none if the key is absent. -/
def readTexts (d : Descriptor) (name : String) (k : Key) : Except Error (List String) :=
  match d.field? k with
  | none => .ok []
  | some v =>
    match texts? v with
    | some ss => .ok ss
    | none => .error (.notATextList name k)

/-- The text of the datum under a key, or the default if it is absent or falsy. -/
def textOr (d : Descriptor) (k : Key) (default : String) : Except Error String :=
  match d.field? k with
  | none => .ok default
  | some v => if v.isFalsy then .ok default else textOf v

/-! ### The element -/

/-- The names that lines of type parameters declare; they have to be distinct. -/
def declaredNames (name : String) (lines : List String) : Except Error (List String) :=
  let names := lines.map TypeParameter.declaredName
  if names.Nodup then .ok names
  else .error (.duplicateTypeParameters name (Text.repeated names))

/-- Reads the element that a descriptor describes in an ambient scope. -/
def read (ambient : Scope) (d : Descriptor) : Reading Error Element := do
  .of d.checkKeys
  let name ← .of d.readName
  let typeDatum ← .of (d.readType name)
  let lines ← .of (d.readTexts name .typeParams)
  let declared ← .of (declaredNames name lines)
  let scope := ambient.widenAll declared
  let typeParams ← lines.mapM (TypeParameter.read scope)
  let typeText ← .of (textOf typeDatum)
  let type ← TypeRef.read scope typeText
  let template ← .of (d.textOr .naming "*")
  let naming ← .of (Naming.ofText template)
  let paramLines ← .of (d.readTexts name .params)
  let params ← Parameter.readLines scope paramLines
  let code ← .of (d.textOr .code "")
  let thrownTexts ← .of (d.readTexts name .thrown)
  let thrown ← thrownTexts.mapM (TypeRef.read scope)
  let tagNames ← .of (d.readTexts name .tags)
  let tags ← .of (TagSet.ofTexts tagNames)
  .of (Element.make ⟨name, type, naming, params, Body.terms code, thrown, tags, ambient,
    typeParams⟩)

end Descriptor

end MemberEncoding
