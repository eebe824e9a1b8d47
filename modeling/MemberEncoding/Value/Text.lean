import MemberEncoding.Text.Quoted
import MemberEncoding.Value.Basic

/-!
# MemberEncoding.Value.Text

**The text of plain data.** Where a descriptor gives a datum in place of a text, the datum's text
is taken: a text stands for itself, numbers are written in decimal, and the texts inside lists and
mappings are quoted.

A whole number has a text only up to `digitLimit` digits (`wholeText?`), and so has a datum that
holds one.

A set has no order of its own, so the order of its members in a text is left open. Here they come in
the order in which they were written, and nothing that is proved depends on it.
-/

namespace MemberEncoding

/-- As many digits as the decimal text of a whole number may have. -/
def digitLimit : Nat := 4300

/-- Numbers with a fraction have a point for magnitudes from `10^-4` up to below `10^16`. -/
def numberLayout : Decimal.Layout := ⟨-4, 16, 2⟩

/-- The text of a whole number, unless it is too long. -/
def wholeText? (n : Int) : Option String :=
  if n.natAbs < Nat.pow 10 digitLimit then some (toString n) else none

/-- The text of a scalar. -/
def Scalar.toText? : Scalar → Option String
  | null => some "None"
  | bool b => some (if b then "True" else "False")
  | int n => wholeText? n
  | float x => some (numberLayout.floatText x)
  | text s => some s
  | day d => some d.text
  | moment m => some m.text
  | bytes bs => some (Text.quoteBytes bs)

/-- The text of a scalar inside a list or mapping. -/
def Scalar.quoted? : Scalar → Option String
  | text s => some (Text.quote s)
  | day d => some d.parts
  | moment m => some m.parts
  | s => s.toText?

/-- Texts between brackets. -/
def bracketed (opening closing : String) (texts : List String) : String :=
  opening ++ ", ".intercalate texts ++ closing

mutual

/-- The text of a datum inside a list or mapping. That of a set is one of several, by the order of
its members. -/
def Value.quoted? : Value → Option String
  | .scalar s => s.quoted?
  | .list items => (quotedItems? items).map (bracketed "[" "]")
  | .map entries => (quotedEntries? entries).map (bracketed "\x7b" "\x7d")
  | .pair first second => do
    let a ← first.quoted?
    let b ← second.quoted?
    some (bracketed "(" ")" [a, b])
  | .set [] => some "set()"
  | .set members => (members.mapM Scalar.quoted?).map (bracketed "\x7b" "\x7d")
  | .again isMap => some (if isMap then "\x7b...\x7d" else "[...]")

/-- The texts of the items of a list. -/
def quotedItems? : List Value → Option (List String)
  | [] => some []
  | v :: vs => do
    let s ← v.quoted?
    let ss ← quotedItems? vs
    some (s :: ss)

/-- The texts of the entries of a mapping. -/
def quotedEntries? : List (Scalar × Value) → Option (List String)
  | [] => some []
  | (k, v) :: es => do
    let key ← k.quoted?
    let s ← v.quoted?
    let ss ← quotedEntries? es
    some ((key ++ ": " ++ s) :: ss)

end

/-- The text of a datum. -/
def Value.toText? : Value → Option String
  | .scalar s => s.toText?
  | v => v.quoted?

@[simp] theorem Value.toText?_text (s : String) : (Value.text s).toText? = some s := rfl

end MemberEncoding
