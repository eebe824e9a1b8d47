import MemberEncoding.Text.Quoted
import MemberEncoding.Text.Utf8
import MemberEncoding.Value.Text

/-!
# MemberEncoding.Yaml.Fault

**Everything that can be wrong** with a document, as causes. A document that breaks the rules of
its form is `malformed`, whatever the rule. Other causes lie in what is written where a certain
kind of datum is due, and say what that is (`Fault.message`).
-/

namespace MemberEncoding.Yaml

/-- What is wrong with a document. -/
inductive Fault
  /-- The text breaks the rules of documents. -/
  | malformed
  /-- The bytes are no text. -/
  | encoding (fault : Text.Utf8.Fault)
  /-- An escape gives the number of a character that does not exist. -/
  | codePoint (n : Nat)
  /-- A whole number has this many digits, and too many. -/
  | tooManyDigits (count : Nat)
  /-- The text is no whole number in this base. -/
  | notWhole (base : Nat) (text : String)
  /-- The text is no number. -/
  | notReal (text : String)
  /-- A number has no digits at all. -/
  | noNumber
  /-- The text is no truth value. -/
  | notTruth (text : String)
  /-- The text is neither a day nor a moment. -/
  | notMoment
  /-- A day or a moment is due where a collection stands. -/
  | momentInParts
  /-- The numbers of a day or a moment do not fit the calendar. -/
  | calendar (fault : Calendar.Fault)
  /-- A number has more places than there are numbers for. -/
  | tooManyPlaces
  /-- A mapping that stands for a scalar stands for itself. -/
  | endless
  deriving DecidableEq

/-- The start of the wording for numbers that are too long. -/
def Fault.overLimit : String :=
  "Exceeds the limit (" ++ toString digitLimit ++ " digits) for integer string conversion"

/-- The end of that wording. -/
def Fault.raiseLimit : String := "; use sys.set_int_max_str_digits() to increase the limit"

/-- As much of a text as is shown. -/
def Fault.shown (s : String) : String := String.ofList (s.toList.take 200)

/-- The numbers that fit a register. -/
def Fault.registerLimit : Nat := Nat.pow 2 31

/-- The wording of a fault. -/
def Fault.message : Fault → String
  | malformed => "Invalid YAML"
  | encoding fault => fault.message
  | codePoint n =>
    if n < registerLimit then "chr() arg not in range(0x110000)"
    else "Python int too large to convert to C int"
  | tooManyDigits count =>
    overLimit ++ ": value has " ++ toString count ++ " digits" ++ raiseLimit
  | notWhole base text =>
    "invalid literal for int() with base " ++ toString base ++ ": " ++ shown (Text.quote text)
  | notReal text => "could not convert string to float: " ++ Text.quote text
  | noNumber => "string index out of range"
  | notTruth text => text
  | notMoment => "'NoneType' object has no attribute 'groupdict'"
  | momentInParts => "expected string or bytes-like object, got 'list'"
  | calendar fault => fault.message
  | tooManyPlaces => "int too large to convert to float"
  | endless => "maximum recursion depth exceeded"

end MemberEncoding.Yaml
