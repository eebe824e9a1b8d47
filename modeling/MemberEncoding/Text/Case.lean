import MemberEncoding.Text.CasedTable
import MemberEncoding.Text.CaseTable

/-!
# MemberEncoding.Text.Case

**Letter case**, character by character: the upper or lower case of one character is a list of
characters, because a few letters become several (the German sharp s becomes two letters). ASCII is
decided first and never reaches the tables (`upper_of_lt`, `lower_of_lt`).

Only one letter hangs on its context: a capital sigma at the end of a word has a lower case of its
own. The lower case of a text (`lowerAll`) heeds it.
-/

namespace MemberEncoding.Text

/-- The characters that `n` becomes under a table of expansions and a table of runs. -/
def caseImage (expansions : List (Nat × List Nat)) (runs : List (CodeRun × Int)) (n : Nat) :
    List Char :=
  match expansions.lookup n with
  | some ms => ms.map Char.ofNat
  | none =>
    match runs.find? fun r => r.1.contains n with
    | some r => [Char.ofNat (n + r.2).toNat]
    | none => [Char.ofNat n]

/-- The upper case of a character. -/
def upper (c : Char) : List Char :=
  if c.toNat < 0x80 then [c.toUpper] else caseImage upperExpansions upperRuns c.toNat

/-- The lower case of a character. -/
def lower (c : Char) : List Char :=
  if c.toNat < 0x80 then [c.toLower] else caseImage lowerExpansions lowerRuns c.toNat

/-- Is the character an upper case letter? -/
def isUpper (c : Char) : Bool :=
  if c.toNat < 0x80 then c.isUpper else upperLetters.any fun r => r.contains c.toNat

/-! ### Texts -/

/-- Is the character among these ranges of code points? -/
def isWithin (ranges : List (Nat × Nat)) (c : Char) : Bool :=
  ranges.any fun r => r.1 ≤ c.toNat && c.toNat ≤ r.2

/-- Is the character a letter with case? -/
def isCased (c : Char) : Bool :=
  if c.toNat < 0x80 then c.isAlpha else isWithin casedRanges c

/-- Is the character one that case passes over? -/
def isIgnorable (c : Char) : Bool :=
  if c.toNat < 0x80 then ['\'', '.', ':', '^', '\x60'].contains c else isWithin ignorableRanges c

/-- Is the first character a letter with case, but for those that case passes over? -/
def meetsCased (cs : List Char) : Bool :=
  ((cs.dropWhile isIgnorable).head?.map isCased).getD false

/-- The lower case of characters after those `before` them, which are in reverse. A capital sigma
ends a word where letters with case are before it and not after it. -/
def lowerAfter (before : List Char) : List Char → List Char
  | [] => []
  | c :: cs =>
    (if c = 'Σ' && meetsCased before && !meetsCased cs then ['ς'] else lower c)
      ++ lowerAfter (c :: before) cs

/-- The lower case of a text. -/
def lowerAll (cs : List Char) : List Char := lowerAfter [] cs

/-! ### ASCII -/

theorem upper_of_lt {c : Char} (h : c.toNat < 0x80) : upper c = [c.toUpper] := if_pos h

theorem lower_of_lt {c : Char} (h : c.toNat < 0x80) : lower c = [c.toLower] := if_pos h

theorem isUpper_of_lt {c : Char} (h : c.toNat < 0x80) : isUpper c = c.isUpper := if_pos h

end MemberEncoding.Text
