import MemberEncoding.Yaml.Tag

/-!
# MemberEncoding.Yaml.Plain

**What plain scalars are.** A plain scalar that spells nothing, a truth value, a number or a moment
is one, and any other is a text, but a mark alone is nothing that is known (`Kind.ofPlain`). Numbers
may be written in several bases, with underscores among the digits, and with colons between places
of base sixty.

A line break at the end of a scalar does not count. Plain scalars have none, but a scalar in another
style may be taken for a plain one.
-/

namespace MemberEncoding.Yaml

/-- The spellings of truth values, in lower case, upper case or with a capital. -/
def truthWords : List String :=
  ["yes", "Yes", "YES", "true", "True", "TRUE", "on", "On", "ON",
   "no", "No", "NO", "false", "False", "FALSE", "off", "Off", "OFF"]

/-- The spellings of nothing. -/
def nullWords : List String := ["~", "null", "Null", "NULL"]

/-- The marks of tags and of the names of nodes. -/
def markWords : List String := ["!", "&", "*"]

/-- Are there characters, and is each of them an underscore or satisfies `p`? -/
def areDigits (p : Char → Bool) (cs : List Char) : Bool :=
  !cs.isEmpty && cs.all fun c => c == '_' || p c

/-- Does a digit come first, and after it only digits and underscores? -/
def isDecimal (cs : List Char) : Bool :=
  (cs.head?.map Char.isDigit).getD false && areDigits Char.isDigit cs

/-- Is it a place of base sixty after the first one? -/
def isSixtieth : List Char → Bool
  | [a] => a.isDigit
  | [a, b] => '0' ≤ a && a ≤ '5' && b.isDigit
  | _ => false

/-- Are these the places of a number in base sixty? -/
def isSexagesimal : List (List Char) → Bool
  | first :: more => isDecimal first && !more.isEmpty && more.all isSixtieth
  | [] => false

/-- The characters after a sign, if there is one. -/
def unsigned : List Char → List Char
  | c :: cs => if c = '-' || c = '+' then cs else c :: cs
  | [] => []

/-- Is a whole number spelled, without a sign? -/
def isNatural (cs : List Char) : Bool :=
  match cs with
  | ['0'] => true
  | '0' :: 'b' :: ds => areDigits (fun c => c == '0' || c == '1') ds
  | '0' :: 'x' :: ds => areDigits (fun c => (hexValue? c).isSome) ds
  | '0' :: ds => areDigits (fun c => '0' ≤ c && c ≤ '7') ds
  | cs => isDecimal cs || isSexagesimal (cs.splitOn ':')

/-- Is it nothing, or an exponent of ten with its mark and sign? -/
def isExponent : List Char → Bool
  | [] => true
  | mark :: sign :: ds =>
    (mark == 'e' || mark == 'E') && (sign == '+' || sign == '-') && !ds.isEmpty
      && ds.all Char.isDigit
  | _ => false

/-- Is a number with a point spelled, without a sign? `bare` tells whether there was none. -/
def isFraction (bare : Bool) (cs : List Char) : Bool :=
  match cs.span (· != '.') with
  | (_, []) => false
  | (whole, _ :: tail) =>
    let isMark (c : Char) : Bool := c == 'e' || c == 'E'
    let fraction := tail.takeWhile fun c => !isMark c
    let rest := tail.dropWhile fun c => !isMark c
    let digits := fraction.all fun c => c == '_' || c.isDigit
    -- A number that starts with its point has no sign, and one in base sixty has no exponent.
    if whole = [] then bare && isDecimal fraction && isExponent rest
    else if isDecimal whole then digits && isExponent rest
    else isSexagesimal (whole.splitOn ':') && digits && rest.isEmpty

/-- Is a number with a fraction, infinity or not-a-number spelled? -/
def isReal (cs : List Char) : Bool :=
  let ds := unsigned cs
  let bare := ds.length == cs.length
  [".inf", ".Inf", ".INF"].contains (String.ofList ds)
    || (bare && [".nan", ".NaN", ".NAN"].contains (String.ofList ds)) || isFraction bare ds

/-! ### Moments -/

/-- The time of a moment as it is written: hour, minute and second, the digits of the fraction, and
how far the clock is ahead, as a sign with hours and minutes. -/
structure WrittenTime where
  hour : Nat
  minute : Nat
  second : Nat
  fraction : List Char
  zone : Option (Char × Nat × Nat)

/-- A day as it is written, with a time if there is one. -/
structure WrittenMoment where
  year : Nat
  month : Nat
  day : Nat
  time : Option WrittenTime

/-- The value of decimal digits. -/
def decimalValue (cs : List Char) : Nat := cs.foldl (fun n c => n * 10 + (c.toNat - '0'.toNat)) 0

/-- Reads digits, as many as there are up to `most`, but at least `least`. -/
def someDigits (least most : Nat) (cs : List Char) : Option (Nat × List Char) :=
  let ds := (cs.take most).takeWhile Char.isDigit
  if least ≤ ds.length then some (decimalValue ds, cs.drop ds.length) else none

/-- Reads a character that has to come next. -/
def expect (c : Char) : List Char → Option (List Char)
  | d :: cs => if d = c then some cs else none
  | [] => none

/-- Reads how far a clock is ahead, up to the end; nothing is said by no characters at all. -/
def zone? (cs : List Char) : Option (Option (Char × Nat × Nat)) :=
  match cs, cs.dropWhile isGap with
  | [], _ => some none
  | _, ['Z'] => some (some ('+', 0, 0))
  | _, sign :: ds =>
    if sign = '+' || sign = '-' then do
      let (hours, ds) ← someDigits 1 2 ds
      match ds with
      | [] => some (some (sign, hours, 0))
      | _ =>
        let (minutes, ds) ← someDigits 2 2 (← expect ':' ds)
        if ds = [] then some (some (sign, hours, minutes)) else none
    else none
  | _, [] => none

/-- Reads a time, up to the end. -/
def time? (cs : List Char) : Option WrittenTime := do
  let (hour, cs) ← someDigits 1 2 cs
  let (minute, cs) ← someDigits 2 2 (← expect ':' cs)
  let (second, cs) ← someDigits 2 2 (← expect ':' cs)
  let (fraction, cs) :=
    match cs with
    | '.' :: cs => (cs.takeWhile Char.isDigit, cs.dropWhile Char.isDigit)
    | cs => ([], cs)
  let zone ← zone? cs
  some ⟨hour, minute, second, fraction, zone⟩

/-- Reads a day, with a time if there is one, up to the end. -/
def moment? (cs : List Char) : Option WrittenMoment := do
  let (year, cs) ← someDigits 4 4 cs
  let (month, cs) ← someDigits 1 2 (← expect '-' cs)
  let (day, cs) ← someDigits 1 2 (← expect '-' cs)
  match cs with
  | [] => some ⟨year, month, day, none⟩
  | c :: rest =>
    let rest ←
      if c = 'T' || c = 't' then some rest
      else if isGap c then some (rest.dropWhile isGap)
      else none
    let time ← time? rest
    some ⟨year, month, day, some time⟩

/-- Is a moment spelled, or a day with all its digits? -/
def isTimestamp (cs : List Char) : Bool :=
  match moment? cs with
  | some m => m.time.isSome || cs.length == 10
  | none => false

/-! ### Kinds -/

/-- The characters of a scalar without a line break at the end. -/
def withoutBreak (s : String) : List Char :=
  if s.toList.getLast? = some '\n' then s.toList.dropLast else s.toList

/-- The kind of a plain scalar. -/
def Kind.ofPlain (s : String) : Kind :=
  let cs := withoutBreak s
  let word := String.ofList cs
  if s = "" || nullWords.contains word then null
  else if truthWords.contains word then bool
  else if isReal cs then float
  else if isNatural (unsigned cs) then int
  else if isTimestamp cs then timestamp
  else if word = "<<" then merge
  else if word = "=" then default
  else if markWords.contains word then unknown
  else text

end MemberEncoding.Yaml
