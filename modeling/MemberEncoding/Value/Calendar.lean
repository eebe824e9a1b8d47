/-!
# MemberEncoding.Value.Calendar

**Days and moments** of the Gregorian calendar, as data of documents. A moment is a day with a time,
and may say how far its clock is ahead of universal time; only then two moments on different clocks
can be compared (`Moment.instant?`).

Both have two forms: one for readers (`text`), and one that names their parts (`parts`), which is
used inside of lists and mappings.
-/

namespace MemberEncoding.Calendar

/-- A day. -/
structure Day where
  year : Nat
  month : Nat
  day : Nat
  deriving DecidableEq

/-- A moment of a day. -/
structure Moment where
  day : Day
  hour : Nat
  minute : Nat
  second : Nat
  microsecond : Nat
  /-- How many seconds the clock is ahead of universal time, if that is known. -/
  offset : Option Int
  deriving DecidableEq

/-- What is wrong with the numbers for a day or a moment. -/
inductive Fault
  | year (n : Nat)
  | month
  | day
  | hour
  | minute
  | second
  /-- A clock is a day or more from universal time. -/
  | offset (seconds : Int)
  deriving DecidableEq

/-! ### The calendar -/

/-- Has the year a day more? -/
def isLeap (year : Nat) : Bool := year % 4 == 0 && (year % 100 != 0 || year % 400 == 0)

/-- How many days a month has. -/
def daysIn (year month : Nat) : Nat :=
  if month = 2 then if isLeap year then 29 else 28
  else if [4, 6, 9, 11].contains month then 30
  else 31

/-- As many seconds as a day has. -/
def daySeconds : Nat := 86400

/-- The day with these numbers. -/
def Day.make (year month day : Nat) : Except Fault Day :=
  if year = 0 then .error (.year year)
  else if month = 0 || 12 < month then .error .month
  else if day = 0 || daysIn year month < day then .error .day
  else .ok ⟨year, month, day⟩

/-- Checks how far a clock is ahead of universal time. -/
def checkOffset (seconds : Int) : Except Fault Int :=
  if seconds.natAbs < daySeconds then .ok seconds else .error (.offset seconds)

/-- The moment of a day with these numbers. -/
def Moment.make (day : Day) (hour minute second microsecond : Nat) (offset : Option Int) :
    Except Fault Moment :=
  if 23 < hour then .error .hour
  else if 59 < minute then .error .minute
  else if 59 < second then .error .second
  else .ok ⟨day, hour, minute, second, microsecond, offset⟩

/-- How many days come before a day. -/
def Day.number (d : Day) : Nat :=
  let years := d.year - 1
  let months := (List.range' 1 (d.month - 1)).foldl (fun n month => n + daysIn d.year month) 0
  years * 365 + years / 4 - years / 100 + years / 400 + months + d.day - 1

/-- The microseconds before a moment by its own clock. -/
def Moment.reading (m : Moment) : Int :=
  let seconds := ((m.day.number * 24 + m.hour) * 60 + m.minute) * 60 + m.second
  (seconds * 1000000 + m.microsecond : Nat)

/-- The microseconds before a moment in universal time, if they are known. -/
def Moment.instant? (m : Moment) : Option Int := m.offset.map fun s => m.reading - s * 1000000

/-- Are both the same moment? Moments on different clocks may be. -/
def Moment.same (a b : Moment) : Bool :=
  match a.instant?, b.instant? with
  | some i, some j => i == j
  | none, none => a.reading == b.reading
  | _, _ => false

/-- Does a moment come before another? That is unknown if only one of them tells its clock. -/
def Moment.precedes? (a b : Moment) : Option Bool :=
  match a.instant?, b.instant? with
  | some i, some j => some (decide (i < j))
  | none, none => some (decide (a.reading < b.reading))
  | _, _ => none

/-! ### Texts -/

/-- A number with leading zeros. -/
def padded (width n : Nat) : String :=
  let digits := toString n
  String.ofList (List.replicate (width - digits.length) '0') ++ digits

/-- The text of a day. -/
def Day.text (d : Day) : String :=
  padded 4 d.year ++ "-" ++ padded 2 d.month ++ "-" ++ padded 2 d.day

/-- The text of the distance from universal time. -/
def offsetText (seconds : Int) : String :=
  let minutes := seconds.natAbs / 60
  (if seconds < 0 then "-" else "+") ++ padded 2 (minutes / 60) ++ ":" ++ padded 2 (minutes % 60)

/-- The text of a moment. -/
def Moment.text (m : Moment) : String :=
  m.day.text ++ " " ++ padded 2 m.hour ++ ":" ++ padded 2 m.minute ++ ":" ++ padded 2 m.second
    ++ (if m.microsecond = 0 then "" else "." ++ padded 6 m.microsecond)
    ++ (m.offset.map offsetText).getD ""

/-- The parts of a day. -/
def Day.parts (d : Day) : String :=
  "datetime.date(" ++ ", ".intercalate ([d.year, d.month, d.day].map toString) ++ ")"

/-- The parts of a time span: whole days, which may be fewer than none, and seconds that are not. -/
def spanParts (seconds : Int) : String :=
  let days := seconds.fdiv daySeconds
  let rest := seconds.fmod daySeconds
  let named :=
    (if days = 0 then [] else ["days=" ++ toString days])
      ++ (if rest = 0 then [] else ["seconds=" ++ toString rest])
  "datetime.timedelta(" ++ (if named = [] then "0" else ", ".intercalate named) ++ ")"

/-- The parts of the distance from universal time. -/
def offsetParts (seconds : Int) : String :=
  if seconds = 0 then "datetime.timezone.utc"
  else "datetime.timezone(" ++ spanParts seconds ++ ")"

/-- The parts of a moment; microseconds and seconds are left out at the end if they are zero. -/
def Moment.parts (m : Moment) : String :=
  let seconds := if m.microsecond ≠ 0 then [m.second, m.microsecond]
    else if m.second ≠ 0 then [m.second] else []
  let numbers := [m.day.year, m.day.month, m.day.day, m.hour, m.minute] ++ seconds
  let zone := (m.offset.map fun s => ", tzinfo=" ++ offsetParts s).getD ""
  "datetime.datetime(" ++ ", ".intercalate (numbers.map toString) ++ zone ++ ")"

/-- The wording of a fault. -/
def Fault.message : Fault → String
  | year n => "year " ++ toString n ++ " is out of range"
  | month => "month must be in 1..12"
  | day => "day is out of range for month"
  | hour => "hour must be in 0..23"
  | minute => "minute must be in 0..59"
  | second => "second must be in 0..59"
  | offset seconds =>
    "offset must be a timedelta strictly between -timedelta(hours=24) and timedelta(hours=24), not "
      ++ spanParts seconds ++ "."

end MemberEncoding.Calendar
