/-!
# MemberEncoding.Command.Arguments

**Command line arguments**: switches and operands. A switch has a long form with two dashes and may
have a short form, one dash and a letter; short forms without a value can be written as one
argument. A value follows its switch, after an equals sign for the long form, directly for the short
one, or as the next argument, whatever that looks like. Two dashes alone end the switches.
-/

namespace MemberEncoding.Command

/-- A switch that a command knows. -/
structure Switch where
  long : String
  short : Option Char
  takesValue : Bool

/-- Arguments taken apart: the long forms of the switches given, with their values, and the
operands. -/
structure Arguments where
  switches : List (String × String)
  operands : List String

namespace Arguments

/-- No arguments. -/
def none : Arguments := ⟨[], []⟩

/-- Puts switches in front. -/
def addSwitches (more : List (String × String)) (a : Arguments) : Arguments :=
  { a with switches := more ++ a.switches }

/-- Puts an operand in front. -/
def addOperand (operand : String) (a : Arguments) : Arguments :=
  { a with operands := operand :: a.operands }

/-- Was the switch given? -/
def has (a : Arguments) (long : String) : Bool := a.switches.any fun s => s.1 == long

/-- The values given for a switch, in order. -/
def values (a : Arguments) (long : String) : List String :=
  (a.switches.filter fun s => s.1 == long).map (·.2)

/-- Reads short forms written as one argument: the switches, and the one at the end, if any, that
still needs a value. -/
def shortForms (known : List Switch) : List Char → Option (List (String × String) × Option String)
  | [] => some ([], Option.none)
  | c :: cs => do
    let s ← known.find? fun s => s.short == some c
    if s.takesValue then
      if cs = [] then some ([], some s.long) else some ([(s.long, String.ofList cs)], Option.none)
    else
      let (given, open?) ← shortForms known cs
      some ((s.long, "") :: given, open?)

/-- Reads one argument with switches: those in it, and the one that still needs a value. -/
def switchForms (known : List Switch) (arg : List Char) :
    Option (List (String × String) × Option String) :=
  let name := arg.takeWhile (· != '=')
  let value := (arg.dropWhile (· != '=')).tail?
  match known.find? fun s => s.long == String.ofList name with
  | some s =>
    match s.takesValue, value with
    | true, some v => some ([(s.long, String.ofList v)], Option.none)
    | true, Option.none => some ([], some s.long)
    | false, some _ => Option.none
    | false, Option.none => some ([(s.long, "")], Option.none)
  | Option.none => if arg.take 2 = ['-', '-'] then Option.none else shortForms known (arg.drop 1)

/-- Is the argument a switch? -/
def isSwitch (arg : List Char) : Bool := arg.head? == some '-' && arg.length != 1

/-- Takes arguments apart; nothing comes out if a switch is not known or lacks its value. If
`leading` holds, the switches end at the first operand. -/
def parse (known : List Switch) (leading : Bool) : List String → Option Arguments
  | [] => some none
  | arg :: args =>
    if arg = "--" then some ⟨[], args⟩
    else if isSwitch arg.toList then
      match switchForms known arg.toList with
      | Option.none => Option.none
      | some (given, Option.none) => (parse known leading args).map (addSwitches given)
      | some (given, some long) =>
        match args with
        | [] => Option.none
        | value :: args => (parse known leading args).map (addSwitches (given ++ [(long, value)]))
    else if leading then some ⟨[], arg :: args⟩
    else (parse known leading args).map (addOperand arg)

end Arguments

end MemberEncoding.Command
