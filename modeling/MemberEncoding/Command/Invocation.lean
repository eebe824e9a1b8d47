import MemberEncoding.Catalog.Reader
import MemberEncoding.Command.Arguments
import MemberEncoding.Report
import MemberEncoding.Text.Style

/-!
# MemberEncoding.Command.Invocation

**Invocations of the program**: inspecting a catalog, asking for the version, asking for help, or
misuse. `run` says what an invocation prints and with which code it ends, given what stands in the
files.

An inspection reports all elements or nothing: if the scope or the catalog is not accepted, the
error goes to the error output and the report stays empty. Errors of other kinds, such as a folder
in place of the file, end the program without any output. What is printed has no style sequences;
notices are passed on as they are.
-/

namespace MemberEncoding.Command

/-- What the program is asked for. -/
inductive Invocation
  /-- Report on the catalog in a file. -/
  | inspect (verbose : Bool) (path : String) (asJson : Bool) (typeVars : List String)
  /-- Tell the version. -/
  | version
  /-- Explain the usage. -/
  | help
  /-- No command was given. -/
  | noCommand
  /-- The arguments make no sense. -/
  | misuse
  deriving DecidableEq

/-- The switches before the command. -/
def generalSwitches : List Switch := [⟨"--verbose", some 'v', false⟩, ⟨"--help", none, false⟩]

/-- The switches of an inspection. -/
def inspectSwitches : List Switch :=
  [⟨"--json", none, false⟩, ⟨"--type-var", some 't', true⟩, ⟨"--help", none, false⟩]

/-- The switches of the other command. -/
def versionSwitches : List Switch := [⟨"--help", none, false⟩]

namespace Invocation

/-- An inspection with the given arguments. -/
def ofInspect (verbose : Bool) (args : List String) : Invocation :=
  match Arguments.parse inspectSwitches false args with
  | none => misuse
  | some a =>
    if a.has "--help" then help
    else
      match a.operands with
      | [path] => inspect verbose (Path.normalize path) (a.has "--json") (a.values "--type-var")
      | _ => misuse

/-- A question for the version with the given arguments. -/
def ofVersion (args : List String) : Invocation :=
  match Arguments.parse versionSwitches false args with
  | none => misuse
  | some a => if a.has "--help" then help else if a.operands = [] then version else misuse

/-- A command that does not exist. If it looks like a switch, it may be one, so that it or another
after it asks for help. -/
def ofUnknown (args : List String) : Invocation :=
  match Arguments.parse generalSwitches true args with
  | none => misuse
  | some a => if a.has "--help" then help else misuse

/-- What the arguments of the program ask for. -/
def ofArgs (args : List String) : Invocation :=
  match Arguments.parse generalSwitches true args with
  | none => misuse
  | some a =>
    if a.has "--help" then help
    else
      match a.operands with
      | [] => noCommand
      | command :: args =>
        if command = "inspect" then ofInspect (a.has "--verbose") args
        else if command = "version" then ofVersion args
        else ofUnknown (command :: args)

end Invocation

/-- What the program prints, and the code with which it ends. -/
structure Output where
  exitCode : Nat
  stdout : String
  stderr : String

/-- Lines as text. -/
def lines (ls : List String) : String := String.join (ls.map (· ++ "\n"))

/-- Lines as they are printed. -/
def printed (ls : List String) : String := lines (ls.map Text.plain)

/-- The line that tells a notice, if it is told: warnings always, anything if the run is verbose,
and then with level and source. -/
def noticeLine? (verbose : Bool) (n : Notice) : Option String :=
  if verbose then some (n.level.name ++ ":" ++ n.source ++ ":" ++ n.text)
  else if n.level = .warning then some n.text
  else none

/-- Is an error told on the command line? Others end the program. -/
def isTold (e : Error) : Bool :=
  [.invalid, .typeText, .notText, .missingFile].contains e.category

/-- The wording of an error on the command line. -/
def errorLine (path : String) (e : Error) : String :=
  if e.category = .missingFile then "Error: descriptor file not found: " ++ path
  else "Error: " ++ e.message

/-- The elements of the file `path` in the scope of the type variables, and what was told. -/
def loadElements (path : String) (typeVars : List String) (document : Except Error Value) :
    Catalog.Outcome :=
  match Scope.ofList typeVars with
  | .error e => ⟨[], .error e⟩
  | .ok scope => Catalog.load path scope document

/-- Inspects the file `path`. -/
def inspect (verbose : Bool) (path : String) (asJson : Bool) (typeVars : List String)
    (document : Except Error Value) : Except Error Output :=
  let outcome := loadElements path typeVars document
  match outcome.elements with
  | .error e =>
    let told := lines (outcome.notices.filterMap (noticeLine? verbose))
    if isTold e then .ok ⟨1, "", told ++ printed [errorLine path e]⟩ else .error e
  | .ok es =>
    -- The inspection is announced once all elements are read.
    let notices := outcome.notices ++ [.inspecting es.length path]
    let report := if asJson then [(Report.records es).render] else Report.summary path es
    .ok ⟨0, printed report, lines (notices.filterMap (noticeLine? verbose))⟩

/-- How the program is used. -/
def usage : String :=
  "Usage: valuecraft [-v] inspect [--json] [-t NAME]... PATH\n       valuecraft version\n"

/-- What an invocation prints when `document` gives what stands in a file, or the error that ends
it. -/
def run (document : String → Except Error Value) : Invocation → Except Error Output
  | .inspect verbose path asJson typeVars =>
    inspect verbose path asJson typeVars (document path)
  | .version => .ok ⟨0, "valuecraft CLI version 0.1.0\n", ""⟩
  | .help => .ok ⟨0, usage, ""⟩
  | .noCommand => .ok ⟨1, usage, "\nError: Missing command.\n"⟩
  | .misuse => .ok ⟨2, "", usage⟩

end MemberEncoding.Command
