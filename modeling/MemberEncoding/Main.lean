import MemberEncoding.Command.Invocation

/-!
# MemberEncoding.Main

The program itself: reads the file that is asked for, prints what `Command.run` says, and ends with
its code.
-/

namespace MemberEncoding

/-- The fault of a path that the system tells, if it is one. -/
def pathFault? : IO.Error → Option PathFault
  | .noFileOrDirectory .. => some .missing
  | .inappropriateType _ 21 _ => some .folder
  | .inappropriateType .. => some .beyondFile
  | .invalidArgument .. => some .tooLong
  | _ => none

/-- The document in a file of the current directory. -/
def readDocument (path : String) : IO (Except Error Value) := do
  try
    let bytes ← IO.FS.readBinFile path
    return Catalog.documentOfBytes path bytes.toList
  catch e =>
    match pathFault? e with
    | some fault => return .error (.noFile fault path)
    | none => throw e

/-- Runs the program with the given arguments. -/
def runProgram (args : List String) : IO UInt32 := do
  let invocation := Command.Invocation.ofArgs args
  let document ←
    match invocation with
    | .inspect _ path _ _ => readDocument path
    | _ => pure (.ok .null)
  match Command.run (fun _ => document) invocation with
  | .ok output =>
    IO.print output.stdout
    IO.eprint output.stderr
    return output.exitCode.toUInt32
  | .error e =>
    IO.eprintln e.message
    return 1

end MemberEncoding

def main (args : List String) : IO UInt32 := MemberEncoding.runProgram args
