import MemberEncoding.Text.Quoted

/-!
# MemberEncoding.Path

**Paths** to files. A path is a text of steps between slashes. It leads on from the root if a slash
comes first, and else from the folder in which the program runs. Steps that stay where they are can
be left out (`normalize`).

Where a path leads to is told as far as it is known what there is (`fileAt`): the files in the
folder in which the program runs, and the folders around it. Whatever else a path asks for is taken
to be missing.
-/

namespace MemberEncoding

/-- Why a path leads to no file. -/
inductive PathFault
  /-- There is nothing at all. -/
  | missing
  /-- A step leads on from a file. -/
  | beyondFile
  /-- There is a folder. -/
  | folder
  /-- The path or one of its steps is longer than any that is possible. -/
  | tooLong
  /-- There is a character that no path has. -/
  | nul
  deriving DecidableEq

namespace PathFault

/-- The wording of a fault that has a number. -/
def numbered (n : Nat) (text path : String) : String :=
  "[Errno " ++ toString n ++ "] " ++ text ++ ": " ++ Text.quote path

/-- The wording of a fault of a path. -/
def message (path : String) : PathFault → String
  | missing => numbered 2 "No such file or directory" path
  | beyondFile => numbered 20 "Not a directory" path
  | folder => numbered 21 "Is a directory" path
  | tooLong => numbered 36 "File name too long" path
  | nul => "embedded null byte"

end PathFault

namespace Path

/-- The steps of a path, without those that stay where they are. -/
def steps (path : String) : List String :=
  ((path.toList.splitOn '/').filter fun s => s ≠ [] && s ≠ ['.']).map String.ofList

/-- The slashes that a path starts with. Two of them are kept, and more count as one. -/
def root (path : String) : String :=
  match path.toList with
  | '/' :: '/' :: '/' :: _ => "/"
  | '/' :: '/' :: _ => "//"
  | '/' :: _ => "/"
  | _ => ""

/-- A path in its shortest spelling. -/
def normalize (path : String) : String :=
  if steps path = [] && root path = "" then "." else root path ++ "/".intercalate (steps path)

/-- Where a walk along a path is. -/
inductive Place
  /-- In the folder in which the program runs. -/
  | here
  /-- In a folder around it. -/
  | around
  /-- At a file. -/
  | file (name : String)
  deriving DecidableEq

/-- As many bytes as a step may have. -/
def stepLimit : Nat := 255

/-- As many bytes as a path may have. -/
def limit : Nat := 4095

/-- Takes a step from a place, where the folder in which the program runs has these files. -/
def step (files : List String) (place : Place) (name : String) : Except PathFault Place :=
  match place with
  | .file _ => .error .beyondFile
  | .here | .around =>
    if stepLimit < name.utf8ByteSize then .error .tooLong
    else if name = ".." then .ok .around
    else if place = .here && files.contains name then .ok (.file name)
    else .error .missing

/-- The file that a path leads to, where the folder in which the program runs has these files. -/
def fileAt (files : List String) (path : String) : Except PathFault String :=
  if path.toList.contains '\x00' then .error .nul
  else if limit < path.utf8ByteSize then .error .tooLong
  else do
    match ← (steps path).foldlM (step files) (if root path = "" then .here else .around) with
    | .file name => .ok name
    | .here | .around => .error .folder

end Path

end MemberEncoding
