import MemberEncoding.Text.Quoted

/-!
# MemberEncoding.Json

**JSON text** for reports: two blanks of indentation per level, each item on a line of its own, and
nothing but printable ASCII. A character beyond the first plane is escaped as two code units of
sixteen bits.
-/

namespace MemberEncoding

/-- The data of reports. -/
inductive Json
  | text (s : String)
  | bool (b : Bool)
  | list (items : List Json)
  | object (entries : List (String × Json))

namespace Json

/-- The list of texts. -/
def texts (ss : List String) : Json := list (ss.map text)

/-- A code unit of sixteen bits, escaped. -/
def escapeUnit (n : Nat) : List Char := '\\' :: 'u' :: Text.hex 4 n

/-- A character between the quotes of a text. -/
def escape (c : Char) : List Char :=
  let n := c.toNat
  if c = '"' || c = '\\' then ['\\', c]
  else if c = '\n' then ['\\', 'n']
  else if c = '\r' then ['\\', 'r']
  else if c = '\t' then ['\\', 't']
  else if n = 0x08 then ['\\', 'b']
  else if n = 0x0C then ['\\', 'f']
  else if 0x20 ≤ n && n < 0x7F then [c]
  else if n < 0x10000 then escapeUnit n
  else
    let m := n - 0x10000
    escapeUnit (0xD800 + m / 0x400) ++ escapeUnit (0xDC00 + m % 0x400)

/-- A text between quotes. -/
def quote (s : String) : String := String.ofList ('"' :: s.toList.flatMap escape ++ ['"'])

/-- The break before a line at a level of nesting. -/
def newline (level : Nat) : String := String.ofList ('\n' :: List.replicate (2 * level) ' ')

/-- Items between brackets, each on its own line one level further in. -/
def enclose (level : Nat) (opening closing : String) (items : List String) : String :=
  if items = [] then opening ++ closing
  else
    opening ++ newline (level + 1) ++ ("," ++ newline (level + 1)).intercalate items
      ++ newline level ++ closing

mutual

/-- Data as JSON text at a level of nesting. -/
def renderAt (level : Nat) : Json → String
  | text s => quote s
  | bool b => if b then "true" else "false"
  | list items => enclose level "[" "]" (renderItems (level + 1) items)
  | object entries => enclose level "\x7b" "\x7d" (renderEntries (level + 1) entries)

/-- The items of a list. -/
def renderItems (level : Nat) : List Json → List String
  | [] => []
  | j :: js => renderAt level j :: renderItems level js

/-- The entries of an object. -/
def renderEntries (level : Nat) : List (String × Json) → List String
  | [] => []
  | (k, j) :: es => (quote k ++ ": " ++ renderAt level j) :: renderEntries level es

end

/-- Data as JSON text. -/
def render (j : Json) : String := renderAt 0 j

end Json

end MemberEncoding
