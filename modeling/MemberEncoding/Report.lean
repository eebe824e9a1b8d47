import MemberEncoding.Element.Sheet
import MemberEncoding.Json

/-!
# MemberEncoding.Report

**Reports** on the elements of a catalog, in two forms: a list of records for programs, and a
summary for readers with a line per element and the totals. Both say the same of every element:
its roles, whether it may be written inline, and how.
-/

namespace MemberEncoding

/-- What a report says of an element. -/
structure Record where
  sheet : Sheet
  roles : List String
  inlinable : Bool
  oneLine : String

/-- The record of an element. -/
def Element.record (e : Element) : Record where
  sheet := e.sheet
  roles := e.roleNames
  inlinable := e.isInlinable
  oneLine := Body.join e.oneLiner

/-- A record as report data. -/
def Record.json (r : Record) : Json :=
  .object
    [("name", .text r.sheet.name), ("type", .text r.sheet.type), ("naming", .text r.sheet.naming),
     ("params", .texts r.sheet.params), ("code", .text r.sheet.code),
     ("thrown", .texts r.sheet.thrown), ("tags", .texts r.sheet.tags),
     ("type_params", .texts r.sheet.typeParams), ("roles", .texts r.roles),
     ("inlinable", .bool r.inlinable), ("one_liner", .text r.oneLine)]

namespace Report

/-- The report for programs. -/
def records (es : List Element) : Json := .list (es.map fun e => e.record.json)

/-- Fills a text up with blanks to a width. -/
def padTo (width : Nat) (s : String) : String :=
  s ++ String.ofList (List.replicate (width - s.length) ' ')

/-- The line of an element: its name, its roles, and its inline form if there is one. -/
def elementLine (e : Element) : String :=
  let roles := if e.roleNames = [] then "-" else ", ".intercalate e.roleNames
  let inline := if e.oneLiner = [] then "" else "  ⇒ " ++ Body.join e.oneLiner
  "  • " ++ padTo 20 e.name ++ " " ++ roles ++ inline

/-- The names of the elements with several roles. -/
def ambiguous (es : List Element) : List String :=
  (es.filter fun e => 1 < e.roleNames.length).map (·.name)

/-- The lines of the report for readers. -/
def summary (path : String) (es : List Element) : List String :=
  ["", "Elements in " ++ path] ++ es.map elementLine
    ++ ["", "  Total      : " ++ toString es.length,
      "  Inlinable  : " ++ toString (es.countP fun e => e.isInlinable)]
    ++ (if ambiguous es = [] then [] else ["  Ambiguous  : " ++ ", ".intercalate (ambiguous es)])

end Report

end MemberEncoding
