import MemberEncoding.Descriptor.Reader
import MemberEncoding.Notice
import MemberEncoding.Pool
import MemberEncoding.Yaml.Document

/-!
# MemberEncoding.Catalog.Reader

**Catalogs**: documents with a list of descriptors under the key `elements`. A catalog is read as a
whole or not at all; the first entry that cannot be read decides the error, which says which entry
it is. All entries share one pool of type references.

Notices come out in the order of the entries, also when a later entry fails. There is none for an
entry that is read and has a single role or no role at all (`Element.notices`).

Catalogs are stored as YAML documents in UTF-8 (`load`). A file that cannot be read as such is an
error of its own, and so is one with data that do not exist, like a thirteenth month; what the
document says is the catalog's business.
-/

namespace MemberEncoding.Catalog

/-- What was told while reading, and what came out. -/
structure Outcome where
  notices : List Notice
  elements : Except Error (List Element)

/-- How an entry is called in an error: by the datum under its name, else by its number. -/
def label (index : Nat) (d : Descriptor) : Except Error String :=
  match d.field? .name with
  | some v => Descriptor.textOf v
  | none => .ok ("#" ++ toString index)

/-- The error for an entry that cannot be read, unless it cannot even be called something. -/
def entryError (path : String) (index : Nat) (d : Descriptor) (cause : Error) : Error :=
  match label index d with
  | .ok label => .invalidElement path label cause
  | .error e => e

/-- Reads the entries from the one with the number `index` on. -/
def readEntries (path : String) (ambient : Scope) (pool : Pool) (index : Nat) :
    List Value → Outcome
  | [] => ⟨[], .ok []⟩
  | .map d :: entries =>
    match pool.absorb Pool.internElement (Descriptor.read ambient d) with
    | (_, .error e) => ⟨[], .error (entryError path index d e)⟩
    | (pool, .ok e) =>
      let rest := readEntries path ambient pool (index + 1) entries
      ⟨e.notices ++ rest.notices, rest.elements.map (e :: ·)⟩
  | _ :: _ => ⟨[], .error (.notAMapping path index)⟩

/-- The entries of a document. -/
def entries? : Value → Option (List Value)
  | .map d =>
    match entry? d "elements" with
    | some (.list entries) => some entries
    | _ => none
  | _ => none

/-- Reads the elements of a document that comes from the file `path`. -/
def read (path : String) (ambient : Scope) (document : Value) : Outcome :=
  match entries? document with
  | none => ⟨[], .error (.noElementList path)⟩
  | some entries =>
    let outcome := readEntries path ambient .empty 0 entries
    match outcome.elements with
    | .ok es => ⟨outcome.notices ++ [.loaded es.length path], .ok es⟩
    | .error e => ⟨outcome.notices, .error e⟩

/-! ### Files -/

/-- What is wrong with the file `path` that holds no document. -/
def fileError (path : String) : Yaml.Fault → Error
  | .malformed => .invalidDocument path
  | .encoding fault => .notUtf8 fault
  | fault => .invalidData fault

/-- The document in the text of the file `path`. -/
def documentOfText (path text : String) : Except Error Value :=
  (Yaml.read (.ofText text)).mapError (fileError path)

/-- The document in the bytes of the file `path`. -/
def documentOfBytes (path : String) (bytes : List UInt8) : Except Error Value :=
  (Yaml.read (.ofBytes bytes)).mapError (fileError path)

/-- Reads the elements of a file whose document was read already. -/
def load (path : String) (ambient : Scope) (document : Except Error Value) : Outcome :=
  match document with
  | .ok document => read path ambient document
  | .error e => ⟨[], .error e⟩

end MemberEncoding.Catalog
