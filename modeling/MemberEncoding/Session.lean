import MemberEncoding.Descriptor.Reader
import MemberEncoding.Pool
import MemberEncoding.Text.Repeated

/-!
# MemberEncoding.Session

**Sessions**: one pool of type references and one growing scope, used for a sequence of requests.
A request that fails leaves the scope as it was, but what it mentioned before it failed stays in
the pool.
-/

namespace MemberEncoding

/-- What is kept from one request to the next. -/
structure Session where
  pool : Pool
  scope : Scope

namespace Session

/-- The session to start from. -/
def empty : Session := ⟨.empty, .empty⟩

/-- Something to do in a session. -/
inductive Request
  /-- Read the text of a type. -/
  | type (text : String)
  /-- Refer to a declared type by its name. -/
  | reference (name : String)
  /-- Refer to a primitive type by its name. -/
  | primitive (name : String)
  /-- Add a type variable to the scope. -/
  | introduce (name : String)
  /-- Read the element that a descriptor describes. -/
  | element (d : Descriptor)

/-- What comes out of a request. -/
inductive Answer
  | type (t : TypeRef)
  | element (e : Element)
  | done

/-- Reads in a session. -/
def reading {α : Type} (s : Session) (share : Pool → α → α) (answer : α → Answer)
    (r : Reading Error α) : Session × Except Error Answer :=
  let (pool, outcome) := s.pool.absorb share r
  ({ s with pool }, outcome.map answer)

/-- Refers to a declared type. -/
def referTo (name : String) : Reading Error TypeRef := do
  Reading.mention (.reference ⟨name⟩)
  pure (.reference ⟨name⟩)

/-- Refers to a primitive type. -/
def referToPrimitive (name : String) : Reading Error TypeRef := do
  let p ← .of (Primitive.ofName name)
  Reading.mention (.primitive p)
  pure (.primitive p)

/-- Does what is requested. -/
def step (s : Session) : Request → Session × Except Error Answer
  | .type text => s.reading Pool.intern .type (TypeRef.read s.scope text)
  | .reference name => s.reading Pool.intern .type (referTo name)
  | .primitive name => s.reading Pool.intern .type (referToPrimitive name)
  | .introduce name =>
    match s.scope.introduce name with
    | .ok scope => ({ s with scope }, .ok .done)
    | .error e => (s, .error e)
  | .element d => s.reading Pool.internElement .element (Descriptor.read s.scope d)

/-- The session after requests, whether they fail or not. -/
def run (s : Session) (requests : List Request) : Session :=
  requests.foldl (fun s r => (s.step r).1) s

/-- The declared types mentioned so far, in the order of their names. -/
def referenceNames (s : Session) : List String := Text.sortNames (s.pool.references.map (·.1))

/-- The primitive types mentioned so far, in the order of their names. -/
def primitiveNames (s : Session) : List String := Text.sortNames (s.pool.primitives.map (·.1))

end Session

end MemberEncoding
