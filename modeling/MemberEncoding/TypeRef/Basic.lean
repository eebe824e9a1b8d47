import MemberEncoding.Error

/-!
# MemberEncoding.TypeRef.Basic

**Type references**, the types that members mention: primitive types, declared types by name, with
or without type arguments, arrays, type variables and wildcards. A type is *nominal* when it is
declared by name; only nominal types bound a type parameter.

The type is looser than what can be written: an array of wildcards is a value, though no text
denotes it. What can be written is described in `MemberEncoding.TypeRef.Canonical`.
-/

namespace MemberEncoding

/-- The primitive types. -/
inductive Primitive
  | boolean
  | byte
  | short
  | int
  | long
  | char
  | float
  | double
  | void
  deriving DecidableEq, Repr

namespace Primitive

/-- All primitive types. -/
def all : List Primitive := [boolean, byte, short, int, long, char, float, double, void]

/-- The keyword of a primitive type. -/
def name : Primitive → String
  | boolean => "boolean"
  | byte => "byte"
  | short => "short"
  | int => "int"
  | long => "long"
  | char => "char"
  | float => "float"
  | double => "double"
  | void => "void"

/-- The primitive type of a keyword. -/
def ofName? (s : String) : Option Primitive := all.find? fun p => p.name == s

@[simp] theorem ofName?_name (p : Primitive) : ofName? p.name = some p := by
  cases p <;> decide

theorem name_injective {p q : Primitive} (h : p.name = q.name) : p = q := by
  rw [← Option.some_inj, ← ofName?_name p, h, ofName?_name]

theorem name_of_ofName? {s : String} {p : Primitive} (h : ofName? s = some p) : p.name = s := by
  simpa using List.find?_some h

/-- The primitive type of a keyword, where there has to be one. -/
def ofName (s : String) : Except Error Primitive :=
  match ofName? s with
  | some p => .ok p
  | none => .error (.notPrimitive s)

end Primitive

/-- A declared type, by its possibly qualified name. -/
structure Reference where
  name : String
  deriving DecidableEq, Repr

/-- The side on which a wildcard is bounded. -/
inductive Side
  /-- From above: `extends`. -/
  | upper
  /-- From below: `super`. -/
  | lower
  deriving DecidableEq, Repr

/-- The keyword of a side. -/
def Side.keyword : Side → String
  | upper => "extends"
  | lower => "super"

/-- The side of a keyword. -/
def Side.ofKeyword? (s : String) : Option Side :=
  if s = "extends" then some .upper else if s = "super" then some .lower else none

@[simp] theorem Side.ofKeyword?_keyword (side : Side) :
    Side.ofKeyword? side.keyword = some side := by
  cases side <;> decide

theorem Side.keyword_of_ofKeyword? {s : String} {side : Side}
    (h : Side.ofKeyword? s = some side) : side.keyword = s := by
  unfold Side.ofKeyword? at h
  split at h
  · cases h; simp_all [Side.keyword]
  · split at h
    · cases h; simp_all [Side.keyword]
    · cases h

mutual

/-- A type reference. -/
inductive TypeRef
  /-- A primitive type. -/
  | primitive (p : Primitive)
  /-- A declared type. -/
  | reference (r : Reference)
  /-- A declared type with type arguments. -/
  | parameterized (head : Reference) (args : TypeArgs)
  /-- An array. -/
  | array (element : TypeRef)
  /-- A type variable. -/
  | var (name : String)
  /-- A wildcard without a bound. -/
  | wildcard
  /-- A wildcard with a bound. -/
  | bounded (side : Side) (bound : TypeRef)
  deriving DecidableEq

/-- Type arguments, of which there is at least one. -/
inductive TypeArgs
  /-- The last argument. -/
  | one (arg : TypeRef)
  /-- An argument and more. -/
  | cons (arg : TypeRef) (more : TypeArgs)
  deriving DecidableEq

end

instance : Inhabited TypeRef := ⟨.wildcard⟩

namespace TypeArgs

/-- The arguments in order. -/
def toList : TypeArgs → List TypeRef
  | one a => [a]
  | cons a more => a :: more.toList

/-- The arguments `a :: as`. -/
def ofList (a : TypeRef) : List TypeRef → TypeArgs
  | [] => one a
  | b :: bs => cons a (ofList b bs)

@[simp] theorem toList_ofList (a : TypeRef) (as : List TypeRef) :
    (ofList a as).toList = a :: as := by
  induction as generalizing a with
  | nil => rfl
  | cons b bs ih => simp [ofList, toList, ih]

theorem toList_ne_nil (as : TypeArgs) : as.toList ≠ [] := by
  cases as <;> simp [toList]

theorem toList_injective {as bs : TypeArgs} (h : as.toList = bs.toList) : as = bs := by
  induction as using TypeArgs.rec (motive_1 := fun _ => True) generalizing bs with
  | one a => cases bs <;> simp_all [toList, toList_ne_nil]
  | cons a more _ ih =>
    cases bs with
    | one b => simp_all [toList, toList_ne_nil]
    | cons b rest =>
      simp only [toList, List.cons.injEq] at h
      rw [h.1, ih h.2]
  | _ => trivial

end TypeArgs

namespace TypeRef

mutual

/-- A type as it is written. -/
def text : TypeRef → String
  | primitive p => p.name
  | reference r => r.name
  | parameterized head args => head.name ++ "<" ++ ", ".intercalate (argTexts args) ++ ">"
  | array element => element.text ++ "[]"
  | var name => name
  | wildcard => "?"
  | bounded side bound => "? " ++ side.keyword ++ " " ++ bound.text

/-- Each of the type arguments as it is written. -/
def argTexts : TypeArgs → List String
  | .one a => [a.text]
  | .cons a more => a.text :: argTexts more

end

/-- Is the type declared by name? -/
def isNominal : TypeRef → Bool
  | reference _ | parameterized .. => true
  | _ => false

/-- Is the type a wildcard? -/
def isWildcard : TypeRef → Bool
  | wildcard | bounded .. => true
  | _ => false

/-- A parameterized type, which needs arguments. -/
def ofArguments (head : String) : List TypeRef → Except Error TypeRef
  | [] => .error (.noArguments head)
  | a :: as => .ok (parameterized ⟨head⟩ (.ofList a as))

/-- A wildcard of a kind: an empty kind stands for no bound, a keyword for a bound on its side. -/
def ofWildcard (kind : String) (bound : Option TypeRef) : Except Error TypeRef :=
  if kind = "" then
    match bound with
    | none => .ok wildcard
    | some _ => .error .wildcardBoundMismatch
  else
    match Side.ofKeyword? kind, bound with
    | none, _ => .error (.unknownWildcardKind kind)
    | some side, some b => .ok (bounded side b)
    | some _, none => .error .wildcardBoundMismatch

end TypeRef

end MemberEncoding
