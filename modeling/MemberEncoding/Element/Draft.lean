import MemberEncoding.Element.Basic
import MemberEncoding.Text.Quoted

/-!
# MemberEncoding.Element.Draft

**Drafts**: elements under construction. Drafts are values; each step makes a new one, so a draft
that is half done serves as a template for several elements. The attributes that are lists have a
step that replaces them, a step that adds to them, or both.

The rules for elements are not checked before `Draft.build`.
-/

namespace MemberEncoding

/-- An element under construction. -/
structure Draft where
  name : Option String
  type : Option TypeRef
  naming : Naming
  params : List Parameter
  code : List Body.Term
  thrown : List TypeRef
  tags : TagSet
  ambient : Scope
  typeParams : List TypeParameter
  deriving DecidableEq

namespace Draft

/-- The draft to start from. -/
def empty : Draft := ⟨none, none, .identity, [], [], [], .empty, .empty, []⟩

/-- The draft that holds all attributes of an element. -/
def ofElement (e : Element) : Draft :=
  ⟨some e.name, some e.type, e.naming, e.params, e.code, e.thrown, e.tags, e.ambient, e.typeParams⟩

/-- A step of the construction. -/
inductive Step
  | name (name : String)
  | type (type : TypeRef)
  | naming (naming : Naming)
  | params (params : List Parameter)
  | addParams (params : List Parameter)
  | code (code : List Body.Term)
  | addCode (code : List Body.Term)
  | addThrown (thrown : List TypeRef)
  | tags (tags : List TagCandidate)
  | addTags (tags : List TagCandidate)
  | ambient (scope : Scope)
  | addTypeParams (typeParams : List TypeParameter)

/-- Takes a step; only steps that offer something else as a tag fail. -/
def step (d : Draft) : Step → Except Error Draft
  | .name name => .ok { d with name := some name }
  | .type type => .ok { d with type := some type }
  | .naming naming => .ok { d with naming }
  | .params params => .ok { d with params }
  | .addParams params => .ok { d with params := d.params ++ params }
  | .code code => .ok { d with code }
  | .addCode code => .ok { d with code := d.code ++ code }
  | .addThrown thrown => .ok { d with thrown := d.thrown ++ thrown }
  | .tags tags => (TagSet.ofCandidates tags).map fun tags => { d with tags }
  | .addTags tags => (d.tags.addCandidates tags).map fun tags => { d with tags }
  | .ambient ambient => .ok { d with ambient }
  | .addTypeParams ps => .ok { d with typeParams := d.typeParams ++ ps }

/-- Takes the steps in order and passes over those that fail. -/
def run (d : Draft) (steps : List Step) : Draft :=
  steps.foldl (fun d s => (d.step s).toOption.getD d) d

@[simp] theorem run_nil (d : Draft) : d.run [] = d := rfl

@[simp] theorem run_cons (d : Draft) (s : Step) (steps : List Step) :
    d.run (s :: steps) = ((d.step s).toOption.getD d).run steps := rfl

/-- The names of the attributes that have to be set and are not. -/
def missing (d : Draft) : List String :=
  (if d.name.isNone then ["name"] else []) ++ (if d.type.isNone then ["type"] else [])

/-- Finishes the draft. -/
def build (d : Draft) : Except Error Element :=
  match d.name, d.type with
  | some name, some type =>
    Element.make
      ⟨name, type, d.naming, d.params, d.code, d.thrown, d.tags, d.ambient, d.typeParams⟩
  | _, _ => .error (.missingAttributes d.missing)

/-- The draft in reports. -/
def render (d : Draft) : String :=
  let name :=
    match d.name with
    | some n => Text.quote n
    | none => "None"
  "EncodedElementBuilder(name=" ++ name ++ ", params=" ++ toString d.params.length ++ ", code="
    ++ toString d.code.length ++ " terms, tags=[" ++ ", ".intercalate d.tags.names ++ "])"

end Draft

end MemberEncoding
