import MemberEncoding.Descriptor.Reader
import MemberEncoding.Element.Draft

/-!
# MemberEncoding.Element.Bench

**The bench** that elements are made on: the drafts at hand, and the elements made so far. An
element is made of its parts, with or without something offered as its tags, from a draft or from a
descriptor. Its one-liner is worked out once, when it is made, and kept with it.

Drafts are values, so that a step puts one more draft on the bench, and each draft may be gone on
with at any time. A draft may start with all that an element made before holds.
-/

namespace MemberEncoding

/-- An element, and its one-liner as it was worked out when the element was made. -/
structure Made where
  element : Element
  line : List Body.Term

/-- Works out the one-liner of an element. -/
def Made.of (e : Element) : Made := ⟨e, e.oneLiner⟩

/-- What lies on the bench, in the order in which it was put there. -/
structure Bench where
  drafts : List Draft
  made : List Made

namespace Bench

/-- The bench to start from, with the empty draft on it. -/
def empty : Bench := ⟨[.empty], []⟩

/-- Something to do at the bench. Drafts and elements are told by their places. -/
inductive Act
  /-- Make an element of its parts. -/
  | make (parts : ElementParts)
  /-- Make an element of its parts and of what is offered as its tags. -/
  | makeTagged (parts : ElementParts) (tags : List TagCandidate)
  /-- Read the element that a descriptor describes. -/
  | read (ambient : Scope) (descriptor : Descriptor)
  /-- Build a draft. -/
  | build (draft : Nat)
  /-- Take a step with a draft. -/
  | step (draft : Nat) (step : Draft.Step)
  /-- Start a draft from an element. -/
  | restart (element : Nat)

/-- The draft at a place; where there is none, a new one. -/
def draft (b : Bench) (i : Nat) : Draft := (b.drafts[i]?).getD .empty

/-- Puts a draft on the bench. -/
def put (b : Bench) (d : Draft) : Bench := { b with drafts := b.drafts ++ [d] }

/-- Keeps an element that is made. -/
def keep (b : Bench) (e : Element) : Bench := { b with made := b.made ++ [.of e] }

/-- Does one thing at the bench. -/
def act (b : Bench) : Act → Except Error Bench
  | .make parts => (Element.make parts).map b.keep
  | .makeTagged parts tags => (Element.makeTagged parts tags).map b.keep
  | .read ambient d => (Descriptor.read ambient d).outcome.map b.keep
  | .build i => (b.draft i).build.map b.keep
  | .step i s => ((b.draft i).step s).map b.put
  | .restart i =>
    match b.made[i]? with
    | some m => .ok (b.put (.ofElement m.element))
    | none => .ok b

/-- Does one thing after the other; what fails leaves the bench as it was. -/
def run (b : Bench) (acts : List Act) : Bench :=
  acts.foldl (fun b a => (b.act a).toOption.getD b) b

@[simp] theorem run_nil (b : Bench) : b.run [] = b := rfl

@[simp] theorem run_cons (b : Bench) (a : Act) (acts : List Act) :
    b.run (a :: acts) = ((b.act a).toOption.getD b).run acts := rfl

theorem run_append (b : Bench) (before after : List Act) :
    b.run (before ++ after) = (b.run before).run after := List.foldl_append

end Bench

end MemberEncoding
