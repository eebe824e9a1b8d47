import MemberEncoding.Error
import MemberEncoding.Value.Basic

/-!
# MemberEncoding.Tag.Set

**Tag sets** as words of sixteen bits, one bit per tag. What a set holds is decided by `t ∈ s`, and
each operation is described by it: `mem_insert`, `mem_union`, `mem_ofList`, `mem_toList`.

A set comes from a list of tags, from their names, or from the bits of a whole number; whatever does
not stand for tags is refused.
-/

namespace MemberEncoding

/-- A set of tags: bit `i` is set when the tag with ordinal `i` is a member. -/
structure TagSet where
  bits : BitVec 16
  deriving DecidableEq

namespace TagSet

/-- Is the tag a member? -/
def contains (s : TagSet) (t : Tag) : Bool := s.bits.getLsbD t.ordinal

instance : Membership Tag TagSet where
  mem s t := s.contains t = true

instance (t : Tag) (s : TagSet) : Decidable (t ∈ s) :=
  inferInstanceAs (Decidable (s.contains t = true))

/-- The set without members. -/
def empty : TagSet := ⟨0⟩

/-- The bit of a tag. -/
def bit (t : Tag) : BitVec 16 := BitVec.twoPow 16 t.ordinal

/-- Adds a tag. -/
def insert (s : TagSet) (t : Tag) : TagSet := ⟨s.bits ||| bit t⟩

/-- The members of either set. -/
def union (s u : TagSet) : TagSet := ⟨s.bits ||| u.bits⟩

/-- The set of the tags in a list. -/
def ofList (ts : List Tag) : TagSet := ts.foldl insert empty

/-- The members, in the order of their ordinals. -/
def toList (s : TagSet) : List Tag := Tag.all.filter s.contains

/-- The names of the members, in the order of their ordinals. -/
def names (s : TagSet) : List String := s.toList.map Tag.name

/-- How many bits of a number are set. -/
def countBits (n : Nat) : Nat :=
  if n = 0 then 0 else n % 2 + countBits (n / 2)
  termination_by n

/-- How many members the set has. -/
def size (s : TagSet) : Nat := countBits s.bits.toNat

/-- Does the set have a member? -/
def isInhabited (s : TagSet) : Bool := s.bits != 0

/-- The bits of all tags, as a number. -/
def alphabet : Nat := Tag.all.foldl (fun bits t => bits + 1 <<< t.ordinal.val) 0

/-- The bits of a number that stand for no tag. The bits of a negative number `-1 - n` are those
that `n` does not have, so there are always some of them. -/
def strayBits : Int → Int
  | .ofNat n => .ofNat (n ^^^ (n &&& alphabet))
  | .negSucc n => .negSucc (n ||| alphabet)

/-- The set with the given bits, if each of them stands for a tag. -/
def ofBits (bits : Int) : Except Error TagSet :=
  if strayBits bits = 0 then .ok ⟨BitVec.ofInt 16 bits⟩
  else .error (.bitsOutsideAlphabet bits)

/-- The text of a set in reports. -/
def render (s : TagSet) : String := "TagSet(" ++ ", ".intercalate s.names ++ ")"

/-! ### Members -/

theorem mem_iff {t : Tag} {s : TagSet} : t ∈ s ↔ s.bits.getLsbD t.ordinal = true := Iff.rfl

@[simp] theorem not_mem_empty (t : Tag) : t ∉ empty := by
  simp [mem_iff, empty]

@[simp] theorem mem_union {t : Tag} {s u : TagSet} : t ∈ s.union u ↔ t ∈ s ∨ t ∈ u := by
  simp [mem_iff, union]

@[simp] theorem mem_insert {t u : Tag} {s : TagSet} : t ∈ s.insert u ↔ t ∈ s ∨ t = u := by
  simp only [mem_iff, insert, BitVec.getLsbD_or, Bool.or_eq_true]
  refine or_congr Iff.rfl ?_
  cases t <;> cases u <;> decide

theorem mem_foldl_insert {t : Tag} (ts : List Tag) (s : TagSet) :
    t ∈ ts.foldl insert s ↔ t ∈ s ∨ t ∈ ts := by
  induction ts generalizing s with
  | nil => simp
  | cons u ts ih => simp [ih, or_assoc]

@[simp] theorem mem_ofList {t : Tag} {ts : List Tag} : t ∈ ofList ts ↔ t ∈ ts := by
  simp [ofList, mem_foldl_insert]

@[simp] theorem mem_toList {t : Tag} {s : TagSet} : t ∈ s.toList ↔ t ∈ s :=
  List.mem_filter.trans (and_iff_right (Tag.mem_all t))

/-- Sets with the same members are equal. -/
theorem ext_mem {s u : TagSet} (h : ∀ t, t ∈ s ↔ t ∈ u) : s = u := by
  obtain ⟨a⟩ := s
  obtain ⟨b⟩ := u
  simp only [mem_iff] at h
  congr
  apply BitVec.eq_of_getLsbD_eq
  intro i hi
  obtain ⟨t, _, ht⟩ := Tag.exists_ordinal ⟨i, hi⟩
  have := h t
  rw [ht] at this
  exact Bool.eq_iff_iff.mpr this

end TagSet

/-- Something offered as a tag. -/
inductive TagCandidate
  | tag (t : Tag)
  | other (v : Value)

/-- The tag that was offered. -/
def TagCandidate.accept : TagCandidate → Except Error Tag
  | tag t => .ok t
  | other v => .error (.notATag v.kindName)

namespace TagSet

/-- The set of the tags offered; everything offered has to be a tag. -/
def ofCandidates (cs : List TagCandidate) : Except Error TagSet :=
  (cs.mapM TagCandidate.accept).map ofList

/-- Adds the tags offered. -/
def addCandidates (s : TagSet) (cs : List TagCandidate) : Except Error TagSet :=
  (ofCandidates cs).map s.union

/-- Is what is offered a member? -/
def holds (s : TagSet) : TagCandidate → Bool
  | .tag t => s.contains t
  | .other _ => false

end TagSet

/-- The tag that a text names. -/
def Tag.ofText (s : String) : Except Error Tag :=
  match Tag.ofText? s with
  | some t => .ok t
  | none => .error (.unknownTag s)

/-- The set of the tags that the texts name. -/
def TagSet.ofTexts (names : List String) : Except Error TagSet :=
  (names.mapM Tag.ofText).map ofList

/-- What may stand for a set of tags. -/
inductive TagSource
  /-- A set. -/
  | set (s : TagSet)
  /-- Things offered as its members. -/
  | members (cs : List TagCandidate)

/-- The set that it stands for. -/
def TagSource.toSet : TagSource → Except Error TagSet
  | set s => .ok s
  | members cs => TagSet.ofCandidates cs

/-! ### Sets in steps -/

namespace TagSet

/-- A step from one set of tags to the next. -/
inductive Step
  /-- The set of what is offered. -/
  | of (members : List TagCandidate)
  /-- The set of what is named. -/
  | named (names : List String)
  /-- The set that something stands for. -/
  | source (source : TagSource)
  /-- The set at hand, and what is offered. -/
  | add (members : List TagCandidate)

/-- Takes a step. -/
def step (s : TagSet) : Step → Except Error TagSet
  | .of members => ofCandidates members
  | .named names => ofTexts names
  | .source source => source.toSet
  | .add members => s.addCandidates members

/-- Takes the steps in order and passes over those that fail. -/
def run (s : TagSet) (steps : List Step) : TagSet :=
  steps.foldl (fun s st => (s.step st).toOption.getD s) s

@[simp] theorem run_nil (s : TagSet) : s.run [] = s := rfl

@[simp] theorem run_cons (s : TagSet) (st : Step) (steps : List Step) :
    s.run (st :: steps) = ((s.step st).toOption.getD s).run steps := rfl

end TagSet

end MemberEncoding
