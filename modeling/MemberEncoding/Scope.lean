import MemberEncoding.Error
import MemberEncoding.Text.Repeated

/-!
# MemberEncoding.Scope

**Scopes** are the type variables that the text of a type may refer to: distinct names in the order
of their declaration. A scope only ever grows.
-/

namespace MemberEncoding

/-- The type variables in scope. -/
structure Scope where
  names : List String
  nodup : names.Nodup
  deriving DecidableEq

namespace Scope

instance : Membership String Scope where
  mem s n := n ∈ s.names

instance (n : String) (s : Scope) : Decidable (n ∈ s) :=
  inferInstanceAs (Decidable (n ∈ s.names))

/-- The scope without variables. -/
def empty : Scope := ⟨[], List.nodup_nil⟩

/-- The scope of the given names, which have to be distinct. -/
def ofList (names : List String) : Except Error Scope :=
  if h : names.Nodup then .ok ⟨names, h⟩
  else .error (.duplicateVariables (Text.repeated names))

/-- The scope with one more name at its end. -/
def extend (s : Scope) (n : String) (h : n ∉ s) : Scope :=
  ⟨s.names ++ [n], by
    rw [List.nodup_append]
    refine ⟨s.nodup, by simp, ?_⟩
    rintro a ha b hb rfl
    exact h (List.mem_singleton.mp hb ▸ ha)⟩

/-- Adds a name that is not in scope yet. -/
def introduce (s : Scope) (n : String) : Except Error Scope :=
  if h : n ∈ s then .error (.variableInScope n) else .ok (s.extend n h)

/-- Adds a name unless it is in scope already. -/
def widen (s : Scope) (n : String) : Scope :=
  if h : n ∈ s then s else s.extend n h

/-- Adds the names that are not in scope yet. -/
def widenAll (s : Scope) (ns : List String) : Scope :=
  ns.foldl widen s

/-- Finds a variable in scope. -/
def lookup (s : Scope) (n : String) : Except Error String :=
  if n ∈ s then .ok n else .error (.unknownVariable n s.names)

/-- How many variables are in scope. -/
def size (s : Scope) : Nat := s.names.length

/-! ### Members -/

theorem mem_iff {n : String} {s : Scope} : n ∈ s ↔ n ∈ s.names := Iff.rfl

@[simp] theorem not_mem_empty (n : String) : n ∉ empty := List.not_mem_nil

@[simp] theorem mem_extend {m n : String} {s : Scope} {h : n ∉ s} :
    m ∈ s.extend n h ↔ m ∈ s ∨ m = n := by
  simp [mem_iff, extend]

@[simp] theorem mem_widen {m n : String} {s : Scope} : m ∈ s.widen n ↔ m ∈ s ∨ m = n := by
  unfold widen
  split
  · rename_i h
    exact ⟨Or.inl, fun hm => hm.elim id fun e => e ▸ h⟩
  · exact mem_extend

@[simp] theorem mem_widenAll {m : String} {s : Scope} {ns : List String} :
    m ∈ s.widenAll ns ↔ m ∈ s ∨ m ∈ ns := by
  unfold widenAll
  induction ns generalizing s with
  | nil => simp
  | cons n ns ih => simp [ih, or_assoc]

end Scope

end MemberEncoding
