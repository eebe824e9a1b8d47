import MemberEncoding.Element.Basic

/-!
# MemberEncoding.Pool

**Pools** share type references: all mentions of one name in a run stand for one entry. A pool has
a table of declared types and one of primitive types, each from names to entries in the order of
their first mention. Entries are added and never changed, and the entry of a name is the type of
that name (`Faithful`), so exchanging the names in a type for their entries changes nothing
(`Faithful.intern_eq`).
-/

namespace MemberEncoding

/-- The type references shared in a run. -/
structure Pool where
  references : List (String × Reference)
  primitives : List (String × Primitive)

namespace Pool

/-- The pool to start from. -/
def empty : Pool := ⟨[], []⟩

/-- Adds an entry unless the name has one. -/
def addEntry {α : Type} (table : List (String × α)) (name : String) (entry : α) :
    List (String × α) :=
  if (table.lookup name).isSome then table else table ++ [(name, entry)]

/-- Adds what is mentioned. -/
def record (p : Pool) : Mention → Pool
  | .reference r => { p with references := addEntry p.references r.name r }
  | .primitive q => { p with primitives := addEntry p.primitives q.name q }

/-- Adds all that is mentioned. -/
def recordAll (p : Pool) (ms : List Mention) : Pool := ms.foldl record p

/-- The entry for a declared type. -/
def sharedReference (p : Pool) (r : Reference) : Reference := (p.references.lookup r.name).getD r

/-- The entry for a primitive type. -/
def sharedPrimitive (p : Pool) (q : Primitive) : Primitive := (p.primitives.lookup q.name).getD q

mutual

/-- Exchanges the names in a type for their entries. -/
def intern (p : Pool) : TypeRef → TypeRef
  | .primitive q => .primitive (p.sharedPrimitive q)
  | .reference r => .reference (p.sharedReference r)
  | .parameterized head args => .parameterized (p.sharedReference head) (internArgs p args)
  | .array element => .array (intern p element)
  | .var name => .var name
  | .wildcard => .wildcard
  | .bounded side bound => .bounded side (intern p bound)

/-- Exchanges the names in type arguments for their entries. -/
def internArgs (p : Pool) : TypeArgs → TypeArgs
  | .one a => .one (intern p a)
  | .cons a more => .cons (intern p a) (internArgs p more)

end

@[simp] theorem isNominal_intern (p : Pool) (t : TypeRef) :
    (p.intern t).isNominal = t.isNominal := by
  cases t <;> rfl

/-- Exchanges the names in the type of a parameter. -/
def internParameter (p : Pool) (q : Parameter) : Parameter := { q with type := p.intern q.type }

/-- Exchanges the names in the bounds of a type parameter. -/
def internTypeParameter (p : Pool) (q : TypeParameter) : TypeParameter :=
  { q with
    bounds := q.bounds.map p.intern
    nominal := by
      intro b hb
      obtain ⟨t, ht, rfl⟩ := List.mem_map.mp hb
      rw [isNominal_intern]
      exact q.nominal t ht }

/-- Exchanges the names in all types of an element. -/
def internElement (p : Pool) (e : Element) : Element where
  name := e.name
  type := p.intern e.type
  naming := e.naming
  params := e.params.map p.internParameter
  code := e.code
  thrown := e.thrown.map p.intern
  tags := e.tags
  ambient := e.ambient
  typeParams := e.typeParams.map p.internTypeParameter
  identifier := e.identifier
  distinct_params := by
    have h : (e.params.map p.internParameter).map Parameter.name = e.params.map Parameter.name := by
      simp [internParameter, Function.comp_def]
    rw [h]
    exact e.distinct_params
  not_field_and_helper := e.not_field_and_helper

/-- Takes over what a reading mentioned, and shares the names in its result. -/
def absorb {ε α : Type} (p : Pool) (share : Pool → α → α) (r : Reading ε α) : Pool × Except ε α :=
  let q := p.recordAll r.mentions
  (q, r.outcome.map (share q))

/-! ### Faithful pools -/

/-- The entry of each name is the type of that name. -/
structure Faithful (p : Pool) : Prop where
  /-- The table of declared types does so. -/
  references : ∀ e ∈ p.references, e.2.name = e.1
  /-- The table of primitive types does so. -/
  primitives : ∀ e ∈ p.primitives, e.2.name = e.1

theorem faithful_empty : Faithful empty :=
  ⟨fun _ h => absurd h List.not_mem_nil, fun _ h => absurd h List.not_mem_nil⟩

/-- What is added to a table is the new entry at most. -/
theorem mem_of_mem_addEntry {α : Type} {table : List (String × α)} {name : String} {entry : α}
    {e : String × α} (h : e ∈ addEntry table name entry) : e ∈ table ∨ e = (name, entry) := by
  unfold addEntry at h
  split at h
  · exact Or.inl h
  · exact (List.mem_append.mp h).imp id List.mem_singleton.mp

/-- An entry that a table finds is in it. -/
theorem mem_of_lookup {α : Type} {table : List (String × α)} {name : String} {entry : α}
    (h : table.lookup name = some entry) : (name, entry) ∈ table := by
  obtain ⟨before, after, rfl, _⟩ := List.lookup_eq_some_iff.mp h
  simp

theorem Faithful.record {p : Pool} (h : p.Faithful) (m : Mention) : (p.record m).Faithful := by
  cases m with
  | reference r =>
    refine ⟨fun e he => ?_, h.primitives⟩
    rcases mem_of_mem_addEntry he with he | rfl
    · exact h.references e he
    · rfl
  | primitive q =>
    refine ⟨h.references, fun e he => ?_⟩
    rcases mem_of_mem_addEntry he with he | rfl
    · exact h.primitives e he
    · rfl

theorem Faithful.recordAll {p : Pool} (h : p.Faithful) (ms : List Mention) :
    (p.recordAll ms).Faithful := by
  induction ms generalizing p with
  | nil => exact h
  | cons m ms ih => exact ih (h.record m)

theorem Faithful.sharedReference_eq {p : Pool} (h : p.Faithful) (r : Reference) :
    p.sharedReference r = r := by
  unfold sharedReference
  cases hr : p.references.lookup r.name with
  | none => rfl
  | some entry => exact congrArg Reference.mk (h.references _ (mem_of_lookup hr))

theorem Faithful.sharedPrimitive_eq {p : Pool} (h : p.Faithful) (q : Primitive) :
    p.sharedPrimitive q = q := by
  unfold sharedPrimitive
  cases hq : p.primitives.lookup q.name with
  | none => rfl
  | some entry => exact Primitive.name_injective (h.primitives _ (mem_of_lookup hq))

mutual

/-- A faithful pool exchanges the names in a type for themselves. -/
theorem Faithful.intern_eq {p : Pool} (h : p.Faithful) : (t : TypeRef) → p.intern t = t
  | .primitive q => congrArg TypeRef.primitive (h.sharedPrimitive_eq q)
  | .reference r => congrArg TypeRef.reference (h.sharedReference_eq r)
  | .parameterized head args => by
    rw [intern, h.sharedReference_eq, h.internArgs_eq args]
  | .array element => congrArg TypeRef.array (h.intern_eq element)
  | .var _ => rfl
  | .wildcard => rfl
  | .bounded side bound => congrArg (TypeRef.bounded side) (h.intern_eq bound)

/-- A faithful pool exchanges the names in type arguments for themselves. -/
theorem Faithful.internArgs_eq {p : Pool} (h : p.Faithful) : (as : TypeArgs) → p.internArgs as = as
  | .one a => congrArg TypeArgs.one (h.intern_eq a)
  | .cons a more => by rw [internArgs, h.intern_eq a, h.internArgs_eq more]

end

end Pool

end MemberEncoding
