import MemberEncoding.Pool

/-!
# MemberEncoding.Proofs.Pool

**Sharing in a pool is invisible.** A faithful pool exchanges the names in types, and so in
parameters and in elements, for themselves. What comes out of a reading is therefore the same
whatever was read before (`Faithful.absorb_eq`); only the pool goes on to hold more.

**The tables of a pool are exact** (`IsExact`): each name has one entry, which is the type of that
name. A pool only grows (`recordAll_extends`), and by nothing but the names that were mentioned
(`recordAll_adds`).
-/

namespace MemberEncoding.Pool

variable {p : Pool} {ε α : Type}

theorem Faithful.internParameter_eq (h : p.Faithful) (q : Parameter) : p.internParameter q = q := by
  rw [internParameter, h.intern_eq]

theorem Faithful.internTypeParameter_eq (h : p.Faithful) (q : TypeParameter) :
    p.internTypeParameter q = q := by
  obtain ⟨name, bounds, hidentifier, hnominal⟩ := q
  simp only [internTypeParameter, List.map_id'' h.intern_eq]

theorem Faithful.internElement_eq (h : p.Faithful) (e : Element) : p.internElement e = e := by
  obtain ⟨⟨name, type, naming, params, code, thrown, tags, ambient, typeParams⟩, _, _, _⟩ := e
  simp only [internElement, h.intern_eq, List.map_id'' h.intern_eq,
    List.map_id'' h.internParameter_eq, List.map_id'' h.internTypeParameter_eq]

/-- A faithful pool takes over what a reading mentioned, and leaves its outcome as it is. -/
theorem Faithful.absorb_eq {share : Pool → α → α}
    (hshare : ∀ q : Pool, q.Faithful → ∀ a, share q a = a) (h : p.Faithful) (r : Reading ε α) :
    p.absorb share r = (p.recordAll r.mentions, r.outcome) := by
  unfold absorb
  cases r.outcome with
  | error e => rfl
  | ok a => simp only [Except.map, hshare _ (h.recordAll r.mentions)]

/-! ### Exact tables -/

/-- The names of the declared types with an entry. -/
def referenceNames (p : Pool) : List String := p.references.map (·.1)

/-- The names of the primitive types with an entry. -/
def primitiveNames (p : Pool) : List String := p.primitives.map (·.1)

/-- Each name has one entry, which is the type of that name. -/
structure IsExact (p : Pool) : Prop where
  references : ∀ n r, (n, r) ∈ p.references → r = ⟨n⟩
  primitives : ∀ n q, (n, q) ∈ p.primitives → Primitive.ofName? n = some q
  distinct_references : p.referenceNames.Nodup
  distinct_primitives : p.primitiveNames.Nodup

theorem isExact_empty : empty.IsExact where
  references := by simp [empty]
  primitives := by simp [empty]
  distinct_references := List.nodup_nil
  distinct_primitives := List.nodup_nil

theorem IsExact.faithful (h : p.IsExact) : p.Faithful where
  references := by
    rintro ⟨n, r⟩ he
    rw [h.references n r he]
  primitives := by
    rintro ⟨n, q⟩ he
    exact Primitive.name_of_ofName? (h.primitives n q he)

/-! ### Adding entries -/

section

variable {β : Type} (table : List (String × β)) (name : String) (entry : β)

theorem lookup_isSome_iff : (table.lookup name).isSome = true ↔ name ∈ table.map (·.1) := by
  induction table with
  | nil => simp
  | cons e table ih =>
    obtain ⟨n, b⟩ := e
    rw [List.lookup_cons, List.map_cons, List.mem_cons]
    by_cases h : name = n
    · simp [h]
    · rw [beq_eq_false_iff_ne.mpr h]
      simp only [ih, h, false_or]

theorem prefix_addEntry : table <+: addEntry table name entry := by
  unfold addEntry
  split
  · exact List.prefix_rfl
  · exact List.prefix_append ..

theorem mem_map_fst_addEntry {n : String} :
    n ∈ (addEntry table name entry).map (·.1) ↔ n ∈ table.map (·.1) ∨ n = name := by
  unfold addEntry
  split
  · rename_i h
    have hname := (lookup_isSome_iff table name).mp h
    constructor
    · exact Or.inl
    · rintro (hn | rfl)
      · exact hn
      · exact hname
  · simp

theorem nodup_map_fst_addEntry (h : (table.map (·.1)).Nodup) :
    ((addEntry table name entry).map (·.1)).Nodup := by
  unfold addEntry
  split
  · exact h
  · rename_i hnone
    have hname : name ∉ table.map (·.1) := fun hmem =>
      hnone ((lookup_isSome_iff table name).mpr hmem)
    rw [List.map_append, List.nodup_append]
    refine ⟨h, by simp, fun a ha b hb hab => ?_⟩
    have hb' : b = name := List.mem_singleton.mp hb
    rw [hab, hb'] at ha
    exact hname ha

end

theorem IsExact.record (h : p.IsExact) (m : Mention) : (p.record m).IsExact := by
  cases m with
  | reference r =>
    refine ⟨fun n r' he => ?_, h.primitives, nodup_map_fst_addEntry _ _ _ h.distinct_references,
      h.distinct_primitives⟩
    rcases mem_of_mem_addEntry he with he | he
    · exact h.references n r' he
    · cases he
      rfl
  | primitive q =>
    refine ⟨h.references, fun n q' he => ?_, h.distinct_references,
      nodup_map_fst_addEntry _ _ _ h.distinct_primitives⟩
    rcases mem_of_mem_addEntry he with he | he
    · exact h.primitives n q' he
    · cases he
      exact Primitive.ofName?_name q

theorem IsExact.recordAll (h : p.IsExact) (ms : List Mention) : (p.recordAll ms).IsExact := by
  induction ms generalizing p with
  | nil => exact h
  | cons m ms ih => exact ih (h.record m)

/-- The pool has all entries of another, unchanged and before any others. -/
structure Extends (q p : Pool) : Prop where
  references : p.references <+: q.references
  primitives : p.primitives <+: q.primitives

theorem Extends.refl (p : Pool) : p.Extends p := ⟨List.prefix_rfl, List.prefix_rfl⟩

theorem Extends.trans {p q r : Pool} (hrq : r.Extends q) (hqp : q.Extends p) : r.Extends p :=
  ⟨hqp.references.trans hrq.references, hqp.primitives.trans hrq.primitives⟩

theorem record_extends (p : Pool) (m : Mention) : (p.record m).Extends p := by
  cases m with
  | reference r => exact ⟨prefix_addEntry .., List.prefix_rfl⟩
  | primitive q => exact ⟨List.prefix_rfl, prefix_addEntry ..⟩

theorem recordAll_extends (p : Pool) (ms : List Mention) : (p.recordAll ms).Extends p := by
  induction ms generalizing p with
  | nil => exact .refl p
  | cons m ms ih => exact (ih (p.record m)).trans (record_extends p m)

theorem mem_referenceNames_recordAll {ms : List Mention} {n : String} :
    n ∈ (p.recordAll ms).referenceNames ↔ n ∈ p.referenceNames ∨ .reference ⟨n⟩ ∈ ms := by
  induction ms generalizing p with
  | nil => simp [recordAll]
  | cons m ms ih =>
    have hrest : n ∈ (p.recordAll (m :: ms)).referenceNames ↔
        n ∈ (p.record m).referenceNames ∨ .reference ⟨n⟩ ∈ ms := ih
    rw [hrest, List.mem_cons, ← or_assoc]
    refine or_congr_left ?_
    cases m with
    | reference r =>
      obtain ⟨name⟩ := r
      exact (mem_map_fst_addEntry ..).trans (by simp [referenceNames])
    | primitive q => simp [record, referenceNames]

theorem mem_primitiveNames_recordAll {ms : List Mention} {n : String} :
    n ∈ (p.recordAll ms).primitiveNames ↔
      n ∈ p.primitiveNames ∨ ∃ q : Primitive, q.name = n ∧ .primitive q ∈ ms := by
  induction ms generalizing p with
  | nil => simp [recordAll]
  | cons m ms ih =>
    have hrest : n ∈ (p.recordAll (m :: ms)).primitiveNames ↔
        n ∈ (p.record m).primitiveNames ∨ ∃ q : Primitive, q.name = n ∧ .primitive q ∈ ms := ih
    rw [hrest]
    cases m with
    | reference r => simp [record, primitiveNames]
    | primitive q =>
      have hq : n ∈ (p.record (.primitive q)).primitiveNames ↔ n ∈ p.primitiveNames ∨ n = q.name :=
        mem_map_fst_addEntry ..
      rw [hq]
      constructor
      · rintro ((hn | rfl) | ⟨q', hname, hmem⟩)
        · exact .inl hn
        · exact .inr ⟨q, rfl, List.mem_cons_self ..⟩
        · exact .inr ⟨q', hname, List.mem_cons_of_mem _ hmem⟩
      · rintro (hn | ⟨q', rfl, hmem⟩)
        · exact .inl (.inl hn)
        · rcases List.mem_cons.mp hmem with hmem | hmem
          · cases hmem
            exact .inl (.inr rfl)
          · exact .inr ⟨q', rfl, hmem⟩

/-- A pool has the names of another and those that are mentioned. -/
structure Adds (q p : Pool) (ms : List Mention) : Prop where
  references : ∀ n, n ∈ q.referenceNames ↔ n ∈ p.referenceNames ∨ .reference ⟨n⟩ ∈ ms
  primitives : ∀ n, n ∈ q.primitiveNames ↔
    n ∈ p.primitiveNames ∨ ∃ r : Primitive, r.name = n ∧ .primitive r ∈ ms

theorem recordAll_adds (p : Pool) (ms : List Mention) : (p.recordAll ms).Adds p ms :=
  ⟨fun _ => mem_referenceNames_recordAll, fun _ => mem_primitiveNames_recordAll⟩

end MemberEncoding.Pool
