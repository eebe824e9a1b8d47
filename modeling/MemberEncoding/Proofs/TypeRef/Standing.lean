import MemberEncoding.Proofs.TypeRef.Occurrence
import MemberEncoding.Proofs.TypeRef.RoundTrip

/-!
# MemberEncoding.Proofs.TypeRef.Standing

**Where names stand in a text, their types stand in the type** (`standsIn_iff_of_read`). A type that
occurs in another stands between the tokens before it and the tokens after it (`StandsIn`). A name
among the tokens of a text that was read, other than the head of type arguments and the keyword of a
wildcard, stands for the type that it denotes in the scope.

That there is a type at its place is an induction on the number of tokens, which goes down to the
argument, the element or the bound that has the name (`standsIn_named`). That it is the one that the
name denotes is due to canonical types: only one of them has a single name for its tokens.
-/

namespace MemberEncoding.TypeRef

/-! ### Types between tokens -/

/-- A type is one of the arguments, and stands between the tokens `before` and `after`. -/
inductive ArgStandsIn : (args : TypeArgs) → (before : List Token) → (u : TypeRef) →
    (after : List Token) → Prop
  | one {u} : ArgStandsIn (.one u) [] u []
  | first {u more} : ArgStandsIn (.cons u more) [] u (.comma :: argTokens more)
  | later {a more before u after} : ArgStandsIn more before u after →
      ArgStandsIn (.cons a more) (a.tokens ++ .comma :: before) u after

/-- A type occurs in the type `t`, and stands between the tokens `before` and `after`. -/
inductive StandsIn (t : TypeRef) : (before : List Token) → (u : TypeRef) → (after : List Token) →
    Prop
  | whole : StandsIn t [] t []
  | argument {before head args after b u a} :
      StandsIn t before (.parameterized head args) after → ArgStandsIn args b u a →
      StandsIn t (before ++ .name head.name :: .less :: b) u (a ++ .greater :: after)
  | element {before u after} :
      StandsIn t before (.array u) after → StandsIn t before u (.opening :: .closing :: after)
  | bound {before side u after} :
      StandsIn t before (.bounded side u) after →
      StandsIn t (before ++ [.question, .name side.keyword]) u after

variable {s : Scope} {t u : TypeRef} {args : TypeArgs} {before after : List Token} {n : String}

theorem ArgStandsIn.mem (h : ArgStandsIn args before u after) : u ∈ args.toList := by
  induction h with
  | one => exact List.mem_singleton_self _
  | first => exact List.mem_cons_self ..
  | later _ ih => exact List.mem_cons_of_mem _ ih

theorem ArgStandsIn.tokens_eq (h : ArgStandsIn args before u after) :
    argTokens args = before ++ u.tokens ++ after := by
  induction h with
  | one => simp [argTokens]
  | first => simp [argTokens]
  | later _ ih => simp [argTokens, ih]

/-- What stands in a type occurs in it. -/
theorem StandsIn.occurs (h : StandsIn t before u after) : ∃ place, Occurs t place u := by
  induction h with
  | whole => exact ⟨_, .whole⟩
  | argument _ harg ih =>
    obtain ⟨place, hoccurs⟩ := ih
    exact ⟨_, .argument hoccurs harg.mem⟩
  | element _ ih =>
    obtain ⟨place, hoccurs⟩ := ih
    exact ⟨_, .element hoccurs⟩
  | bound _ ih =>
    obtain ⟨place, hoccurs⟩ := ih
    exact ⟨_, .bound hoccurs⟩

/-- A type is written with the tokens of what stands in it, and those before and after. -/
theorem StandsIn.tokens_eq (h : StandsIn t before u after) :
    t.tokens = before ++ u.tokens ++ after := by
  induction h with
  | whole => simp
  | argument _ harg ih => simp [ih, tokens, harg.tokens_eq]
  | element _ ih => simp [ih, tokens]
  | bound _ ih => simp [ih, tokens]

theorem StandsIn.trans {v : TypeRef} {b a : List Token} (h : StandsIn t before u after)
    (h' : StandsIn u b v a) : StandsIn t (before ++ b) v (a ++ after) := by
  induction h' with
  | whole => simpa using h
  | argument _ harg ih => simpa using ih.argument harg
  | element _ ih => simpa using ih.element
  | bound _ ih => simpa using ih.bound

/-! ### Types for names -/

/-- An item of two lists after each other is one of the first or one of the second. -/
theorem append_eq_append_cons {α : Type} {xs ys bs as : List α} {x : α}
    (h : xs ++ ys = bs ++ x :: as) :
    (∃ cs, xs = bs ++ x :: cs ∧ as = cs ++ ys) ∨ ∃ cs, bs = xs ++ cs ∧ ys = cs ++ x :: as := by
  rcases List.append_eq_append_iff.mp h with ⟨cs, rfl, hys⟩ | ⟨cs, rfl, hcons⟩
  · exact .inr ⟨cs, rfl, hys⟩
  · cases cs with
    | nil => exact .inr ⟨[], by simp, by simpa using hcons.symm⟩
    | cons c cs =>
      obtain ⟨rfl, rfl⟩ := List.cons.inj hcons
      exact .inl ⟨cs, rfl, rfl⟩

/-- An item of a list is the first, the second, or one of the others. -/
theorem cons_cons_eq_append_cons {α : Type} {a b x : α} {xs bs as : List α}
    (h : a :: b :: xs = bs ++ x :: as) :
    bs = [] ∧ a = x ∧ as = b :: xs ∨ bs = [a] ∧ b = x ∧ as = xs ∨
      ∃ cs, bs = a :: b :: cs ∧ xs = cs ++ x :: as := by
  rcases List.cons_eq_append_iff.mp h with ⟨hbs, hcons⟩ | ⟨cs, hbs, hrest⟩
  · cases hcons
    exact .inl ⟨hbs, rfl, rfl⟩
  · rcases List.cons_eq_append_iff.mp hrest with ⟨rfl, hcons⟩ | ⟨ds, rfl, hmore⟩
    · cases hcons
      exact .inr (.inl ⟨hbs, rfl, rfl⟩)
    · exact .inr (.inr ⟨ds, hbs, hmore⟩)

/-- A name among the tokens of type arguments is one of a single argument. -/
theorem exists_argStandsIn (h : argTokens args = before ++ .name n :: after) :
    ∃ b u a b' a', ArgStandsIn args b u a ∧ u.tokens = b' ++ .name n :: a' ∧
      before = b ++ b' ∧ after = a' ++ a := by
  induction args using TypeArgs.rec (motive_1 := fun _ => True) generalizing before with
  | one u => exact ⟨[], u, [], before, after, .one, h, rfl, by simp⟩
  | cons u more _ ih =>
    rcases append_eq_append_cons h with ⟨a', hu, rfl⟩ | ⟨cs, rfl, hmore⟩
    · exact ⟨[], u, _, before, a', .first, hu, rfl, rfl⟩
    · cases cs with
      | nil => cases hmore
      | cons c cs =>
        obtain ⟨rfl, hrest⟩ := List.cons.inj hmore
        obtain ⟨b, v, a, b', a', harg, hv, rfl, rfl⟩ := ih hrest
        exact ⟨_, v, a, b', a', .later harg, hv, by simp, rfl⟩
  | _ => trivial

/-- The tokens of an argument are fewer than those of the whole type. -/
theorem ArgStandsIn.length_lt {head : Reference} (h : ArgStandsIn args before u after) :
    u.tokens.length < (parameterized head args).tokens.length := by
  simp only [tokens, h.tokens_eq, List.length_cons, List.length_append]
  omega

theorem head?_ne_of_append {α : Type} {as bs : List α} {x : α}
    (h : (as ++ bs).head? ≠ some x) : as.head? ≠ some x := by
  cases as with
  | nil => simp
  | cons a as => simpa using h

/-- A single name is all there is to a canonical type only if it denotes that type. -/
theorem eq_named_of_tokens {wildcards : Bool} (hu : isCanonical s wildcards u = true)
    (h : u.tokens = [.name n]) : u = named s n := by
  cases u with
  | primitive p =>
    obtain rfl : p.name = n := by simpa [tokens] using h
    exact (named_primitive s p).symm
  | reference r =>
    obtain rfl : r.name = n := by simpa [tokens] using h
    simp only [isCanonical, Bool.and_eq_true, decide_eq_true_eq] at hu
    exact (named_reference (isFreeName_iff.mp hu.1).2.1 hu.2).symm
  | var m =>
    obtain rfl : m = n := by simpa [tokens] using h
    simp only [isCanonical, Bool.and_eq_true, decide_eq_true_eq] at hu
    exact (named_var (isFreeName_iff.mp hu.1).2.1 hu.2).symm
  | parameterized head args => simp [tokens] at h
  | array element =>
    have hlength := congrArg List.length h
    simp [tokens] at hlength
  | wildcard => simp [tokens] at h
  | bounded side bound => simp [tokens] at h

/-- A type that is a single name stands in itself. -/
theorem standsIn_single {wildcards : Bool} (hu : isCanonical s wildcards u = true) {m : String}
    (hm : u.tokens = [.name m]) (h : u.tokens = before ++ .name n :: after) :
    StandsIn u before (named s n) after := by
  rw [hm] at h
  cases before with
  | nil =>
    cases h
    rw [← eq_named_of_tokens hu hm]
    exact .whole
  | cons t before => simp at h

/-- A name among the tokens of a canonical type, but for heads of type arguments and keywords of
wildcards, stands for the type that it denotes. -/
theorem standsIn_named {wildcards : Bool} (hu : isCanonical s wildcards u = true)
    (hn : isTypeName n = true) (h : u.tokens = before ++ .name n :: after)
    (hafter : after.head? ≠ some .less) : StandsIn u before (named s n) after := by
  induction hlength : u.tokens.length using Nat.strongRecOn
    generalizing u before after wildcards with
  | ind k ih =>
    subst hlength
    cases u with
    | primitive p => exact standsIn_single hu rfl h
    | reference r => exact standsIn_single hu rfl h
    | var m => exact standsIn_single hu rfl h
    | wildcard =>
      cases before with
      | nil => cases h
      | cons t before => simp [tokens] at h
    | parameterized head args =>
      rcases cons_cons_eq_append_cons h with ⟨-, -, rfl⟩ | ⟨-, hless, -⟩ |
        ⟨before, rfl, hrest⟩
      · exact absurd rfl hafter
      · cases hless
      · rcases append_eq_append_cons hrest with ⟨cs, hargs, rfl⟩ | ⟨cs, -, hcs⟩
        · obtain ⟨b, v, a, b', a', harg, hv, rfl, rfl⟩ := exists_argStandsIn hargs
          simp only [isCanonical, Bool.and_eq_true] at hu
          have hname := ih _ harg.length_lt (isCanonical_of_mem hu.2 harg.mem) hv
            (head?_ne_of_append (head?_ne_of_append hafter)) rfl
          simpa using (StandsIn.argument .whole harg).trans hname
        · cases cs with
          | nil => cases hcs
          | cons c cs => simp at hcs
    | array element =>
      rcases append_eq_append_cons h with ⟨cs, helement, rfl⟩ | ⟨cs, -, hcs⟩
      · simp only [isCanonical] at hu
        have hname := ih _ (by simp [tokens]) hu helement (head?_ne_of_append hafter) rfl
        simpa using (StandsIn.element .whole).trans hname
      · rcases cons_cons_eq_append_cons hcs with ⟨-, h, -⟩ | ⟨-, h, -⟩ | ⟨cs, -, h⟩
        · cases h
        · cases h
        · simp at h
    | bounded side bound =>
      rcases cons_cons_eq_append_cons h with ⟨-, hquestion, -⟩ | ⟨-, hkeyword, -⟩ |
        ⟨before, rfl, hbound⟩
      · cases hquestion
      · cases hkeyword
        rw [isTypeName, Side.ofKeyword?_keyword] at hn
        cases hn
      · simp only [isCanonical, Bool.and_eq_true] at hu
        have hname := ih _ (by simp only [tokens, List.length_cons]; omega) hu.2 hbound hafter rfl
        simpa using (StandsIn.bound .whole).trans hname

/-- Where a name stands in a text that was read, by itself, the type that it denotes stands in the
type, and no other. -/
theorem standsIn_iff_of_read {text : String} (hread : (read s text).outcome = .ok t)
    (hlex : lex text.toList = .ok (before ++ .name n :: after)) (hn : isTypeName n = true)
    (hafter : after.head? ≠ some .less) : StandsIn t before u after ↔ u = named s n := by
  obtain ⟨hcanonical, htokens, -⟩ := canonical_of_read hread
  have htext : t.tokens = before ++ .name n :: after := Except.ok.inj (htokens.symm.trans hlex)
  constructor
  · intro h
    obtain ⟨place, hoccurs⟩ := h.occurs
    have hu : before ++ u.tokens ++ after = before ++ [.name n] ++ after := by
      rw [← h.tokens_eq, htext]
      simp
    exact eq_named_of_tokens (hoccurs.isCanonical hcanonical)
      (List.append_cancel_left (List.append_cancel_right hu))
  · rintro rfl
    exact standsIn_named hcanonical hn htext hafter

/-- A name by itself is read as the type that it denotes, unless it is the keyword of a wildcard. -/
theorem outcome_read_name_iff (hn : Text.isDottedName n = true) :
    (read s n).outcome = .ok t ↔ isTypeName n = true ∧ t = named s n := by
  have hlex : lex n.toList = .ok [.name n] := lex_eq_ok_iff.mpr (spells_name hn)
  constructor
  · intro h
    obtain ⟨hcanonical, htokens, -⟩ := canonical_of_read h
    have ht : t.tokens = [.name n] := Except.ok.inj (htokens.symm.trans hlex)
    obtain rfl := eq_named_of_tokens hcanonical ht
    refine ⟨?_, rfl⟩
    cases hp : Primitive.ofName? n with
    | some p =>
      rw [← Primitive.name_of_ofName? hp]
      exact isTypeName_primitive p
    | none =>
      rw [Canonical, named, hp] at hcanonical
      dsimp only at hcanonical
      split at hcanonical
      · simp only [isCanonical, Bool.and_eq_true] at hcanonical
        exact (isFreeName_iff.mp hcanonical.1).2.2
      · simp only [isCanonical, Bool.and_eq_true] at hcanonical
        exact (isFreeName_iff.mp hcanonical.1).2.2
  · rintro ⟨htype, rfl⟩
    exact read_of_lex (isCanonical_named htype hn false) (by rw [hlex, tokens_named])

end MemberEncoding.TypeRef
