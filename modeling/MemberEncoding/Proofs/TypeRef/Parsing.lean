import MemberEncoding.TypeRef.Grammar
import MemberEncoding.TypeRef.Reader

/-!
# MemberEncoding.Proofs.TypeRef.Parsing

**The reader of types finds derivations, and finds all of them.** What a reading used up derives the
type that came out (`typeAt_sound`), and a derivation is read to its end wherever the tokens after
it do not go on with it (`TypeDerivation.typeAt_append`).

The reader carries proofs that tokens get fewer, which is of no interest here. `typeAt` and `argsAt`
are its outcomes without them, and `typeAt_eq` and `argsAt_eq` are their equations; nothing else
unfolds the reader. Array brackets are read behind a base that is complete, so completeness of a
type is stated with the brackets still to come, and a pair of brackets moves from the derivation to
the tokens after it.
-/

namespace MemberEncoding.TypeRef

variable {s : Scope}

/-! ### Outcomes -/

/-- The type at the front of the tokens, and the tokens after it. -/
def typeAt (s : Scope) (wildcards : Bool) (ts : List Token) :
    Except TypeFault (TypeRef × List Token) :=
  (readType s wildcards ts).outcome.map fun p => (p.value, p.rest)

/-- The type arguments at the front of the tokens, and the tokens after their closing bracket. -/
def argsAt (s : Scope) (ts : List Token) : Except TypeFault (TypeArgs × List Token) :=
  (readArgs s ts).outcome.map fun p => (p.value, p.rest)

/-- A type with the pairs of array brackets at the front of the tokens, and the tokens behind. -/
def bracketsAt (t : TypeRef) : List Token → Except TypeFault (TypeRef × List Token)
  | .opening :: .closing :: ts => bracketsAt t.array ts
  | .opening :: _ => .error .openBrackets
  | ts => .ok (t, ts)

theorem arrays_map {start ts : List Token} (t : TypeRef) (h : ts.length < start.length) :
    (arrays t ts h).map (fun p => (p.value, p.rest)) = bracketsAt t ts := by
  fun_induction bracketsAt t ts with
  | case1 t ts ih =>
    rw [arrays]
    exact ih _
  | case2 t ts hne =>
    rw [arrays]
    · rfl
    · exact fun us _ _ hus => hne us hus
  | case3 t ts hne₁ hne₂ =>
    rw [arrays]
    · rfl
    · exact fun us _ hus _ => hne₁ us hus
    · exact fun us _ hus _ => hne₂ us hus

theorem outcome_ofName (n : String) : (ofName s n).outcome = .ok (named s n) := by
  unfold ofName named
  cases Primitive.ofName? n with
  | some p => rfl
  | none =>
    by_cases hn : n ∈ s
    · simp only [if_pos hn]
      rfl
    · simp only [if_neg hn]
      rfl

/-- A name alone is read as the type that it denotes, with the brackets behind it. -/
theorem ofName_arrays_map {start ts : List Token} (n : String) (h : ts.length < start.length) :
    (ofName s n >>= fun t => Reading.of (arrays t ts h)).outcome.map (fun p => (p.value, p.rest))
      = bracketsAt (named s n) ts := by
  rw [Reading.outcome_bind, outcome_ofName]
  exact arrays_map _ h

/-- The equation of the reader of types. -/
theorem typeAt_eq (s : Scope) (wildcards : Bool) (ts : List Token) :
    typeAt s wildcards ts =
      match ts with
      | [] => .error .endOfInput
      | .question :: ts =>
        if wildcards then
          match ts with
          | .name n :: ts =>
            match Side.ofKeyword? n with
            | some side => (typeAt s false ts).map fun p => (.bounded side p.1, p.2)
            | none => .ok (.wildcard, .name n :: ts)
          | ts => .ok (.wildcard, ts)
        else .error .misplacedWildcard
      | .name n :: ts =>
        if (Side.ofKeyword? n).isSome then .error (.notAName n)
        else
          match ts with
          | .less :: ts =>
            if isHead s n then
              argsAt s ts >>= fun p => bracketsAt (.parameterized ⟨n⟩ p.1) p.2
            else .error (.argumentsRefused n)
          | ts => bracketsAt (named s n) ts
      | t :: _ => .error (.notAName t.text) := by
  unfold typeAt argsAt
  rw [readType.eq_def]
  cases ts with
  | nil => rfl
  | cons t ts =>
    cases t with
    | question =>
      cases wildcards with
      | false => rfl
      | true =>
        cases ts with
        | nil => rfl
        | cons u us =>
          cases u with
          | name n =>
            dsimp only [if_true]
            cases Side.ofKeyword? n with
            | none => rfl
            | some side =>
              simp only [Reading.map]
              cases (readType s false us).outcome <;> rfl
          | _ => rfl
    | name n =>
      dsimp only
      cases Side.ofKeyword? n with
      | some side => rfl
      | none =>
        cases ts with
        | nil => exact ofName_arrays_map n _
        | cons u us =>
          cases u with
          | less =>
            simp only [Option.isSome_none, Bool.false_eq_true, if_false]
            by_cases hn : isHead s n = true
            · simp only [if_pos hn, Reading.outcome_bind, Reading.outcome_mention]
              cases (readArgs s us).outcome with
              | error e => rfl
              | ok args => exact arrays_map _ _
            · simp only [if_neg hn]
              rfl
          | _ => exact ofName_arrays_map n _
    | _ => rfl

/-- The equation of the reader of type arguments. -/
theorem argsAt_eq (s : Scope) (ts : List Token) :
    argsAt s ts =
      typeAt s true ts >>= fun p =>
        match p.2 with
        | .comma :: rest => (argsAt s rest).map fun q => (.cons p.1 q.1, q.2)
        | .greater :: rest => .ok (.one p.1, rest)
        | _ => .error .openArguments := by
  unfold argsAt typeAt
  rw [readArgs, Reading.outcome_bind]
  cases (readType s true ts).outcome with
  | error e => rfl
  | ok p =>
    obtain ⟨arg, rest, hlt⟩ := p
    cases rest with
    | nil => rfl
    | cons u us =>
      cases u with
      | comma =>
        simp only [bind, Except.bind, Except.map, Reading.map]
        cases (readArgs s us).outcome <;> rfl
      | _ => rfl

/-! ### Soundness -/

/-- All ways to read a type: a wildcard with or without a bound, or a name with or without type
arguments, each behind what it starts with. -/
theorem typeAt_eq_ok {wildcards : Bool} {ts rest : List Token} {t : TypeRef}
    (h : typeAt s wildcards ts = .ok (t, rest)) :
    (wildcards = true ∧ ∃ side us b, ts = .question :: .name (Side.keyword side) :: us ∧
      typeAt s false us = .ok (b, rest) ∧ t = .bounded side b) ∨
    (wildcards = true ∧ ts = .question :: rest ∧ t = .wildcard) ∨
    (∃ n us, isTypeName n = true ∧ ts = .name n :: us ∧
      bracketsAt (named s n) us = .ok (t, rest)) ∨
    (∃ n us args vs, isTypeName n = true ∧ isHead s n = true ∧ ts = .name n :: .less :: us ∧
      argsAt s us = .ok (args, vs) ∧ bracketsAt (.parameterized ⟨n⟩ args) vs = .ok (t, rest)) := by
  rw [typeAt_eq] at h
  cases ts with
  | nil => cases h
  | cons u us =>
    cases u with
    | question =>
      cases wildcards with
      | false => cases h
      | true =>
        cases us with
        | nil =>
          cases h
          exact .inr (.inl ⟨rfl, rfl, rfl⟩)
        | cons v vs =>
          cases v with
          | name n =>
            dsimp only [if_true] at h
            cases hside : Side.ofKeyword? n with
            | none =>
              rw [hside] at h
              cases h
              exact .inr (.inl ⟨rfl, rfl, rfl⟩)
            | some side =>
              rw [hside] at h
              dsimp only at h
              cases hb : typeAt s false vs with
              | error e =>
                rw [hb] at h
                cases h
              | ok b =>
                rw [hb] at h
                cases h
                refine .inl ⟨rfl, side, vs, b.1, ?_, hb, rfl⟩
                rw [Side.keyword_of_ofKeyword? hside]
          | _ =>
            cases h
            exact .inr (.inl ⟨rfl, rfl, rfl⟩)
    | name n =>
      dsimp only at h
      cases hside : Side.ofKeyword? n with
      | some side =>
        rw [hside] at h
        cases h
      | none =>
        rw [hside] at h
        have hn : isTypeName n = true := by rw [isTypeName, hside]; rfl
        cases us with
        | nil => exact .inr (.inr (.inl ⟨n, [], hn, rfl, h⟩))
        | cons v vs =>
          cases v with
          | less =>
            simp only [Option.isSome_none, Bool.false_eq_true, if_false] at h
            by_cases hhead : isHead s n = true
            · rw [if_pos hhead] at h
              cases hargs : argsAt s vs with
              | error e =>
                rw [hargs] at h
                cases h
              | ok args =>
                rw [hargs] at h
                exact .inr (.inr (.inr ⟨n, vs, args.1, args.2, hn, hhead, rfl, hargs, h⟩))
            · rw [if_neg hhead] at h
              cases h
          | _ => exact .inr (.inr (.inl ⟨n, _, hn, rfl, h⟩))
    | _ => cases h

/-- Type arguments are an argument that is the last one, or one before a comma and more. -/
theorem argsAt_eq_ok {ts rest : List Token} {args : TypeArgs}
    (h : argsAt s ts = .ok (args, rest)) :
    ∃ a us, typeAt s true ts = .ok (a, us) ∧
      ((us = .greater :: rest ∧ args = .one a) ∨
        ∃ vs more, us = .comma :: vs ∧ argsAt s vs = .ok (more, rest) ∧ args = .cons a more) := by
  rw [argsAt_eq] at h
  cases ha : typeAt s true ts with
  | error e =>
    rw [ha] at h
    cases h
  | ok p =>
    obtain ⟨a, us⟩ := p
    rw [ha] at h
    refine ⟨a, us, rfl, ?_⟩
    cases us with
    | nil => cases h
    | cons u us =>
      cases u with
      | comma =>
        simp only [bind, Except.bind] at h
        cases hmore : argsAt s us with
        | error e =>
          rw [hmore] at h
          cases h
        | ok q =>
          rw [hmore] at h
          cases h
          exact .inr ⟨us, q.1, rfl, hmore, rfl⟩
      | greater =>
        cases h
        exact .inl ⟨rfl, rfl⟩
      | _ => cases h

theorem length_lt_of_typeAt {wildcards : Bool} {ts rest : List Token} {t : TypeRef}
    (h : typeAt s wildcards ts = .ok (t, rest)) : rest.length < ts.length := by
  unfold typeAt at h
  cases hr : (readType s wildcards ts).outcome with
  | error e =>
    rw [hr] at h
    cases h
  | ok p =>
    rw [hr] at h
    cases h
    exact p.shorter

/-- The tokens derive the type, which may be a wildcard where wildcards are allowed. -/
def Derives (s : Scope) (wildcards : Bool) (ts : List Token) (t : TypeRef) : Prop :=
  if wildcards then Nonempty (ArgDerivation s ts t) else Nonempty (TypeDerivation s ts t)

theorem TypeDerivation.derives {ts : List Token} {t : TypeRef} (d : TypeDerivation s ts t)
    (wildcards : Bool) : Derives s wildcards ts t := by
  cases wildcards with
  | false => exact ⟨d⟩
  | true => exact ⟨.type d⟩

/-- Brackets that are read go on with a derivation of what stands before them. -/
theorem bracketsAt_sound {front ts rest : List Token} {t u : TypeRef}
    (h : bracketsAt t ts = .ok (u, rest)) (d : TypeDerivation s front t) :
    ∃ used, ts = used ++ rest ∧ Nonempty (TypeDerivation s (front ++ used) u) := by
  fun_induction bracketsAt t ts generalizing front with
  | case1 t ts ih =>
    obtain ⟨used, rfl, hd⟩ := ih h d.array
    exact ⟨.opening :: .closing :: used, rfl, by simpa using hd⟩
  | case2 => cases h
  | case3 t ts _ _ =>
    cases h
    exact ⟨[], rfl, by simpa using ⟨d⟩⟩

mutual

/-- What is read off the front of the tokens derives the type. -/
theorem typeAt_sound {wildcards : Bool} {ts rest : List Token} {t : TypeRef}
    (h : typeAt s wildcards ts = .ok (t, rest)) :
    ∃ used, ts = used ++ rest ∧ Derives s wildcards used t := by
  rcases typeAt_eq_ok h with ⟨rfl, side, us, b, rfl, hb, rfl⟩ | ⟨rfl, rfl, rfl⟩ |
    ⟨n, us, hn, rfl, hbr⟩ | ⟨n, us, args, vs, hn, hhead, rfl, hargs, hbr⟩
  · obtain ⟨used, rfl, ⟨d⟩⟩ := typeAt_sound hb
    exact ⟨.question :: .name side.keyword :: used, rfl, ⟨.bounded side d⟩⟩
  · exact ⟨[.question], rfl, ⟨.wildcard⟩⟩
  · obtain ⟨used, rfl, ⟨d⟩⟩ := bracketsAt_sound hbr (.base (.name hn))
    exact ⟨.name n :: used, rfl, d.derives wildcards⟩
  · obtain ⟨used, rfl, ⟨dargs⟩⟩ := argsAt_sound hargs
    simp only [isHead, Bool.and_eq_true, Option.isNone_iff_eq_none, decide_eq_true_eq] at hhead
    obtain ⟨more, rfl, ⟨d⟩⟩ :=
      bracketsAt_sound hbr (.base (.parameterized hn hhead.1 hhead.2 dargs))
    exact ⟨.name n :: .less :: (used ++ [.greater]) ++ more, by simp, d.derives wildcards⟩
  termination_by (ts.length, 0)

/-- What is read up to a closing bracket derives the type arguments. -/
theorem argsAt_sound {ts rest : List Token} {args : TypeArgs}
    (h : argsAt s ts = .ok (args, rest)) :
    ∃ used, ts = used ++ .greater :: rest ∧ Nonempty (ArgsDerivation s used args) := by
  obtain ⟨a, us, ha, ⟨rfl, rfl⟩ | ⟨vs, more, rfl, hmore, rfl⟩⟩ := argsAt_eq_ok h
  · obtain ⟨used, rfl, ⟨d⟩⟩ := typeAt_sound ha
    exact ⟨used, rfl, ⟨.one d⟩⟩
  · -- The arguments that follow are read off fewer tokens.
    have hlt := length_lt_of_typeAt ha
    obtain ⟨used, rfl, ⟨d⟩⟩ := typeAt_sound ha
    obtain ⟨used', rfl, ⟨ds⟩⟩ := argsAt_sound hmore
    exact ⟨used ++ .comma :: used', by simp, ⟨.cons d ds⟩⟩
  termination_by (ts.length, 1)

end

/-! ### Completeness -/

theorem typeAt_name {n : String} (hn : isTypeName n = true) (wildcards : Bool) {rest : List Token}
    (h : rest.head? ≠ some .less) :
    typeAt s wildcards (.name n :: rest) = bracketsAt (named s n) rest := by
  rw [typeAt_eq]
  simp only [isTypeName, Option.isNone_iff_eq_none] at hn
  simp only [hn, Option.isSome_none, Bool.false_eq_true, if_false]
  split
  · exact absurd rfl h
  · rfl

theorem typeAt_parameterized {n : String} (hn : isTypeName n = true)
    (hp : Primitive.ofName? n = none) (hs : n ∉ s) (wildcards : Bool) {ts rest : List Token}
    {args : TypeArgs} (hargs : argsAt s ts = .ok (args, rest)) :
    typeAt s wildcards (.name n :: .less :: ts) = bracketsAt (.parameterized ⟨n⟩ args) rest := by
  have hhead : isHead s n = true := by simp [isHead, hp, hs]
  rw [typeAt_eq]
  simp only [isTypeName, Option.isNone_iff_eq_none] at hn
  simp only [hn, Option.isSome_none, Bool.false_eq_true, if_false, if_pos hhead, hargs]
  rfl

theorem bracketsAt_of_head? {t : TypeRef} {rest : List Token} (h : rest.head? ≠ some .opening) :
    bracketsAt t rest = .ok (t, rest) := by
  rw [bracketsAt]
  · rintro us rfl
    exact h rfl
  · rintro us rfl
    exact h rfl

/-- The tokens go on after a type argument: with a comma and more, or a closing bracket. -/
def EndsArg (rest : List Token) : Prop :=
  rest.head? = some .comma ∨ rest.head? = some .greater

theorem EndsArg.head?_ne {rest : List Token} (h : EndsArg rest) {t : Token} (hc : t ≠ .comma)
    (hg : t ≠ .greater) : rest.head? ≠ some t := by
  rcases h with h | h
  · rw [h]
    exact fun e => hc (Option.some.inj e).symm
  · rw [h]
    exact fun e => hg (Option.some.inj e).symm

theorem typeAt_wildcard {rest : List Token} (h : EndsArg rest) :
    typeAt s true (.question :: rest) = .ok (.wildcard, rest) := by
  rw [typeAt_eq]
  cases rest with
  | nil => rfl
  | cons u us =>
    cases u with
    | name n => exact absurd h (by simp [EndsArg])
    | _ => rfl

theorem typeAt_bounded {side : Side} {b : TypeRef} {ts rest : List Token}
    (h : typeAt s false ts = .ok (b, rest)) :
    typeAt s true (.question :: .name side.keyword :: ts) = .ok (.bounded side b, rest) := by
  rw [typeAt_eq]
  simp only [if_true, Side.ofKeyword?_keyword, h]
  rfl

mutual

/-- The tokens of a type are read as the type, with the brackets behind them. -/
theorem TypeDerivation.typeAt_append : {ts : List Token} → {t : TypeRef} →
    TypeDerivation s ts t → (wildcards : Bool) → {rest : List Token} →
    rest.head? ≠ some .less → typeAt s wildcards (ts ++ rest) = bracketsAt t rest
  | _, _, .base d, wildcards, _, h => d.typeAt_append wildcards h
  | _, _, .array d, wildcards, rest, _ => by
    -- The last pair of brackets is read behind the type that it belongs to.
    have hd := d.typeAt_append wildcards (show (.opening :: .closing :: rest).head? ≠ _ by simp)
    rw [List.append_assoc]
    exact hd

/-- The tokens of a type without brackets are read as the type, with the brackets behind them. -/
theorem BaseDerivation.typeAt_append : {ts : List Token} → {t : TypeRef} →
    BaseDerivation s ts t → (wildcards : Bool) → {rest : List Token} →
    rest.head? ≠ some .less → typeAt s wildcards (ts ++ rest) = bracketsAt t rest
  | _, _, .name hn, wildcards, _, h => typeAt_name hn wildcards h
  | _, _, .parameterized hn hp hs d, wildcards, rest, _ => by
    have hargs := d.argsAt_append rest
    rw [List.cons_append, List.cons_append, List.append_assoc]
    exact typeAt_parameterized hn hp hs wildcards hargs

/-- The tokens of type arguments are read up to the closing bracket behind them. -/
theorem ArgsDerivation.argsAt_append : {ts : List Token} → {args : TypeArgs} →
    ArgsDerivation s ts args → (rest : List Token) →
    argsAt s (ts ++ .greater :: rest) = .ok (args, rest)
  | _, _, .one d, rest => by
    rw [argsAt_eq, d.typeAt_append (.inr rfl)]
    rfl
  | _, _, .cons d ds, rest => by
    have hmore := ds.argsAt_append rest
    rw [List.append_assoc, List.cons_append, argsAt_eq, d.typeAt_append (.inl rfl)]
    simp only [bind, Except.bind, hmore]
    rfl

/-- The tokens of a type argument are read as far as they go. -/
theorem ArgDerivation.typeAt_append : {ts : List Token} → {t : TypeRef} →
    ArgDerivation s ts t → {rest : List Token} →
    EndsArg rest → typeAt s true (ts ++ rest) = .ok (t, rest)
  | _, _, .type d, _, h => by
    rw [d.typeAt_append true (h.head?_ne (by simp) (by simp))]
    exact bracketsAt_of_head? (h.head?_ne (by simp) (by simp))
  | _, _, .wildcard, _, h => typeAt_wildcard h
  | _, _, .bounded side d, rest, h => by
    have hd := d.typeAt_append false (h.head?_ne (by simp) (by simp))
    rw [bracketsAt_of_head? (h.head?_ne (by simp) (by simp))] at hd
    exact typeAt_bounded hd

end

end MemberEncoding.TypeRef
