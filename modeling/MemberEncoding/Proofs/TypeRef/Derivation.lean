import MemberEncoding.Proofs.TypeRef.Parsing

/-!
# MemberEncoding.Proofs.TypeRef.Derivation

**The grammar of types is unambiguous, and reading a text decides it** (`read_decides_grammar`).

Two derivations from the same tokens denote the same type, because the reader finds what each of
them denotes. The rest is about derivations of one type: the type fixes the tokens
(`TypeDerivation.tokens_eq`) and the rule that was used last, so by induction it fixes the whole
derivation (`TypeDerivation.heq`).
-/

namespace MemberEncoding.TypeRef

variable {s : Scope}

/-! ### The tokens of a type -/

mutual

/-- The tokens that a type is written with. -/
def tokens : TypeRef → List Token
  | primitive p => [.name p.name]
  | reference r => [.name r.name]
  | parameterized head args => .name head.name :: .less :: (argTokens args ++ [.greater])
  | array element => tokens element ++ [.opening, .closing]
  | var name => [.name name]
  | wildcard => [.question]
  | bounded side bound => .question :: .name side.keyword :: tokens bound

/-- The tokens that type arguments are written with. -/
def argTokens : TypeArgs → List Token
  | .one a => tokens a
  | .cons a more => tokens a ++ .comma :: argTokens more

end

theorem tokens_named (s : Scope) (n : String) : (named s n).tokens = [.name n] := by
  unfold named
  cases hp : Primitive.ofName? n with
  | some p => rw [tokens, Primitive.name_of_ofName? hp]
  | none =>
    dsimp only
    split <;> rfl

theorem named_injective {m n : String} (h : named s m = named s n) : m = n := by
  have ht := congrArg tokens h
  rw [tokens_named, tokens_named] at ht
  cases ht
  rfl

/-- A name by itself is no type that is made of others. -/
theorem named_shape (s : Scope) (n : String) :
    (named s n).isWildcard = false ∧ (∀ t, named s n ≠ .array t) ∧
      ∀ head args, named s n ≠ .parameterized head args := by
  unfold named
  cases Primitive.ofName? n with
  | some p => simp [isWildcard]
  | none =>
    dsimp only
    split <;> simp [isWildcard]

mutual

theorem TypeDerivation.tokens_eq : {ts : List Token} → {t : TypeRef} →
    TypeDerivation s ts t → ts = t.tokens
  | _, _, .base d => d.tokens_eq
  | _, _, .array d => by rw [tokens, ← d.tokens_eq]

theorem BaseDerivation.tokens_eq : {ts : List Token} → {t : TypeRef} →
    BaseDerivation s ts t → ts = t.tokens
  | _, _, .name _ => (tokens_named s _).symm
  | _, _, .parameterized _ _ _ d => by rw [tokens, ← d.tokens_eq]

theorem ArgsDerivation.tokens_eq : {ts : List Token} → {args : TypeArgs} →
    ArgsDerivation s ts args → ts = argTokens args
  | _, _, .one d => by rw [argTokens, ← d.tokens_eq]
  | _, _, .cons d ds => by rw [argTokens, ← d.tokens_eq, ← ds.tokens_eq]

theorem ArgDerivation.tokens_eq : {ts : List Token} → {t : TypeRef} →
    ArgDerivation s ts t → ts = t.tokens
  | _, _, .type d => d.tokens_eq
  | _, _, .wildcard => rfl
  | _, _, .bounded _ d => by rw [tokens, ← d.tokens_eq]

end

/-! ### One derivation -/

theorem BaseDerivation.ne_array {ts : List Token} {t : TypeRef} (d : BaseDerivation s ts t)
    (u : TypeRef) : t ≠ .array u := by
  cases d with
  | name _ => exact (named_shape s _).2.1 u
  | parameterized _ _ _ _ => simp

theorem BaseDerivation.isWildcard {ts : List Token} {t : TypeRef} (d : BaseDerivation s ts t) :
    t.isWildcard = false := by
  cases d with
  | name _ => exact (named_shape s _).1
  | parameterized _ _ _ _ => rfl

theorem TypeDerivation.isWildcard {ts : List Token} {t : TypeRef} (d : TypeDerivation s ts t) :
    t.isWildcard = false := by
  cases d with
  | base d => exact d.isWildcard
  | array _ => rfl

theorem TypeDerivation.ne_wildcard {ts : List Token} {t : TypeRef} (d : TypeDerivation s ts t) :
    t ≠ .wildcard := by
  rintro rfl
  cases d.isWildcard

theorem TypeDerivation.ne_bounded {ts : List Token} {t : TypeRef} (d : TypeDerivation s ts t)
    (side : Side) (bound : TypeRef) : t ≠ .bounded side bound := by
  rintro rfl
  cases d.isWildcard

mutual

/-- A type has one derivation at most. -/
theorem TypeDerivation.heq : {ts us : List Token} → {t u : TypeRef} →
    (d : TypeDerivation s ts t) → (e : TypeDerivation s us u) → t = u → HEq d e
  | _, _, _, _, .base d, .base e, h => by
    have hde := d.heq e h
    subst h
    -- Derivations of one type have the same tokens, and so the same type themselves.
    have hts := d.tokens_eq.trans e.tokens_eq.symm
    subst hts
    rw [eq_of_heq hde]
  | _, _, _, _, .array d, .array e, h => by
    have h' := TypeRef.array.inj h
    have hde := d.heq e h'
    subst h'
    have hts := d.tokens_eq.trans e.tokens_eq.symm
    subst hts
    rw [eq_of_heq hde]
  | _, _, _, _, .base d, .array _, h => absurd h (d.ne_array _)
  | _, _, _, _, .array _, .base e, h => absurd h.symm (e.ne_array _)

theorem BaseDerivation.heq : {ts us : List Token} → {t u : TypeRef} →
    (d : BaseDerivation s ts t) → (e : BaseDerivation s us u) → t = u → HEq d e
  | _, _, _, _, .name _, .name _, h => by
    have hn := named_injective h
    subst hn
    rfl
  | _, _, _, _, .parameterized _ _ _ d, .parameterized _ _ _ e, h => by
    obtain ⟨hhead, hargs⟩ := TypeRef.parameterized.inj h
    have hn := Reference.mk.inj hhead
    have hde := d.heq e hargs
    subst hn hargs
    have hts := d.tokens_eq.trans e.tokens_eq.symm
    subst hts
    rw [eq_of_heq hde]
  | _, _, _, _, .name _, .parameterized _ _ _ _, h => absurd h ((named_shape s _).2.2 _ _)
  | _, _, _, _, .parameterized _ _ _ _, .name _, h => absurd h.symm ((named_shape s _).2.2 _ _)

theorem ArgsDerivation.heq : {ts us : List Token} → {as bs : TypeArgs} →
    (d : ArgsDerivation s ts as) → (e : ArgsDerivation s us bs) → as = bs → HEq d e
  | _, _, _, _, .one d, .one e, h => by
    have h' := TypeArgs.one.inj h
    have hde := d.heq e h'
    subst h'
    have hts := d.tokens_eq.trans e.tokens_eq.symm
    subst hts
    rw [eq_of_heq hde]
  | _, _, _, _, .cons d ds, .cons e es, h => by
    obtain ⟨ha, has⟩ := TypeArgs.cons.inj h
    have hde := d.heq e ha
    have hdes := ds.heq es has
    subst ha has
    have hts := d.tokens_eq.trans e.tokens_eq.symm
    have hus := ds.tokens_eq.trans es.tokens_eq.symm
    subst hts hus
    rw [eq_of_heq hde, eq_of_heq hdes]
  | _, _, _, _, .one _, .cons _ _, h => by cases h
  | _, _, _, _, .cons _ _, .one _, h => by cases h

theorem ArgDerivation.heq : {ts us : List Token} → {t u : TypeRef} →
    (d : ArgDerivation s ts t) → (e : ArgDerivation s us u) → t = u → HEq d e
  | _, _, _, _, .type d, .type e, h => by
    have hde := d.heq e h
    subst h
    have hts := d.tokens_eq.trans e.tokens_eq.symm
    subst hts
    rw [eq_of_heq hde]
  | _, _, _, _, .wildcard, .wildcard, _ => HEq.rfl
  | _, _, _, _, .bounded _ d, .bounded _ e, h => by
    obtain ⟨hside, hb⟩ := TypeRef.bounded.inj h
    have hde := d.heq e hb
    subst hside hb
    have hts := d.tokens_eq.trans e.tokens_eq.symm
    subst hts
    rw [eq_of_heq hde]
  | _, _, _, _, .type d, .wildcard, h => absurd h d.ne_wildcard
  | _, _, _, _, .type d, .bounded side _, h => absurd h (d.ne_bounded side _)
  | _, _, _, _, .wildcard, .type e, h => absurd h.symm e.ne_wildcard
  | _, _, _, _, .bounded side _, .type e, h => absurd h.symm (e.ne_bounded side _)
  | _, _, _, _, .wildcard, .bounded _ _, h => by cases h
  | _, _, _, _, .bounded _ _, .wildcard, h => by cases h

end

/-- The tokens that a type derives fix the type, as the reader finds it. -/
theorem TypeDerivation.type_unique {ts : List Token} {t u : TypeRef} (d : TypeDerivation s ts t)
    (e : TypeDerivation s ts u) : t = u := by
  have hd := d.typeAt_append false (show ([] : List Token).head? ≠ some .less by simp)
  have he := e.typeAt_append false (show ([] : List Token).head? ≠ some .less by simp)
  rw [hd] at he
  simp only [bracketsAt, Except.ok.injEq, Prod.mk.injEq, and_true] at he
  exact he

/-! ### Reading all there is -/

/-- A type is all there is if reading it leaves nothing. -/
theorem outcome_ofTokens_eq_ok_iff {ts : List Token} {t : TypeRef} :
    (ofTokens s ts).outcome = .ok t ↔ typeAt s false ts = .ok (t, []) := by
  cases ts with
  | nil =>
    rw [typeAt_eq]
    constructor <;> intro h <;> cases h
  | cons u us =>
    simp only [ofTokens, Reading.outcome_bind, typeAt]
    cases (readType s false (u :: us)).outcome with
    | error e => constructor <;> intro h <;> cases h
    | ok p =>
      obtain ⟨value, rest, _⟩ := p
      cases rest with
      | nil =>
        constructor <;> intro h <;> cases h <;> rfl
      | cons v vs => constructor <;> intro h <;> cases h

theorem outcome_ofTokens_iff_derives {ts : List Token} {t : TypeRef} :
    (ofTokens s ts).outcome = .ok t ↔ Nonempty (TypeDerivation s ts t) := by
  rw [outcome_ofTokens_eq_ok_iff]
  constructor
  · intro h
    obtain ⟨used, hts, hd⟩ := typeAt_sound h
    rw [List.append_nil] at hts
    subst hts
    exact hd
  · intro h
    obtain ⟨d⟩ := h
    have hd := d.typeAt_append false (show ([] : List Token).head? ≠ some .less by simp)
    rw [List.append_nil] at hd
    exact hd

/-- A text reads as the type that its tokens derive. -/
theorem outcome_read_eq_ok_iff {text : String} {t : TypeRef} :
    (read s text).outcome = .ok t ↔
      ∃ ts, lex text.toList = .ok ts ∧ Nonempty (TypeDerivation s ts t) := by
  simp only [read, ofChars, Reading.outcome_mapError]
  cases lex text.toList with
  | error c =>
    constructor
    · intro h
      cases h
    · intro h
      obtain ⟨ts, h, -⟩ := h
      cases h
  | ok ts =>
    simp only [Except.ok.injEq, exists_eq_left', ← outcome_ofTokens_iff_derives]
    cases (ofTokens s ts).outcome with
    | error e => constructor <;> intro h <;> cases h
    | ok u => constructor <;> intro h <;> cases h <;> rfl

/-- A text that cannot be read is named in the error. -/
theorem outcome_read_error {text : String} {e : Error} (h : (read s text).outcome = .error e) :
    ∃ fault, e = .unreadableType text fault := by
  simp only [read, Reading.outcome_mapError] at h
  cases hc : (ofChars s text.toList).outcome with
  | error fault =>
    rw [hc] at h
    cases h
    exact ⟨fault, rfl⟩
  | ok t =>
    rw [hc] at h
    cases h

/-- **Reading decides the grammar.** A text reads as a type if and only if it has tokens that derive
it; there is one derivation at most; and any other text is refused with an error that names it. -/
theorem read_decides_grammar (s : Scope) (text : String) :
    (∀ t, (read s text).outcome = .ok t ↔
      ∃ ts, lex text.toList = .ok ts ∧ Nonempty (TypeDerivation s ts t)) ∧
    (∀ ts, Subsingleton ((t : TypeRef) × TypeDerivation s ts t)) ∧
    ((∃ ts t, lex text.toList = .ok ts ∧ Nonempty (TypeDerivation s ts t)) ∨
      ∃ fault, (read s text).outcome = .error (.unreadableType text fault) ∧
        (Error.unreadableType text fault).category = .typeText) := by
  refine ⟨fun t => outcome_read_eq_ok_iff, fun ts => ⟨?_⟩, ?_⟩
  · rintro ⟨t, d⟩ ⟨u, e⟩
    have htu := d.type_unique e
    subst htu
    rw [eq_of_heq (d.heq e rfl)]
  · cases h : (read s text).outcome with
    | ok t =>
      obtain ⟨ts, hlex, hd⟩ := outcome_read_eq_ok_iff.mp h
      exact .inl ⟨ts, t, hlex, hd⟩
    | error e =>
      obtain ⟨fault, rfl⟩ := outcome_read_error h
      exact .inr ⟨fault, rfl, rfl⟩

end MemberEncoding.TypeRef
