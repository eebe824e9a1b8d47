import MemberEncoding.Proofs.TypeRef.RoundTrip

/-!
# MemberEncoding.Proofs.TypeRef.Rescoping

**Reading a type in another scope.** A scope counts as the set of its names (`read_congr`). With
more names in it fewer texts are read, those in which none of the names heads type arguments, and
in what is read the names stand for type variables in place of declared types (`read_extend_binds`).

The scope is asked in two places, of a name by itself and of a head, so the derivations in one scope
are turned into derivations in the other rule by rule. As every scope widens the empty one, the
types that a text is read as in any two scopes come from the same type, and are written alike.
-/

namespace MemberEncoding.TypeRef

variable {s s' : Scope}

/-! ### Scopes with the same names -/

theorem isHead_congr (h : ∀ n, n ∈ s ↔ n ∈ s') (n : String) : isHead s n = isHead s' n := by
  simp only [isHead, h n]

theorem ofName_congr (h : ∀ n, n ∈ s ↔ n ∈ s') (n : String) : ofName s n = ofName s' n := by
  simp only [ofName, h n]

mutual

theorem readType_congr (h : ∀ n, n ∈ s ↔ n ∈ s') (wildcards : Bool) (ts : List Token) :
    readType s wildcards ts = readType s' wildcards ts := by
  rw [readType.eq_def, readType.eq_def s']
  cases ts with
  | nil => rfl
  | cons t ts =>
    cases t with
    | question =>
      cases ts with
      | nil => rfl
      | cons u us =>
        cases u with
        | name n =>
          dsimp only
          rw [readType_congr h false us]
        | _ => rfl
    | name n =>
      cases ts with
      | nil => simp only [ofName_congr h]
      | cons u us =>
        cases u with
        | less => simp only [isHead_congr h, readArgs_congr h us]
        | _ => simp only [ofName_congr h]
    | _ => rfl
  termination_by (ts.length, 0)

theorem readArgs_congr (h : ∀ n, n ∈ s ↔ n ∈ s') (ts : List Token) :
    readArgs s ts = readArgs s' ts := by
  rw [readArgs, readArgs, readType_congr h true ts]
  congr 1
  funext p
  obtain ⟨arg, rest, hlt⟩ := p
  cases rest with
  | nil => rfl
  | cons u us =>
    cases u with
    | comma =>
      have hfewer : us.length < ts.length := Nat.lt_of_succ_lt hlt
      dsimp only
      rw [readArgs_congr h us]
    | _ => rfl
  termination_by (ts.length, 1)

end

/-- A text is read alike in scopes with the same names. -/
theorem read_congr (h : ∀ n, n ∈ s ↔ n ∈ s') : read s = read s' := by
  have htokens : ofTokens s = ofTokens s' := by
    funext ts
    cases ts with
    | nil => rfl
    | cons t ts => simp only [ofTokens, readType_congr h]
  funext text
  simp only [read, ofChars, htokens]

/-! ### Names that come into scope -/

mutual

/-- The type with the type variable `n` in place of each declared type `n` for which `p n` holds,
but for the heads of type arguments. -/
def bindNames (p : String → Bool) : TypeRef → TypeRef
  | primitive q => primitive q
  | reference r => if p r.name then var r.name else reference r
  | parameterized head args => parameterized head (bindArgNames p args)
  | array element => array (bindNames p element)
  | var n => var n
  | wildcard => wildcard
  | bounded side bound => bounded side (bindNames p bound)

/-- The type arguments with type variables in place of declared types. -/
def bindArgNames (p : String → Bool) : TypeArgs → TypeArgs
  | .one a => .one (bindNames p a)
  | .cons a more => .cons (bindNames p a) (bindArgNames p more)

end

mutual

/-- The names that head type arguments, at any depth. -/
def headNames : TypeRef → List String
  | parameterized head args => head.name :: argHeadNames args
  | array element => headNames element
  | bounded _ bound => headNames bound
  | primitive _ | reference _ | var _ | wildcard => []

/-- The names that head type arguments in type arguments. -/
def argHeadNames : TypeArgs → List String
  | .one a => headNames a
  | .cons a more => headNames a ++ argHeadNames more

end

mutual

/-- A type variable is written as the declared type of its name. -/
theorem text_bindNames (p : String → Bool) : (t : TypeRef) → (bindNames p t).text = t.text
  | primitive _ => rfl
  | reference r => by
    rw [bindNames]
    split <;> rfl
  | parameterized head args => by
    simp only [bindNames, text, argTexts_bindArgNames p args]
  | array element => by
    simp only [bindNames, text, text_bindNames p element]
  | var _ => rfl
  | wildcard => rfl
  | bounded side bound => by
    simp only [bindNames, text, text_bindNames p bound]

theorem argTexts_bindArgNames (p : String → Bool) :
    (args : TypeArgs) → argTexts (bindArgNames p args) = argTexts args
  | .one a => by
    simp only [bindArgNames, argTexts, text_bindNames p a]
  | .cons a more => by
    simp only [bindArgNames, argTexts, text_bindNames p a, argTexts_bindArgNames p more]

end

/-- A name by itself heads nothing. -/
theorem headNames_named (s : Scope) (n : String) : (named s n).headNames = [] := by
  unfold named
  cases Primitive.ofName? n with
  | some p => rfl
  | none =>
    dsimp only
    split <;> rfl

/-- The scope `s'` has the names of `s` and those for which `p` holds. -/
def Widens (s : Scope) (p : String → Bool) (s' : Scope) : Prop :=
  ∀ n, n ∈ s' ↔ n ∈ s ∨ p n = true

/-- None of the names for which `p` holds heads type arguments in the type. -/
def HeadsSpare (p : String → Bool) (t : TypeRef) : Prop := ∀ n ∈ t.headNames, p n = false

/-- None of the names for which `p` holds heads type arguments in the type arguments. -/
def ArgHeadsSpare (p : String → Bool) (args : TypeArgs) : Prop :=
  ∀ n ∈ argHeadNames args, p n = false

section

variable {p : String → Bool}

theorem headsSpare_parameterized {head : Reference} {args : TypeArgs} :
    HeadsSpare p (.parameterized head args) ↔ p head.name = false ∧ ArgHeadsSpare p args :=
  List.forall_mem_cons

theorem argHeadsSpare_cons {a : TypeRef} {more : TypeArgs} :
    ArgHeadsSpare p (.cons a more) ↔ HeadsSpare p a ∧ ArgHeadsSpare p more :=
  List.forall_mem_append

/-- A name denotes in the wider scope what it denotes in the other, but for the names that come into
scope. -/
theorem named_of_widens (h : Widens s p s') (n : String) :
    named s' n = (named s n).bindNames p := by
  unfold named
  cases Primitive.ofName? n with
  | some q => rfl
  | none =>
    have hn := h n
    by_cases hs : n ∈ s
    · simp [hs, hn, bindNames]
    · simp [hs, hn, bindNames]

/-- A name heads type arguments in the wider scope if it does in the other and stays out of
scope. -/
theorem not_mem_iff_of_widens (h : Widens s p s') {n : String} :
    n ∉ s' ↔ n ∉ s ∧ p n = false := by
  simp [h n]

mutual

/-- A derivation goes over to the wider scope if all heads stay out of scope. -/
theorem TypeDerivation.widen (h : Widens s p s') : {ts : List Token} → {t : TypeRef} →
    TypeDerivation s ts t → HeadsSpare p t → Nonempty (TypeDerivation s' ts (t.bindNames p))
  | _, _, .base d, hp => (d.widen h hp).map .base
  | _, _, .array d, hp => (d.widen h hp).map .array

theorem BaseDerivation.widen (h : Widens s p s') : {ts : List Token} → {t : TypeRef} →
    BaseDerivation s ts t → HeadsSpare p t → Nonempty (BaseDerivation s' ts (t.bindNames p))
  | _, _, .name (n := n) hn, _ => by
    rw [← named_of_widens h n]
    exact ⟨.name hn⟩
  | _, _, .parameterized hn hprim hs d, hp => by
    obtain ⟨hhead, hargs⟩ := headsSpare_parameterized.mp hp
    have hs' := (not_mem_iff_of_widens h).mpr ⟨hs, hhead⟩
    exact (d.widen h hargs).map (.parameterized hn hprim hs')

theorem ArgsDerivation.widen (h : Widens s p s') : {ts : List Token} → {args : TypeArgs} →
    ArgsDerivation s ts args → ArgHeadsSpare p args →
    Nonempty (ArgsDerivation s' ts (bindArgNames p args))
  | _, _, .one d, hp => (d.widen h hp).map .one
  | _, _, .cons d ds, hp => by
    obtain ⟨ha, hmore⟩ := argHeadsSpare_cons.mp hp
    obtain ⟨d'⟩ := d.widen h ha
    exact (ds.widen h hmore).map (.cons d')

theorem ArgDerivation.widen (h : Widens s p s') : {ts : List Token} → {t : TypeRef} →
    ArgDerivation s ts t → HeadsSpare p t → Nonempty (ArgDerivation s' ts (t.bindNames p))
  | _, _, .type d, hp => (d.widen h hp).map .type
  | _, _, .wildcard, _ => ⟨.wildcard⟩
  | _, _, .bounded side d, hp => (d.widen h hp).map (.bounded side)

end

mutual

/-- A derivation in the wider scope comes from one in the other. -/
theorem TypeDerivation.narrow (h : Widens s p s') : {ts : List Token} → {u : TypeRef} →
    TypeDerivation s' ts u →
    ∃ t, Nonempty (TypeDerivation s ts t) ∧ HeadsSpare p t ∧ u = t.bindNames p
  | _, _, .base d => by
    obtain ⟨t, ⟨d'⟩, hp, rfl⟩ := d.narrow h
    exact ⟨t, ⟨.base d'⟩, hp, rfl⟩
  | _, _, .array d => by
    obtain ⟨t, ⟨d'⟩, hp, rfl⟩ := d.narrow h
    exact ⟨t.array, ⟨.array d'⟩, hp, rfl⟩

theorem BaseDerivation.narrow (h : Widens s p s') : {ts : List Token} → {u : TypeRef} →
    BaseDerivation s' ts u →
    ∃ t, Nonempty (BaseDerivation s ts t) ∧ HeadsSpare p t ∧ u = t.bindNames p
  | _, _, .name (n := n) hn => by
    refine ⟨named s n, ⟨.name hn⟩, ?_, named_of_widens h n⟩
    simp [HeadsSpare, headNames_named]
  | _, _, .parameterized hn hprim hs d => by
    obtain ⟨args, ⟨d'⟩, hargs, rfl⟩ := d.narrow h
    obtain ⟨hs', hhead⟩ := (not_mem_iff_of_widens h).mp hs
    exact ⟨.parameterized _ args, ⟨.parameterized hn hprim hs' d'⟩,
      headsSpare_parameterized.mpr ⟨hhead, hargs⟩, rfl⟩

theorem ArgsDerivation.narrow (h : Widens s p s') : {ts : List Token} → {args : TypeArgs} →
    ArgsDerivation s' ts args →
    ∃ as, Nonempty (ArgsDerivation s ts as) ∧ ArgHeadsSpare p as ∧ args = bindArgNames p as
  | _, _, .one d => by
    obtain ⟨a, ⟨d'⟩, hp, rfl⟩ := d.narrow h
    exact ⟨.one a, ⟨.one d'⟩, hp, rfl⟩
  | _, _, .cons d ds => by
    obtain ⟨a, ⟨d'⟩, ha, rfl⟩ := d.narrow h
    obtain ⟨more, ⟨ds'⟩, hmore, rfl⟩ := ds.narrow h
    exact ⟨.cons a more, ⟨.cons d' ds'⟩, argHeadsSpare_cons.mpr ⟨ha, hmore⟩, rfl⟩

theorem ArgDerivation.narrow (h : Widens s p s') : {ts : List Token} → {u : TypeRef} →
    ArgDerivation s' ts u →
    ∃ t, Nonempty (ArgDerivation s ts t) ∧ HeadsSpare p t ∧ u = t.bindNames p
  | _, _, .type d => by
    obtain ⟨t, ⟨d'⟩, hp, rfl⟩ := d.narrow h
    exact ⟨t, ⟨.type d'⟩, hp, rfl⟩
  | _, _, .wildcard => ⟨.wildcard, ⟨.wildcard⟩, by simp [HeadsSpare, headNames], rfl⟩
  | _, _, .bounded side d => by
    obtain ⟨t, ⟨d'⟩, hp, rfl⟩ := d.narrow h
    exact ⟨.bounded side t, ⟨.bounded side d'⟩, hp, rfl⟩

end

/-- What a text is read as in the wider scope is what it is read as in the other, with the names
that come into scope bound; and it is read if none of them heads type arguments. -/
theorem outcome_read_widened_iff (h : Widens s p s') {text : String} {u : TypeRef} :
    (read s' text).outcome = .ok u ↔
      ∃ t, (read s text).outcome = .ok t ∧ HeadsSpare p t ∧ u = t.bindNames p := by
  simp only [outcome_read_eq_ok_iff]
  constructor
  · intro hread
    obtain ⟨ts, hlex, ⟨d⟩⟩ := hread
    obtain ⟨t, hd, hp, hu⟩ := d.narrow h
    exact ⟨t, ⟨ts, hlex, hd⟩, hp, hu⟩
  · intro hread
    obtain ⟨t, ⟨ts, hlex, ⟨d⟩⟩, hp, rfl⟩ := hread
    exact ⟨ts, hlex, d.widen h hp⟩

end

/-! ### One name more, and any two scopes -/

theorem widens_extend {v : String} (hv : v ∉ s) : Widens s (· == v) (s.extend v hv) := by
  simp [Widens]

theorem headsSpare_beq_iff {v : String} {t : TypeRef} :
    HeadsSpare (· == v) t ↔ v ∉ t.headNames := by
  simp only [HeadsSpare, beq_eq_false_iff_ne]
  exact ⟨fun h hv => h v hv rfl, fun h n hn hnv => h (hnv ▸ hn)⟩

/-- Every scope widens the empty one. -/
theorem widens_empty (s : Scope) : Widens .empty (fun n => decide (n ∈ s)) s := by
  simp [Widens]

/-- A text is read in the empty scope if it is read in any, as a type that is written alike. -/
theorem exists_read_empty {text : String} {t : TypeRef} (h : (read s text).outcome = .ok t) :
    ∃ u, (read .empty text).outcome = .ok u ∧ u.text = t.text := by
  obtain ⟨u, hu, -, rfl⟩ := (outcome_read_widened_iff (widens_empty s)).mp h
  exact ⟨u, hu, (text_bindNames _ u).symm⟩

/-- **A name that comes into scope is bound in what is read, and may no longer head type
arguments.** Nothing else changes, and in no two scopes a text is read as types that are written
differently. -/
theorem read_extend_binds (s : Scope) (v : String) (hv : v ∉ s) (text : String) :
    let wider := s.extend v hv
    (∀ u, (read wider text).outcome = .ok u → ∃ t, (read s text).outcome = .ok t) ∧
    (∀ t, (read s text).outcome = .ok t →
      ((∃ u, (read wider text).outcome = .ok u) ↔ v ∉ t.headNames) ∧
      ∀ u, (read wider text).outcome = .ok u → u = t.bindNames (· == v)) ∧
    ∀ s₁ s₂ t₁ t₂, (read s₁ text).outcome = .ok t₁ → (read s₂ text).outcome = .ok t₂ →
      t₁.text = t₂.text := by
  intro wider
  have hwider : ∀ {u}, (read wider text).outcome = .ok u ↔
      ∃ t, (read s text).outcome = .ok t ∧ HeadsSpare (· == v) t ∧ u = t.bindNames (· == v) :=
    outcome_read_widened_iff (widens_extend hv)
  refine ⟨fun u hu => ?_, fun t ht => ⟨⟨?_, ?_⟩, ?_⟩, fun s₁ s₂ t₁ t₂ h₁ h₂ => ?_⟩
  · obtain ⟨t, ht, -, -⟩ := hwider.mp hu
    exact ⟨t, ht⟩
  · intro hread
    obtain ⟨u, hu⟩ := hread
    obtain ⟨t', ht', hp, -⟩ := hwider.mp hu
    cases ht.symm.trans ht'
    exact headsSpare_beq_iff.mp hp
  · intro hhead
    exact ⟨_, hwider.mpr ⟨t, ht, headsSpare_beq_iff.mpr hhead, rfl⟩⟩
  · intro u hu
    obtain ⟨t', ht', -, rfl⟩ := hwider.mp hu
    cases ht.symm.trans ht'
    rfl
  · obtain ⟨u₁, hu₁, htext₁⟩ := exists_read_empty h₁
    obtain ⟨u₂, hu₂, htext₂⟩ := exists_read_empty h₂
    cases hu₁.symm.trans hu₂
    exact htext₁.symm.trans htext₂

/-- A name that comes into scope is bound as a type argument, and is refused as a head. -/
theorem read_extend_binds_argument :
    let s : Scope := ⟨["K"], by decide⟩
    let wider := s.extend "T" (by decide)
    let map (t : TypeRef) : TypeRef :=
      .parameterized ⟨"Map"⟩ (.cons t (.one (.bounded .lower (.array (.var "K")))))
    (read s "Map<T, ? super K[]>").outcome = .ok (map (.reference ⟨"T"⟩)) ∧
      (read wider "Map<T, ? super K[]>").outcome = .ok (map (.var "T")) ∧
      (∃ t, (read s "T<K>").outcome = .ok t) ∧ ¬ ∃ t, (read wider "T<K>").outcome = .ok t := by
  intro s wider map
  have hread : (read s "Map<T, ? super K[]>").outcome = .ok (map (.reference ⟨"T"⟩)) :=
    read_of_lex (by decide +kernel) (by decide +kernel)
  have hhead : (read s "T<K>").outcome = .ok (.parameterized ⟨"T"⟩ (.one (.var "K"))) :=
    read_of_lex (by decide +kernel) (by decide +kernel)
  obtain ⟨-, hbinds, -⟩ := read_extend_binds s "T" (by decide) "Map<T, ? super K[]>"
  obtain ⟨-, hrefuses, -⟩ := read_extend_binds s "T" (by decide) "T<K>"
  obtain ⟨u, hu⟩ := (hbinds _ hread).1.mpr (by decide +kernel)
  obtain rfl := (hbinds _ hread).2 u hu
  exact ⟨hread, hu, ⟨_, hhead⟩, fun hwider => (hrefuses _ hhead).1.mp hwider (by decide +kernel)⟩

end MemberEncoding.TypeRef
