import MemberEncoding.Proofs.TypeRef.Writing

/-!
# MemberEncoding.Proofs.TypeRef.RoundTrip

**Writing and reading types are inverse to each other**, exactly on the canonical types
(`read_inverts_text`).

A canonical type derives from its own tokens, as its names denote what they stand for. Conversely,
all that a derivation adds to the names of its tokens is what canonical types ask for, and the names
that come out of a text are dotted. So what is read is canonical, and what is canonical is read from
the spelling that `spells_text` gives for it.
-/

namespace MemberEncoding.TypeRef

open Text (isDottedName)

variable {s : Scope}

/-! ### Canonical types derive from their tokens -/

theorem isFreeName_iff {n : String} :
    isFreeName n = true ↔
      isDottedName n = true ∧ Primitive.ofName? n = none ∧ isTypeName n = true := by
  simp only [isFreeName, isTypeName, Bool.and_eq_true, Option.isNone_iff_eq_none, and_assoc]

theorem isTypeName_primitive (p : Primitive) : isTypeName p.name = true := by
  cases p <;> decide

theorem named_primitive (s : Scope) (p : Primitive) : named s p.name = .primitive p := by
  rw [named, Primitive.ofName?_name]

theorem named_var {n : String} (hp : Primitive.ofName? n = none) (hs : n ∈ s) :
    named s n = .var n := by
  rw [named, hp]
  exact if_pos hs

theorem named_reference {n : String} (hp : Primitive.ofName? n = none) (hs : n ∉ s) :
    named s n = .reference ⟨n⟩ := by
  rw [named, hp]
  exact if_neg hs

/-- A name derives the type that it denotes. -/
theorem derives_named {n : String} {t : TypeRef} (hn : isTypeName n = true) (ht : named s n = t)
    (wildcards : Bool) : Derives s wildcards [.name n] t := by
  subst ht
  exact (TypeDerivation.base (.name hn)).derives wildcards

mutual

/-- A canonical type derives from its tokens. -/
theorem derives_tokens : {t : TypeRef} → {wildcards : Bool} → isCanonical s wildcards t = true →
    Derives s wildcards t.tokens t
  | primitive p, wildcards, _ =>
    derives_named (isTypeName_primitive p) (named_primitive s p) wildcards
  | reference r, wildcards, h => by
    simp only [isCanonical, Bool.and_eq_true, decide_eq_true_eq] at h
    obtain ⟨-, hp, hn⟩ := isFreeName_iff.mp h.1
    exact derives_named hn (named_reference hp h.2) wildcards
  | parameterized head args, wildcards, h => by
    simp only [isCanonical, Bool.and_eq_true, decide_eq_true_eq] at h
    obtain ⟨-, hp, hn⟩ := isFreeName_iff.mp h.1.1
    obtain ⟨d⟩ := derives_argTokens h.2
    exact (TypeDerivation.base (.parameterized hn hp h.1.2 d)).derives wildcards
  | array element, wildcards, h => by
    simp only [isCanonical] at h
    obtain ⟨d⟩ := derives_tokens h
    exact d.array.derives wildcards
  | var n, wildcards, h => by
    simp only [isCanonical, Bool.and_eq_true, decide_eq_true_eq] at h
    obtain ⟨-, hp, hn⟩ := isFreeName_iff.mp h.1
    exact derives_named hn (named_var hp h.2) wildcards
  | wildcard, wildcards, h => by
    simp only [isCanonical] at h
    subst h
    exact ⟨.wildcard⟩
  | bounded side bound, wildcards, h => by
    simp only [isCanonical, Bool.and_eq_true] at h
    obtain ⟨rfl, hbound⟩ := h
    obtain ⟨d⟩ := derives_tokens hbound
    exact ⟨.bounded side d⟩

/-- Canonical type arguments derive from their tokens. -/
theorem derives_argTokens : {args : TypeArgs} → areCanonical s args = true →
    Nonempty (ArgsDerivation s (argTokens args) args)
  | .one a, h => by
    simp only [areCanonical] at h
    obtain ⟨d⟩ := derives_tokens h
    exact ⟨.one d⟩
  | .cons a more, h => by
    simp only [areCanonical, Bool.and_eq_true] at h
    obtain ⟨d⟩ := derives_tokens h.1
    obtain ⟨ds⟩ := derives_argTokens h.2
    exact ⟨.cons d ds⟩

end

/-! ### What derives from dotted names is canonical -/

/-- All names among the tokens are dotted. -/
def HasDottedNames (ts : List Token) : Prop := ∀ n, .name n ∈ ts → isDottedName n = true

theorem HasDottedNames.of_append {ts us : List Token} (h : HasDottedNames (ts ++ us)) :
    HasDottedNames ts ∧ HasDottedNames us :=
  ⟨fun n hn => h n (List.mem_append_left us hn), fun n hn => h n (List.mem_append_right ts hn)⟩

theorem HasDottedNames.of_cons {t : Token} {ts : List Token} (h : HasDottedNames (t :: ts)) :
    HasDottedNames ts :=
  fun n hn => h n (List.mem_cons_of_mem t hn)

/-- What a name denotes is canonical. -/
theorem isCanonical_named {n : String} (hn : isTypeName n = true) (hd : isDottedName n = true)
    (wildcards : Bool) : isCanonical s wildcards (named s n) = true := by
  cases hp : Primitive.ofName? n with
  | some p =>
    rw [named, hp]
    rfl
  | none =>
    have hfree := isFreeName_iff.mpr ⟨hd, hp, hn⟩
    by_cases hs : n ∈ s
    · rw [named_var hp hs]
      simp [isCanonical, hfree, hs]
    · rw [named_reference hp hs]
      simp [isCanonical, hfree, hs]

mutual

theorem TypeDerivation.isCanonical : {ts : List Token} → {t : TypeRef} →
    TypeDerivation s ts t → HasDottedNames ts → (wildcards : Bool) →
    TypeRef.isCanonical s wildcards t = true
  | _, _, .base d, h, wildcards => d.isCanonical h wildcards
  | _, _, .array d, h, _ => by
    rw [TypeRef.isCanonical]
    exact d.isCanonical h.of_append.1 false

theorem BaseDerivation.isCanonical : {ts : List Token} → {t : TypeRef} →
    BaseDerivation s ts t → HasDottedNames ts → (wildcards : Bool) →
    TypeRef.isCanonical s wildcards t = true
  | _, _, .name hn, h, wildcards => isCanonical_named hn (h _ (List.mem_cons_self ..)) wildcards
  | _, _, .parameterized hn hp hs d, h, _ => by
    have hfree := isFreeName_iff.mpr ⟨h _ (List.mem_cons_self ..), hp, hn⟩
    have hargs := d.areCanonical h.of_cons.of_cons.of_append.1
    simp [TypeRef.isCanonical, hfree, hs, hargs]

theorem ArgsDerivation.areCanonical : {ts : List Token} → {args : TypeArgs} →
    ArgsDerivation s ts args → HasDottedNames ts → TypeRef.areCanonical s args = true
  | _, _, .one d, h => by
    rw [TypeRef.areCanonical]
    exact d.isCanonical h
  | _, _, .cons d ds, h => by
    have ha := d.isCanonical h.of_append.1
    have hmore := ds.areCanonical h.of_append.2.of_cons
    rw [TypeRef.areCanonical, ha, hmore]
    rfl

theorem ArgDerivation.isCanonical : {ts : List Token} → {t : TypeRef} →
    ArgDerivation s ts t → HasDottedNames ts → TypeRef.isCanonical s true t = true
  | _, _, .type d, h => d.isCanonical h true
  | _, _, .wildcard, _ => rfl
  | _, _, .bounded side d, h => by
    rw [TypeRef.isCanonical]
    exact d.isCanonical h.of_cons.of_cons false

end

/-! ### Both ways -/

/-- What is read is canonical, and its text has the same tokens as the text that was read. -/
theorem canonical_of_read {text : String} {t : TypeRef} (h : (read s text).outcome = .ok t) :
    Canonical s t ∧ lex text.toList = .ok t.tokens ∧ lex t.text.toList = .ok t.tokens := by
  obtain ⟨ts, hlex, ⟨d⟩⟩ := outcome_read_eq_ok_iff.mp h
  have hts := d.tokens_eq
  subst hts
  -- Names come from the text, and every name that a text spells is dotted.
  have hdotted : HasDottedNames t.tokens := fun n hn => (lex_eq_ok_iff.mp hlex).isDottedName hn
  have hcanonical : isCanonical s false t = true := d.isCanonical hdotted false
  exact ⟨hcanonical, hlex, lex_eq_ok_iff.mpr (spells_text hcanonical)⟩

/-- A canonical type is read from every text that has its tokens. -/
theorem read_of_lex {t : TypeRef} {text : String} (h : Canonical s t)
    (hlex : lex text.toList = .ok t.tokens) : (read s text).outcome = .ok t :=
  outcome_read_eq_ok_iff.mpr ⟨t.tokens, hlex, derives_tokens h⟩

/-- A canonical type is read from its text. -/
theorem read_text {t : TypeRef} (h : Canonical s t) : (read s t.text).outcome = .ok t :=
  read_of_lex h (lex_eq_ok_iff.mpr (spells_text h))

/-- **Writing and reading are inverse.** A type is read again from its text if and only if it is
canonical. Whatever is read is canonical, and written down it has the tokens it was read from. -/
theorem read_inverts_text (s : Scope) :
    (∀ t : TypeRef, (read s t.text).outcome = .ok t ↔ Canonical s t) ∧
    (∀ text t, (read s text).outcome = .ok t →
      Canonical s t ∧ ∃ ts, lex text.toList = .ok ts ∧ lex t.text.toList = .ok ts) := by
  refine ⟨fun t => ⟨fun h => (canonical_of_read h).1, read_text⟩, fun text t h => ?_⟩
  obtain ⟨hcanonical, htext, hagain⟩ := canonical_of_read h
  exact ⟨hcanonical, t.tokens, htext, hagain⟩

/-- A text with blanks of all kinds is read, and loses them when it is written. -/
theorem read_spaced_map :
    let s : Scope := ⟨["T"], by decide⟩
    let t : TypeRef := .array (.parameterized ⟨"util.Map"⟩
      (.cons (.var "T") (.one (.bounded .lower (.array (.primitive .int))))))
    (read s " util .\tMap<T ,? super int[ ] > []").outcome = .ok t ∧
      t.text = "util.Map<T, ? super int[]>[]" ∧ (read s t.text).outcome = .ok t ∧
      Canonical s t := by
  intro s t
  have hlex : lex " util .\tMap<T ,? super int[ ] > []".toList = .ok t.tokens := by decide +kernel
  have hcanonical : Canonical s t := by decide +kernel
  have hread := read_of_lex hcanonical hlex
  obtain ⟨hagain, -⟩ := (read_inverts_text s).2 _ t hread
  exact ⟨hread, by decide +kernel, ((read_inverts_text s).1 t).mpr hagain, hagain⟩

end MemberEncoding.TypeRef
