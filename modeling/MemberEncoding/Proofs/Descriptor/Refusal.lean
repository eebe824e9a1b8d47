import MemberEncoding.Proofs.Descriptor.Data
import MemberEncoding.Proofs.Element.Rules

/-!
# MemberEncoding.Proofs.Descriptor.Refusal

**How a descriptor is refused** (`onlyRefuses_read`). Of all kinds of mistake the reader of
descriptors makes two known, values that are not acceptable and texts of types that cannot be read,
provided that the keys are texts. The kinds that are left out are those of mistakes in a program.

Keys that are no texts may have no order, and then there is no list of the unknown ones. A bound
that is no type declared by name would be a mistake of another kind where a type parameter is made,
but the bounds that get there have been checked when they were read.
-/

namespace MemberEncoding

variable {α β : Type}

/-- A value is not acceptable, or the text of a type cannot be read. -/
def Error.IsRefusal (e : Error) : Prop := e.category = .invalid ∨ e.category = .typeText

/-- A descriptor is refused, or its unknown keys cannot be put in order. -/
def Error.IsDescriptorError (e : Error) : Prop := e.IsRefusal ∨ e.category = .wrongKind

/-- A step that fails with refusals only. -/
def OnlyRefuses (x : Except Error α) : Prop := ∀ e, x = .error e → e.IsRefusal

/-! ### Sequences of steps -/

theorem onlyRefuses_ok (a : α) : OnlyRefuses (.ok a) := by
  intro e h
  cases h

theorem onlyRefuses_error {e : Error} (h : e.category = .invalid) :
    OnlyRefuses (.error e : Except Error α) := by
  intro e' he
  cases he
  exact .inl h

theorem OnlyRefuses.bind {x : Except Error α} {f : α → Except Error β} (hx : OnlyRefuses x)
    (hf : ∀ a, x = .ok a → OnlyRefuses (f a)) : OnlyRefuses (x >>= f) := by
  intro e h
  rcases bind_eq_error_iff.mp h with h | ⟨a, ha, h⟩
  · exact hx e h
  · exact hf a ha e h

theorem OnlyRefuses.map {x : Except Error α} (hx : OnlyRefuses x) (f : α → β) :
    OnlyRefuses (x.map f) := by
  intro e h
  cases x with
  | error e' =>
    cases h
    exact hx _ rfl
  | ok a => cases h

theorem onlyRefuses_mapM {f : α → Except Error β} {as : List α}
    (hf : ∀ a ∈ as, OnlyRefuses (f a)) : OnlyRefuses (as.mapM f) := by
  intro e h
  obtain ⟨a, ha, he⟩ := exists_of_mapM_eq_error h
  exact hf a ha e he

/-! ### Short forms -/

theorem onlyRefuses_readType (s : Scope) (text : String) :
    OnlyRefuses (TypeRef.read s text).outcome := by
  intro e h
  obtain ⟨fault, rfl⟩ := TypeRef.outcome_read_error h
  exact .inr rfl

theorem onlyRefuses_check (bearer : Bearer) (name : String) : OnlyRefuses (bearer.check name) :=
  fun _ h => .inl (Bearer.category_of_check_eq_error h)

theorem onlyRefuses_readParameter (s : Scope) (line : String) :
    OnlyRefuses (Parameter.read s line).outcome := by
  unfold Parameter.read
  rcases Text.cutFirst ':' line with ⟨name, _ | text⟩
  · exact onlyRefuses_error rfl
  · rw [Reading.outcome_bind]
    exact (onlyRefuses_readType s text).bind fun t _ => (onlyRefuses_check _ name).map _

theorem onlyRefuses_readBound (s : Scope) (name text : String) :
    OnlyRefuses (TypeParameter.readBound s name text).outcome := by
  rw [TypeParameter.readBound, Reading.outcome_bind]
  refine (onlyRefuses_readType s text).bind fun b _ => ?_
  split
  · exact onlyRefuses_ok b
  · exact onlyRefuses_error rfl

/-- With bounds declared by name, the name of a type parameter is all there is to refuse. -/
theorem onlyRefuses_makeTypeParameter (name : String) {bounds : List TypeRef}
    (h : ∀ b ∈ bounds, b.isNominal = true) : OnlyRefuses (TypeParameter.make name bounds) := by
  refine (onlyRefuses_check _ name).bind fun _ _ => ?_
  split
  · rename_i b hb
    have hnot := List.find?_some hb
    rw [h b (List.mem_of_find?_eq_some hb)] at hnot
    cases hnot
  · exact onlyRefuses_ok _

theorem onlyRefuses_readTypeParameter (s : Scope) (line : String) :
    OnlyRefuses (TypeParameter.read s line).outcome := by
  unfold TypeParameter.read
  rcases Text.cutFirst ':' line with ⟨name, _ | text⟩
  · show OnlyRefuses (TypeParameter.make name [])
    exact onlyRefuses_makeTypeParameter name (by simp)
  · rw [Reading.outcome_bind, Reading.outcome_mapM]
    refine (onlyRefuses_mapM fun piece _ => onlyRefuses_readBound s name piece).bind
      fun bounds hbounds => onlyRefuses_makeTypeParameter name ?_
    -- Bounds that were read are declared by name.
    have hread := mapM_eq_ok_iff.mp hbounds
    simp only [TypeParameter.outcome_readBound_eq_ok_iff] at hread
    exact (forall₂_and_right.mp hread).2

theorem onlyRefuses_ofText (template : String) : OnlyRefuses (Naming.ofText template) := by
  unfold Naming.ofText
  split
  · exact onlyRefuses_ok _
  · exact onlyRefuses_error rfl

theorem onlyRefuses_ofTexts (names : List String) : OnlyRefuses (TagSet.ofTexts names) := by
  refine (onlyRefuses_mapM fun name _ => ?_).map _
  intro e h
  rw [Tag.ofText_eq_error h]
  exact .inl rfl

theorem onlyRefuses_makeElement (p : ElementParts) : OnlyRefuses (Element.make p) :=
  fun _ h => .inl (Element.category_of_make_eq_error h)

/-! ### Data -/

namespace Descriptor

variable {d : Descriptor}

/-- All keys of the descriptor are texts. -/
def HasTextKeys (d : Descriptor) : Prop := ∀ entry ∈ d, ∃ s, entry.1 = .text s

/-- Texts have an order. -/
theorem sortKeys_ne_error {ks : List Scalar} (h : ∀ k ∈ ks, ∃ s, k = .text s) (e : Error) :
    sortKeys ks ≠ .error e := by
  intro he
  rcases bind_eq_error_iff.mp he with he | ⟨_, -, he⟩
  · obtain ⟨⟨left, right⟩, hpair, he⟩ := exists_of_mapM_eq_error he
    obtain ⟨a, rfl⟩ := h left (List.of_mem_zip hpair).1
    obtain ⟨b, rfl⟩ := h right (List.mem_of_mem_tail (List.of_mem_zip hpair).2)
    cases he
  · cases he

theorem onlyRefuses_checkKeys (h : d.HasTextKeys) : OnlyRefuses d.checkKeys := by
  unfold checkKeys
  have hunknown : ∀ k ∈ (d.map (·.1)).filter (fun k => !isKnown k), ∃ s, k = .text s := by
    intro k hk
    obtain ⟨entry, hentry, rfl⟩ := List.mem_map.mp (List.mem_filter.mp hk).1
    exact h entry hentry
  revert hunknown
  cases (d.map (·.1)).filter fun k => !isKnown k with
  | nil => exact fun _ => onlyRefuses_ok ()
  | cons k ks =>
    intro hunknown
    have hsorted : OnlyRefuses (sortKeys (k :: ks)) :=
      fun e he => absurd he (sortKeys_ne_error hunknown e)
    refine hsorted.bind fun sorted _ => ?_
    split
    · exact onlyRefuses_error rfl
    · exact onlyRefuses_error rfl

theorem onlyRefuses_readName (d : Descriptor) : OnlyRefuses d.readName := by
  unfold readName
  split
  · split
    · exact onlyRefuses_error rfl
    · exact onlyRefuses_ok _
  · exact onlyRefuses_error rfl

theorem onlyRefuses_readTypeDatum (d : Descriptor) (name : String) :
    OnlyRefuses (d.readType name) := by
  unfold readType
  split
  · exact onlyRefuses_ok _
  · exact onlyRefuses_error rfl

theorem onlyRefuses_textOf (v : Value) : OnlyRefuses (textOf v) := by
  unfold textOf
  split
  · exact onlyRefuses_ok _
  · exact onlyRefuses_error rfl

theorem onlyRefuses_textOr (d : Descriptor) (k : Key) (default : String) :
    OnlyRefuses (d.textOr k default) := by
  unfold textOr
  split
  · exact onlyRefuses_ok _
  · split
    · exact onlyRefuses_ok _
    · exact onlyRefuses_textOf _

theorem onlyRefuses_readTexts (d : Descriptor) (name : String) (k : Key) :
    OnlyRefuses (d.readTexts name k) := by
  unfold readTexts
  split
  · exact onlyRefuses_ok _
  · split
    · exact onlyRefuses_ok _
    · exact onlyRefuses_error rfl

theorem onlyRefuses_declaredNames (name : String) (lines : List String) :
    OnlyRefuses (declaredNames name lines) := by
  unfold declaredNames
  dsimp only
  split
  · exact onlyRefuses_ok _
  · exact onlyRefuses_error rfl

/-- Reading a descriptor whose keys are texts fails with refusals only. -/
theorem onlyRefuses_read (ambient : Scope) (h : d.HasTextKeys) :
    OnlyRefuses (read ambient d).outcome := by
  simp only [read, Reading.outcome_bind, Reading.outcome_of, Reading.outcome_mapM,
    Parameter.readLines]
  refine (onlyRefuses_checkKeys h).bind fun _ _ => ?_
  refine (onlyRefuses_readName d).bind fun name _ => ?_
  refine (onlyRefuses_readTypeDatum d name).bind fun typeDatum _ => ?_
  refine (onlyRefuses_readTexts d name _).bind fun lines _ => ?_
  refine (onlyRefuses_declaredNames name lines).bind fun declared _ => ?_
  refine (onlyRefuses_mapM fun line _ => onlyRefuses_readTypeParameter _ line).bind fun _ _ => ?_
  refine (onlyRefuses_textOf typeDatum).bind fun typeText _ => ?_
  refine (onlyRefuses_readType _ typeText).bind fun _ _ => ?_
  refine (onlyRefuses_textOr d _ _).bind fun template _ => ?_
  refine (onlyRefuses_ofText template).bind fun _ _ => ?_
  refine (onlyRefuses_readTexts d name _).bind fun paramLines _ => ?_
  refine (onlyRefuses_mapM fun line _ => onlyRefuses_readParameter _ line).bind fun _ _ => ?_
  refine (onlyRefuses_textOr d _ _).bind fun _ _ => ?_
  refine (onlyRefuses_readTexts d name _).bind fun texts _ => ?_
  refine (onlyRefuses_mapM fun text _ => onlyRefuses_readType _ text).bind fun _ _ => ?_
  refine (onlyRefuses_readTexts d name _).bind fun names _ => ?_
  refine (onlyRefuses_ofTexts names).bind fun _ _ => ?_
  exact onlyRefuses_makeElement _

/-! ### Keys of other kinds -/

theorem category_of_precedes_eq_error {a b : Scalar} {e : Error} (h : precedes a b = .error e) :
    e.category = .wrongKind := by
  unfold precedes at h
  split at h
  · cases h
  · cases h
  · cases h
  · cases h
  · split at h
    · cases h
    · cases h
      rfl
  · cases h
    rfl
  · cases h
    rfl
  · split at h
    · cases h
    · cases h
      rfl

theorem isDescriptorError_of_checkKeys_eq_error {e : Error} (h : d.checkKeys = .error e) :
    e.IsDescriptorError := by
  unfold checkKeys at h
  split at h
  · cases h
  · rcases bind_eq_error_iff.mp h with h | ⟨sorted, -, h⟩
    · rcases bind_eq_error_iff.mp h with h | ⟨_, -, h⟩
      · obtain ⟨⟨left, right⟩, -, h⟩ := exists_of_mapM_eq_error h
        exact .inr (category_of_precedes_eq_error h)
      · cases h
    · split at h <;> cases h <;> exact .inl (.inl rfl)

/-- Whatever its keys are, reading a descriptor fails with a refusal, or for want of an order among
them. -/
theorem isDescriptorError_of_read_eq_error {ambient : Scope} {e : Error}
    (h : (read ambient d).outcome = .error e) : e.IsDescriptorError := by
  cases hkeys : d.checkKeys with
  | error e' =>
    -- The keys are checked first, and their error ends the reading.
    simp only [read, Reading.outcome_bind, Reading.outcome_of, hkeys] at h
    cases h
    exact isDescriptorError_of_checkKeys_eq_error hkeys
  | ok _ =>
    have htexts : d.HasTextKeys := by
      intro entry hentry
      have hknown := checkKeys_eq_ok_iff.mp hkeys entry hentry
      unfold isKnown at hknown
      split at hknown
      · exact ⟨_, by assumption⟩
      · cases hknown
    exact .inl (onlyRefuses_read ambient htexts e h)

end Descriptor

end MemberEncoding
