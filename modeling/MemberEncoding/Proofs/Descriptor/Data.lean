import MemberEncoding.Descriptor.Reader
import MemberEncoding.Element.Sheet
import MemberEncoding.Proofs.Reading

/-!
# MemberEncoding.Proofs.Descriptor.Data

**The data of a descriptor**, described apart from the checks on them: which data stand for a list
of texts (`StandsFor`), and which text a datum gives where there is a default (`Gives`). The lemmas
say that each step of the reader which looks at the data succeeds on exactly these.

A descriptor may get another datum under a key (`mapField`), which is then what is found there, and
nowhere else.

No step does more than one thing, so all of them are described by what makes them succeed. The error
is of interest in one place, the check of the keys, and is described where errors are.
-/

namespace MemberEncoding.Descriptor

variable {d : Descriptor}

/-! ### Keys -/

theorem sameKey_text_iff {c : Scalar} {s : String} : c.sameKey (.text s) = true ↔ c = .text s := by
  cases c with
  | text t => simp [Scalar.sameKey]
  | _ => simp [Scalar.sameKey, Scalar.quantity?]

/-- Whether all keys are known is a matter of the keys alone. -/
theorem forall_isKnown_of_map_fst_eq {d d' : Descriptor} (hkeys : d'.map (·.1) = d.map (·.1))
    (h : ∀ entry ∈ d, isKnown entry.1 = true) : ∀ entry ∈ d', isKnown entry.1 = true := by
  intro entry hentry
  have hkey : entry.1 ∈ d.map (·.1) := hkeys ▸ List.mem_map_of_mem hentry
  obtain ⟨entry', hentry', heq⟩ := List.mem_map.mp hkey
  rw [← heq]
  exact h entry' hentry'

theorem Key.ofText?_text (k : Key) : ofText? k.text = some k := by
  cases k <;> decide

theorem Key.text_injective : Function.Injective Key.text := by
  intro k l h
  have hof := congrArg ofText? h
  rwa [ofText?_text, ofText?_text, Option.some.injEq] at hof

/-- The descriptor with another datum under a key, if there is one. -/
def mapField (k : Key) (f : Value → Value) (d : Descriptor) : Descriptor :=
  d.map fun entry => if entry.1.sameKey (.text k.text) then (entry.1, f entry.2) else entry

theorem map_fst_mapField (k : Key) (f : Value → Value) (d : Descriptor) :
    (d.mapField k f).map (·.1) = d.map (·.1) := by
  rw [mapField, List.map_map]
  refine List.map_congr_left fun entry _ => ?_
  rw [Function.comp_apply]
  split <;> rfl

/-- The other datum is found under the key, and everything else as it was. -/
theorem field?_mapField (k : Key) (f : Value → Value) (d : Descriptor) (l : Key) :
    (d.mapField k f).field? l = if l = k then (d.field? l).map f else d.field? l := by
  have hkey : ∀ entry : Scalar × Value,
      (if entry.1.sameKey (.text k.text) then (entry.1, f entry.2) else entry).1 = entry.1 := by
    intro entry
    split <;> rfl
  simp only [field?, entry?, mapField, List.find?_map, Function.comp_def, hkey, Option.map_map]
  cases hfind : d.find? fun entry => entry.1.sameKey (.text l.text) with
  | none => simp
  | some entry =>
    have hfound := List.find?_some hfind
    have hsame := sameKey_text_iff.mp hfound
    by_cases hl : l = k
    · simp [hsame, hl, Scalar.sameKey]
    · have hne : l.text ≠ k.text := fun h => hl (Key.text_injective h)
      simp [hsame, hl, hne, Scalar.sameKey]

/-! ### Lists of texts -/

/-- What may stand for texts under a key: nothing at all, null, one text, or a list of texts. -/
inductive StandsFor : Option Value → List String → Prop
  | absent : StandsFor none []
  | null : StandsFor (some .null) []
  | one (s : String) : StandsFor (some (.text s)) [s]
  | list (ss : List String) : StandsFor (some (.texts ss)) ss

theorem text?_eq_some_iff {v : Value} {s : String} : text? v = some s ↔ v = .text s := by
  cases v with
  | scalar c =>
    cases c with
    | text t => simp [text?]
    | _ => simp [text?]
  | _ => simp [text?]

theorem mapM_text?_eq_some_iff {items : List Value} {ss : List String} :
    items.mapM text? = some ss ↔ items = ss.map Value.text := by
  induction items generalizing ss with
  | nil =>
    rw [List.mapM_nil]
    constructor
    · intro h
      cases h
      rfl
    · intro h
      rw [List.map_eq_nil_iff.mp h.symm]
      rfl
  | cons v items ih =>
    rw [List.mapM_cons]
    simp only [Option.bind_eq_bind, Option.bind_eq_some_iff, Option.pure_def, Option.some.injEq,
      text?_eq_some_iff, ih]
    constructor
    · intro h
      obtain ⟨s, rfl, rest, rfl, rfl⟩ := h
      rfl
    · intro h
      cases ss with
      | nil => cases h
      | cons s rest =>
        rw [List.map_cons, List.cons.injEq] at h
        exact ⟨s, h.1, rest, h.2, rfl⟩

theorem texts?_eq_some_iff {v : Value} {ss : List String} :
    texts? v = some ss ↔ StandsFor (some v) ss := by
  constructor
  · intro h
    cases v with
    | scalar c =>
      cases c with
      | null =>
        cases h
        exact .null
      | text s =>
        cases h
        exact .one s
      | _ => cases h
    | list items =>
      rw [mapM_text?_eq_some_iff.mp h]
      exact .list ss
    | _ => cases h
  · intro h
    cases h with
    | null => rfl
    | one s => rfl
    | list => exact mapM_text?_eq_some_iff.mpr rfl

theorem readTexts_eq_ok_iff {name : String} {k : Key} {ss : List String} :
    readTexts d name k = .ok ss ↔ StandsFor (d.field? k) ss := by
  unfold readTexts
  cases d.field? k with
  | none =>
    constructor
    · intro h
      cases h
      exact .absent
    · intro h
      cases h
      rfl
  | some v =>
    rw [← texts?_eq_some_iff]
    dsimp only
    cases texts? v with
    | none =>
      constructor <;> intro h <;> cases h
    | some ts =>
      constructor <;> intro h <;> cases h <;> rfl

/-! ### Texts with a default -/

/-- The text that a datum gives: the default if the datum is absent or falsy, and else its own. -/
inductive Gives (default : String) : Option Value → String → Prop
  | absent : Gives default none default
  | falsy {v} : v.isFalsy = true → Gives default (some v) default
  | text {v s} : v.isFalsy = false → v.toText? = some s → Gives default (some v) s

theorem textOf_eq_ok_iff {v : Value} {s : String} : textOf v = .ok s ↔ v.toText? = some s := by
  unfold textOf
  cases v.toText? with
  | none => constructor <;> intro h <;> cases h
  | some t => constructor <;> intro h <;> cases h <;> rfl

theorem textOr_eq_ok_iff {k : Key} {default s : String} :
    d.textOr k default = .ok s ↔ Gives default (d.field? k) s := by
  unfold textOr
  cases d.field? k with
  | none =>
    constructor
    · intro h
      cases h
      exact .absent
    · intro h
      cases h
      rfl
  | some v =>
    dsimp only
    cases hv : v.isFalsy with
    | true =>
      rw [if_pos rfl]
      constructor
      · intro h
        cases h
        exact .falsy hv
      · intro h
        cases h with
        | falsy _ => rfl
        | text hv' _ =>
          rw [hv] at hv'
          cases hv'
    | false =>
      rw [if_neg Bool.false_ne_true, textOf_eq_ok_iff]
      constructor
      · intro h
        exact .text hv h
      · intro h
        cases h with
        | falsy hv' =>
          rw [hv] at hv'
          cases hv'
        | text _ h => exact h

/-- A text that is not empty gives itself, and so does the empty text in place of itself. -/
theorem gives_text {default s : String} (h : s = "" → default = "") :
    Gives default (some (.text s)) s := by
  by_cases hs : s = ""
  · subst hs
    have hfalsy : Gives default (some (.text "")) default := .falsy rfl
    rwa [h rfl] at hfalsy ⊢
  · refine .text ?_ rfl
    simpa [Value.isFalsy, Scalar.isFalsy] using hs

/-! ### The other parts -/

theorem checkKeys_eq_ok_iff : d.checkKeys = .ok () ↔ ∀ entry ∈ d, isKnown entry.1 = true := by
  have hfilter : (d.map (·.1)).filter (fun k => !isKnown k) = [] ↔
      ∀ entry ∈ d, isKnown entry.1 = true := by
    simp [List.filter_eq_nil_iff]
  rw [← hfilter]
  unfold checkKeys
  cases (d.map (·.1)).filter fun k => !isKnown k with
  | nil => simp
  | cons k ks =>
    constructor
    · intro h
      obtain ⟨sorted, -, h⟩ := bind_eq_ok_iff.mp h
      split at h <;> cases h
    · intro h
      cases h

theorem readName_eq_ok_iff {n : String} :
    d.readName = .ok n ↔ d.field? .name = some (.text n) ∧ n ≠ "" := by
  unfold readName
  split
  · rename_i s hs
    rw [hs]
    by_cases hempty : s = ""
    · rw [if_pos hempty]
      constructor
      · intro h
        cases h
      · intro h
        obtain ⟨h, hn⟩ := h
        cases h
        exact absurd hempty hn
    · rw [if_neg hempty]
      constructor
      · intro h
        cases h
        exact ⟨rfl, hempty⟩
      · intro h
        obtain ⟨h, -⟩ := h
        cases h
        rfl
  · rename_i hnone
    constructor
    · intro h
      cases h
    · intro h
      obtain ⟨h, -⟩ := h
      exact absurd h (hnone n)

theorem readType_eq_ok_iff {name : String} {v : Value} :
    d.readType name = .ok v ↔ d.field? .type = some v := by
  unfold readType
  cases d.field? .type with
  | none => constructor <;> intro h <;> cases h
  | some w => constructor <;> intro h <;> cases h <;> rfl

theorem declaredNames_eq_ok_iff {name : String} {lines names : List String} :
    declaredNames name lines = .ok names ↔
      lines.map TypeParameter.declaredName = names ∧ names.Nodup := by
  unfold declaredNames
  dsimp only
  by_cases hnodup : (lines.map TypeParameter.declaredName).Nodup
  · rw [if_pos hnodup]
    constructor
    · intro h
      cases h
      exact ⟨rfl, hnodup⟩
    · intro h
      obtain ⟨rfl, -⟩ := h
      rfl
  · rw [if_neg hnodup]
    constructor
    · intro h
      cases h
    · intro h
      obtain ⟨rfl, h⟩ := h
      exact absurd h hnodup

end MemberEncoding.Descriptor
