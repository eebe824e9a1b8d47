import Mathlib.Data.List.Forall2
import MemberEncoding.Reading

/-!
# MemberEncoding.Proofs.Reading

**What came out of a sequence of steps** tells what came out of each step. A sequence succeeds when
all of its steps do, each on the results of those before it, and it fails as the first step fails
that does. For steps on a list the results stand in the relation `List.Forall₂` to the items.

The record of mentions plays no part: the outcome of a reading of a list is the reading of the
list's outcomes (`Reading.outcome_mapM`).
-/

namespace MemberEncoding

variable {ε α β : Type}

/-! ### Two steps -/

theorem bind_eq_ok_iff {x : Except ε α} {f : α → Except ε β} {b : β} :
    (x >>= f) = .ok b ↔ ∃ a, x = .ok a ∧ f a = .ok b := by
  cases x with
  | error e =>
    constructor
    · intro h
      cases h
    · intro h
      obtain ⟨a, h, -⟩ := h
      cases h
  | ok a =>
    constructor
    · intro h
      exact ⟨a, rfl, h⟩
    · intro h
      obtain ⟨a', h, hb⟩ := h
      cases h
      exact hb

theorem bind_eq_error_iff {x : Except ε α} {f : α → Except ε β} {e : ε} :
    (x >>= f) = .error e ↔ x = .error e ∨ ∃ a, x = .ok a ∧ f a = .error e := by
  cases x with
  | error e' =>
    constructor
    · intro h
      cases h
      exact .inl rfl
    · intro h
      rcases h with h | ⟨a, h, -⟩
      · cases h
        rfl
      · cases h
  | ok a =>
    constructor
    · intro h
      exact .inr ⟨a, rfl, h⟩
    · intro h
      rcases h with h | ⟨a', h, he⟩
      · cases h
      · cases h
        exact he

theorem map_eq_ok_iff {x : Except ε α} {f : α → β} {b : β} :
    x.map f = .ok b ↔ ∃ a, x = .ok a ∧ f a = b := by
  cases x with
  | error e =>
    constructor
    · intro h
      cases h
    · intro h
      obtain ⟨a, h, -⟩ := h
      cases h
  | ok a => simp [Except.map]

theorem map_eq_error_iff {x : Except ε α} {f : α → β} {e : ε} :
    x.map f = .error e ↔ x = .error e := by
  cases x <;> simp [Except.map]

/-- Two readings go on alike if they do from what was read. -/
theorem Reading.bind_congr_of_ok {r : Reading ε α} {f g : α → Reading ε β}
    (h : ∀ a, r.outcome = .ok a → f a = g a) : r >>= f = r >>= g := by
  obtain ⟨ms, x⟩ := r
  cases x with
  | error e => rfl
  | ok a =>
    show andThen _ f = andThen _ g
    simp only [andThen, h a rfl]

/-! ### A step for each item -/

/-- A list is read when each of its items is. -/
theorem mapM_eq_ok_iff {f : α → Except ε β} {as : List α} {bs : List β} :
    as.mapM f = .ok bs ↔ List.Forall₂ (fun a b => f a = .ok b) as bs := by
  induction as generalizing bs with
  | nil =>
    rw [List.mapM_nil, List.forall₂_nil_left_iff]
    constructor
    · intro h
      cases h
      rfl
    · rintro rfl
      rfl
  | cons a as ih =>
    rw [List.mapM_cons, bind_eq_ok_iff, List.forall₂_cons_left_iff]
    constructor
    · intro h
      obtain ⟨b, hb, h⟩ := h
      obtain ⟨bs', hbs', h⟩ := bind_eq_ok_iff.mp h
      cases h
      exact ⟨b, bs', hb, ih.mp hbs', rfl⟩
    · intro h
      obtain ⟨b, bs', hb, hbs', rfl⟩ := h
      exact ⟨b, hb, bind_eq_ok_iff.mpr ⟨bs', ih.mpr hbs', rfl⟩⟩

/-- A list fails as one of its items does. -/
theorem exists_of_mapM_eq_error {f : α → Except ε β} {as : List α} {e : ε}
    (h : as.mapM f = .error e) : ∃ a ∈ as, f a = .error e := by
  induction as with
  | nil => cases h
  | cons a as ih =>
    rw [List.mapM_cons] at h
    rcases bind_eq_error_iff.mp h with h | ⟨b, -, h⟩
    · exact ⟨a, List.mem_cons_self .., h⟩
    · rcases bind_eq_error_iff.mp h with h | ⟨bs, -, h⟩
      · obtain ⟨a', ha', he⟩ := ih h
        exact ⟨a', List.mem_cons_of_mem a ha', he⟩
      · cases h

/-- Causes may be dropped for the whole list or item by item. -/
theorem toOption_mapM (f : α → Except ε β) (as : List α) :
    (as.mapM f).toOption = as.mapM fun a => (f a).toOption := by
  induction as with
  | nil => rfl
  | cons a as ih =>
    rw [List.mapM_cons, List.mapM_cons, ← ih]
    cases f a with
    | error e => rfl
    | ok b => cases as.mapM f <;> rfl

theorem Reading.outcome_mapM (f : α → Reading ε β) (as : List α) :
    (as.mapM f).outcome = as.mapM fun a => (f a).outcome := by
  induction as with
  | nil => rfl
  | cons a as ih =>
    rw [List.mapM_cons, List.mapM_cons, outcome_bind]
    congr 1
    funext b
    rw [outcome_bind, ih]
    rfl

/-! ### Items and results -/

/-- Every item has a result when there are results for all of them. -/
theorem exists_forall₂_iff {r : α → β → Prop} {as : List α} :
    (∃ bs, List.Forall₂ r as bs) ↔ ∀ a ∈ as, ∃ b, r a b := by
  induction as with
  | nil => simp
  | cons a as ih =>
    constructor
    · rintro ⟨_, h⟩ a' ha'
      obtain ⟨b, bs, hab, hrest, rfl⟩ := List.forall₂_cons_left_iff.mp h
      rcases List.mem_cons.mp ha' with rfl | ha'
      · exact ⟨_, hab⟩
      · exact ih.mp ⟨_, hrest⟩ a' ha'
    · intro h
      obtain ⟨b, hb⟩ := h a (List.mem_cons_self ..)
      obtain ⟨bs, hbs⟩ := ih.mpr fun a' ha' => h a' (List.mem_cons_of_mem a ha')
      exact ⟨b :: bs, .cons hb hbs⟩

/-- All items have results, or there is a first one that has none. -/
theorem exists_forall₂_or_split (r : α → β → Prop) (as : List α) :
    (∃ bs, List.Forall₂ r as bs) ∨
    ∃ before a after bs, as = before ++ a :: after ∧ List.Forall₂ r before bs ∧ ∀ b, ¬ r a b := by
  induction as with
  | nil => exact .inl ⟨[], .nil⟩
  | cons a as ih =>
    by_cases ha : ∃ b, r a b
    · obtain ⟨b, hb⟩ := ha
      rcases ih with ⟨bs, hbs⟩ | ⟨before, a', after, bs, rfl, hbs, hnone⟩
      · exact .inl ⟨b :: bs, .cons hb hbs⟩
      · exact .inr ⟨a :: before, a', after, b :: bs, rfl, .cons hb hbs, hnone⟩
    · exact .inr ⟨[], a, as, [], rfl, .nil, fun b hb => ha ⟨b, hb⟩⟩

/-- The item at a position has its result there. -/
theorem exists_getElem?_of_forall₂ {r : α → β → Prop} {as : List α} {bs : List β}
    (h : List.Forall₂ r as bs) {i : Nat} {a : α} (ha : as[i]? = some a) :
    ∃ b, bs[i]? = some b ∧ r a b := by
  obtain ⟨hi, rfl⟩ := List.getElem?_eq_some_iff.mp ha
  have hi' : i < bs.length := h.length_eq ▸ hi
  exact ⟨bs[i], List.getElem?_eq_getElem hi', h.get hi hi'⟩

/-- What holds of each result may be told apart from how it belongs to its item. -/
theorem forall₂_and_right {r : α → β → Prop} {p : β → Prop} {as : List α} {bs : List β} :
    List.Forall₂ (fun a b => r a b ∧ p b) as bs ↔ List.Forall₂ r as bs ∧ ∀ b ∈ bs, p b := by
  constructor
  · intro h
    induction h with
    | nil => exact ⟨.nil, by simp⟩
    | cons hab _ ih =>
      refine ⟨.cons hab.1 ih.1, fun b hb => ?_⟩
      rcases List.mem_cons.mp hb with rfl | hb
      · exact hab.2
      · exact ih.2 b hb
  · intro h
    obtain ⟨h, hp⟩ := h
    induction h with
    | nil => exact .nil
    | cons hab _ ih =>
      have hb := hp _ (List.mem_cons_self ..)
      exact .cons ⟨hab, hb⟩ (ih fun b hb => hp b (List.mem_cons_of_mem _ hb))

/-- What follows for each result from how it belongs to its item holds of all results. -/
theorem forall_of_forall₂ {r : α → β → Prop} {p : β → Prop} {as : List α} {bs : List β}
    (h : List.Forall₂ r as bs) (hr : ∀ a b, r a b → p b) : ∀ b ∈ bs, p b := by
  have hboth : List.Forall₂ (fun a b => r a b ∧ p b) as bs := h.imp fun a b hab => ⟨hab, hr a b hab⟩
  exact (forall₂_and_right.mp hboth).2

/-- Items made from results belong to them if each one does. -/
theorem forall₂_map_self_iff {r : α → β → Prop} {f : β → α} {bs : List β} :
    List.Forall₂ r (bs.map f) bs ↔ ∀ b ∈ bs, r (f b) b := by
  rw [List.forall₂_map_left_iff, List.forall₂_same]

/-- A view that each result shares with its item is shared by the lists. -/
theorem map_eq_of_forall₂ {γ : Type} {r : α → β → Prop} {f : α → γ} {g : β → γ}
    (hr : ∀ a b, r a b → f a = g b) {as : List α} {bs : List β} (h : List.Forall₂ r as bs) :
    as.map f = bs.map g := by
  have heq : List.Forall₂ (fun a b => f a = g b) as bs := h.imp hr
  rwa [← List.forall₂_eq_eq_eq, List.forall₂_map_left_iff, List.forall₂_map_right_iff]

end MemberEncoding
