import MemberEncoding.Proofs.Reading
import MemberEncoding.Tag.Set

/-!
# MemberEncoding.Proofs.Tag.Names

**Tag sets from lists.** Names are read one by one, and what is offered as tags is accepted one by
one. The set does not depend on the order of a list or on repetitions. The names of a set are read
as the set again.
-/

namespace MemberEncoding

/-- A tag is read from its name. -/
theorem Tag.ofText_name (t : Tag) : Tag.ofText t.name = .ok t := by
  cases t <;> decide +kernel

theorem Tag.ofText_eq_error {s : String} {e : Error} (h : Tag.ofText s = .error e) :
    e = .unknownTag s := by
  unfold Tag.ofText at h
  cases ht : Tag.ofText? s with
  | none =>
    rw [ht] at h
    cases h
    rfl
  | some t =>
    rw [ht] at h
    cases h

namespace TagCandidate

/-- The tag offered, if it is one. -/
def tag? : TagCandidate → Option Tag
  | tag t => some t
  | other _ => none

/-- What is offered are tags, or it is refused because of something else among it. -/
theorem mapM_cases (cs : List TagCandidate) :
    (∃ ts, cs.mapM tag? = some ts ∧ cs.mapM accept = .ok ts ∧ ∀ v, other v ∉ cs) ∨
    cs.mapM tag? = none ∧ (∃ e, cs.mapM accept = .error e) ∧ ∃ v, other v ∈ cs := by
  induction cs with
  | nil => exact .inl ⟨[], rfl, rfl, fun v => List.not_mem_nil⟩
  | cons c cs ih =>
    rw [List.mapM_cons, List.mapM_cons]
    cases c with
    | other v => exact .inr ⟨rfl, ⟨_, rfl⟩, v, List.mem_cons_self ..⟩
    | tag t =>
      rcases ih with ⟨ts, htags, haccept, hnone⟩ | ⟨htags, ⟨e, haccept⟩, v, hv⟩
      · rw [htags, haccept]
        exact .inl ⟨t :: ts, rfl, rfl, by simpa using hnone⟩
      · rw [htags, haccept]
        exact .inr ⟨rfl, ⟨e, rfl⟩, v, List.mem_cons_of_mem _ hv⟩

end TagCandidate

namespace TagSet

/-- A set is the set of its members. -/
@[simp] theorem ofList_toList (s : TagSet) : ofList s.toList = s :=
  ext_mem fun t => by rw [mem_ofList, mem_toList]

theorem ofTexts_eq_ok_iff {names : List String} {s : TagSet} :
    ofTexts names = .ok s ↔
      ∃ ts, List.Forall₂ (fun name t => Tag.ofText name = .ok t) names ts ∧ ofList ts = s := by
  rw [ofTexts, map_eq_ok_iff]
  simp only [mapM_eq_ok_iff]

/-- Everything that is offered has to be a tag. -/
theorem ofCandidates_eq_ok_iff {cs : List TagCandidate} {s : TagSet} :
    ofCandidates cs = .ok s ↔ ∃ ts, cs = ts.map .tag ∧ ofList ts = s := by
  have haccept : ∀ (c : TagCandidate) (t : Tag), c.accept = .ok t ↔ c = .tag t := by
    intro c t
    cases c <;> simp [TagCandidate.accept]
  simp only [ofCandidates, map_eq_ok_iff, mapM_eq_ok_iff, haccept]
  refine exists_congr fun ts => and_congr_left fun _ => ?_
  rw [← List.forall₂_map_right_iff, List.forall₂_eq_eq_eq]

theorem exists_ofCandidates_eq_error_iff {cs : List TagCandidate} :
    (∃ e, ofCandidates cs = .error e) ↔ ∃ v, .other v ∈ cs := by
  simp only [ofCandidates, map_eq_error_iff]
  rcases TagCandidate.mapM_cases cs with ⟨ts, -, haccept, hnone⟩ | ⟨-, herror, hother⟩
  · rw [haccept]
    simpa using hnone
  · exact iff_of_true herror hother

/-- A set is read from the names of its members. -/
theorem ofTexts_names (s : TagSet) : ofTexts s.names = .ok s := by
  refine ofTexts_eq_ok_iff.mpr ⟨s.toList, ?_, ofList_toList s⟩
  rw [names, forall₂_map_self_iff]
  exact fun t _ => Tag.ofText_name t

end TagSet

end MemberEncoding
