/-!
# MemberEncoding.Text.Repeated

**Repeated names**: the names that occur more than once (`mem_repeated`), each listed once, in code
point order (`ascending_repeated`).
-/

namespace MemberEncoding.Text

/-- Names in code point order. -/
def sortNames (names : List String) : List String :=
  names.mergeSort fun a b => !decide (b < a)

theorem mem_sortNames {names : List String} {n : String} : n ∈ sortNames names ↔ n ∈ names :=
  List.mem_mergeSort

theorem pairwise_sortNames (names : List String) : (sortNames names).Pairwise (· ≤ ·) := by
  have htrans : ∀ a b c : String, (!decide (b < a)) = true → (!decide (c < b)) = true →
      (!decide (c < a)) = true := by
    intro a b c hab hbc
    simp only [Bool.not_eq_true', decide_eq_false_iff_not, String.not_lt] at hab hbc ⊢
    exact String.le_trans hab hbc
  have htotal : ∀ a b : String, (!decide (b < a) || !decide (a < b)) = true := by
    intro a b
    simp only [Bool.or_eq_true, Bool.not_eq_true', decide_eq_false_iff_not, String.not_lt]
    exact String.le_total a b
  refine (List.pairwise_mergeSort htrans htotal names).imp fun h => ?_
  simpa only [Bool.not_eq_true', decide_eq_false_iff_not, String.not_lt] using h

/-- Distinct names are in strict order when they are sorted. -/
theorem ascending_sortNames {names : List String} (h : names.Nodup) :
    (sortNames names).Pairwise (· < ·) := by
  have hnodup : (sortNames names).Nodup := (List.mergeSort_perm names _).nodup_iff.mpr h
  refine (pairwise_sortNames names).imp₂ (fun a b hle hne => ?_) hnodup
  exact String.not_le.mp fun hge => hne (String.le_antisymm hle hge)

theorem nodup_eraseDups (names : List String) : names.eraseDups.Nodup := by
  cases names with
  | nil => simp
  | cons n names =>
    rw [List.eraseDups_cons, List.nodup_cons]
    exact ⟨by simp, nodup_eraseDups (names.filter fun m => !m == n)⟩
termination_by names.length
decreasing_by exact Nat.lt_succ_of_le (List.length_filter_le ..)

/-- The names that occur more than once, each once, in code point order. -/
def repeated (names : List String) : List String :=
  sortNames (names.filter fun n => 1 < names.count n).eraseDups

theorem mem_repeated {names : List String} {n : String} :
    n ∈ repeated names ↔ 1 < names.count n := by
  simp only [repeated, mem_sortNames, List.mem_eraseDups, List.mem_filter, decide_eq_true_eq,
    and_iff_right_iff_imp]
  exact fun h => List.count_pos_iff.mp (by omega)

theorem ascending_repeated (names : List String) : (repeated names).Pairwise (· < ·) :=
  ascending_sortNames (nodup_eraseDups _)

/-- No other list has these members in this order. -/
theorem eq_repeated_iff {names listed : List String} :
    listed = repeated names ↔
      listed.Pairwise (· < ·) ∧ ∀ n, n ∈ listed ↔ 1 < names.count n := by
  constructor
  · rintro rfl
    exact ⟨ascending_repeated names, fun n => mem_repeated⟩
  · intro h
    obtain ⟨hascending, hmem⟩ := h
    have hperm : listed.Perm (repeated names) :=
      (List.perm_ext_iff_of_nodup (hascending.imp String.ne_of_lt)
        ((ascending_repeated names).imp String.ne_of_lt)).mpr fun n =>
          (hmem n).trans mem_repeated.symm
    refine hperm.eq_of_pairwise (fun a b _ _ hab hba => ?_) hascending (ascending_repeated names)
    exact absurd (String.lt_trans hab hba) (String.lt_irrefl a)

end MemberEncoding.Text
