import MemberEncoding.Json
import MemberEncoding.Proofs.Text.Style

/-!
# MemberEncoding.Proofs.Json

**JSON text has no style sequences,** whatever is in the data: the escape is a control, and controls
are written by their code points. So a report in JSON is printed as it is.
-/

namespace MemberEncoding.Json

open Text (IsUnstyled isUnstyled_ofList isUnstyled_intercalate not_mem_toDigits)

theorem not_mem_escapeUnit (n : Nat) : '\x1b' ∉ escapeUnit n := by
  have hhex : '\x1b' ∉ Text.hex 4 n := by
    rw [Text.hex, List.mem_append, not_or]
    refine ⟨fun hmem => ?_, not_mem_toDigits (by decide) n⟩
    exact absurd (List.eq_of_mem_replicate hmem) (by decide)
  rw [escapeUnit, List.mem_cons, List.mem_cons, not_or, not_or]
  exact ⟨by decide, by decide, hhex⟩

theorem not_mem_escape (c : Char) : '\x1b' ∉ escape c := by
  -- Only a character that stands for itself could be one.
  have hself : (0x20 ≤ c.toNat && c.toNat < 0x7F) = true → '\x1b' ∉ [c] := by
    intro h hmem
    rw [← List.mem_singleton.mp hmem] at h
    revert h
    decide
  have hprotected : (c = '"' || c = '\\') = true → '\x1b' ∉ ['\\', c] := by
    intro h
    simp only [Bool.or_eq_true, decide_eq_true_eq] at h
    rcases h with rfl | rfl <;> decide
  have hpair := fun m n => not_or.mpr ⟨not_mem_escapeUnit m, not_mem_escapeUnit n⟩
  simp only [← List.mem_append] at hpair
  unfold escape
  dsimp only
  repeat' split
  all_goals first
    | exact hprotected ‹_›
    | exact hself ‹_›
    | exact not_mem_escapeUnit _
    | exact hpair _ _
    | decide

theorem isUnstyled_quote (s : String) : IsUnstyled (quote s) := by
  refine isUnstyled_ofList fun hmem => ?_
  rw [List.mem_append, List.mem_cons, List.mem_flatMap, List.mem_singleton] at hmem
  rcases hmem with (h | ⟨c, -, hc⟩) | h
  · exact absurd h (by decide)
  · exact not_mem_escape c hc
  · exact absurd h (by decide)

theorem isUnstyled_newline (level : Nat) : IsUnstyled (newline level) := by
  refine isUnstyled_ofList fun hmem => ?_
  rcases List.mem_cons.mp hmem with h | h
  · exact absurd h (by decide)
  · exact absurd (List.eq_of_mem_replicate h) (by decide)

theorem isUnstyled_enclose (level : Nat) {opening closing : String} (ho : IsUnstyled opening)
    (hc : IsUnstyled closing) {items : List String} (h : ∀ item ∈ items, IsUnstyled item) :
    IsUnstyled (enclose level opening closing items) := by
  unfold enclose
  by_cases hnil : items = []
  · rw [if_pos hnil]
    exact ho.append hc
  · have hcomma : IsUnstyled "," := by decide
    have hitems := isUnstyled_intercalate (hcomma.append (isUnstyled_newline (level + 1))) h
    rw [if_neg hnil]
    exact (((ho.append (isUnstyled_newline _)).append hitems).append
      (isUnstyled_newline level)).append hc

mutual

theorem isUnstyled_renderAt (level : Nat) : (j : Json) → IsUnstyled (renderAt level j)
  | .text s => isUnstyled_quote s
  | .bool true => by
    rw [renderAt]
    decide
  | .bool false => by
    rw [renderAt]
    decide
  | .list items => by
    rw [renderAt]
    exact isUnstyled_enclose level (by decide) (by decide) (isUnstyled_renderItems _ items)
  | .object entries => by
    rw [renderAt]
    exact isUnstyled_enclose level (by decide) (by decide) (isUnstyled_renderEntries _ entries)

theorem isUnstyled_renderItems (level : Nat) :
    (js : List Json) → ∀ item ∈ renderItems level js, IsUnstyled item
  | [] => fun _ hitem => absurd hitem List.not_mem_nil
  | j :: js => fun item hitem => by
    rw [renderItems, List.mem_cons] at hitem
    rcases hitem with rfl | hitem
    · exact isUnstyled_renderAt level j
    · exact isUnstyled_renderItems level js item hitem

theorem isUnstyled_renderEntries (level : Nat) :
    (entries : List (String × Json)) → ∀ item ∈ renderEntries level entries, IsUnstyled item
  | [] => fun _ hitem => absurd hitem List.not_mem_nil
  | (k, j) :: entries => fun item hitem => by
    rw [renderEntries, List.mem_cons] at hitem
    rcases hitem with rfl | hitem
    · have hcolon : IsUnstyled ": " := by decide
      exact ((isUnstyled_quote k).append hcolon).append (isUnstyled_renderAt level j)
    · exact isUnstyled_renderEntries level entries item hitem

end

/-- JSON text is written without style sequences as it is. -/
theorem plain_render (j : Json) : Text.plain j.render = j.render :=
  Text.plain_of_isUnstyled (isUnstyled_renderAt 0 j)

end MemberEncoding.Json
